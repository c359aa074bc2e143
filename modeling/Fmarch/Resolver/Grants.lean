import Fmarch.Resolver.Input

/-!
# Grant consumption

`grant_consumption_events`: before the phase itself is resolved, the resolver walks the submissions
that spend a generated grant, in submission order, and plans which grant record each one uses. The
plan runs on a sorted copy of the grants; the fold (`consumeGrant`) later searches the unsorted
list again. This module proves that both pick the same record every time.

**`plan_step`**: if the plan's list is the age-sorted fold list before an event, it is after it,
and the remaining uses the event carries are those of the record the fold decrements.
-/

namespace Fmarch.Resolver

open Fmarch.Domain Keyed StableSort

variable {F : Type} [Float64 F]

/-! ## The plan -/

/-- The order in which the plan looks for a grant. -/
def grantPlanCmp : ActionGrantRecord F → ActionGrantRecord F → Ordering :=
  compareLex (compareOn (·.phaseId.number))
    (compareLex (compareOn (·.phaseId.canonical)) (compareLex (compareOn (·.actor)) (compareOn (·.grantId))))

/-- `submitted_at`, then `action_id`: the canonical order of submissions. -/
def submissionCmp : Submission → Submission → Ordering :=
  compareLex (compareOn (·.submittedAt)) (compareOn (·.actionId))

def declaredGrantUses (pack : Pack F) (grantId : Tag) : Option Nat :=
  let grants := pack.roles.values.flatMap fun role =>
    role.actions.flatMap fun action => action.grant.toList ++ action.grantOptions
  (grants.find? (·.grantId == grantId)).map (·.uses)

/-- The predicate of the `find` in `grant_consumption_events`. -/
def spendableGrant (actor : SlotId) (grantId : Tag) (grant : ActionGrantRecord F) : Bool :=
  grant.target == actor && grant.grantId == grantId && decide (0 < grant.uses)

/-- The body of the loop of `grant_consumption_events`: the grants left and the events pushed. -/
def planConsumption (input : ResolutionInput F) (grants : List (ActionGrantRecord F))
    (sub : Submission) (grantId : Tag) : List (ActionGrantRecord F) × List (InnerEvent F) :=
  match grants.find? (spendableGrant sub.actor grantId) with
  | none => (grants, [])
  | some grant =>
    if grant.kind == .item && inventoryCounterExhausted input.state.useCounters sub.actor grantId then
      (grants, [.actionInterfered sub.actor "inventory_exhausted"])
    else
      let remainingUses := grant.uses - 1
      let consumed := .actionGrantConsumed grantId sub.actor sub.actionId grant.sourceAction
        input.phaseId remainingUses
      let counted :=
        if grant.kind == .item then
          [inventoryUseCounted input sub.actor grantId sub.templateId sub.actionId
            ((declaredGrantUses input.pack.document grantId).getD (saturatingAddU16 remainingUses 1))
            remainingUses]
        else []
      (updateFirst (spendableGrant sub.actor grantId) decrementUses grants, consumed :: counted)

/-- The loop of `grant_consumption_events`. -/
def planConsumptions (input : ResolutionInput F) :
    List (ActionGrantRecord F) → List (Submission × Tag) → List (InnerEvent F)
  | _, [] => []
  | grants, (sub, grantId) :: rest =>
    let (grants, events) := planConsumption input grants sub grantId
    events ++ planConsumptions input grants rest

/-- The submissions that spend a grant, each with the grant it names, in submission order. -/
def grantSubmissions (input : ResolutionInput F) : List (Submission × Tag) :=
  sortBy (fun a b => submissionCmp a.1 b.1)
    ((input.submissions.filter (!·.withdrawn)).filterMap fun sub =>
      (submissionConsumedGrantId input sub).map fun grantId => (sub, grantId))

def grantConsumptionEvents (input : ResolutionInput F) : List (InnerEvent F) :=
  planConsumptions input (sortBy grantPlanCmp input.state.actionGrants) (grantSubmissions input)

/-! ## The grant half of the fold -/

/-- What one inner event does to the grants. -/
def grantStep (grants : List (ActionGrantRecord F)) : InnerEvent F → List (ActionGrantRecord F)
  | .actionGranted grantId grantOption kind actor target sourceAction uses voteWeight phaseId =>
    grants ++ [{ grantId, grantOption, kind, actor, target, sourceAction, uses, voteWeight, phaseId }]
  | .actionGrantConsumed grantId actor _ sourceAction _ _ =>
    consumeGrant grants grantId actor sourceAction
  | _ => grants

omit [Float64 F] in
theorem applyEvent_actionGrants (state : StateSnapshot F) (event : InnerEvent F) :
    (applyEvent state event).actionGrants = grantStep state.actionGrants event := by
  cases event with
  | effectsMarked =>
    simp only [applyEvent]
    split <;> rfl
  | _ => rfl

omit [Float64 F] in
theorem applyEvents_actionGrants (state : StateSnapshot F) (events : List (InnerEvent F)) :
    (applyEvents state events).actionGrants = events.foldl grantStep state.actionGrants := by
  induction events generalizing state with
  | nil => rfl
  | cons event events ih =>
    rw [applyEvents_cons, ih, applyEvent_actionGrants, List.foldl_cons]

/-! ## Agreement of one event -/

/-- The record the fold decrements on a consumption event, with its position. -/
def foldChoice (grants : List (ActionGrantRecord F)) (grantId : Tag) (actor : SlotId)
    (sourceAction : String) : Option (Nat × ActionGrantRecord F) :=
  minIndexBy (consumableGrant grantId actor sourceAction) grantAgeCmp grants

/-- The event creates no grant, and if it consumes one, the fold finds a record to decrement and
leaves it with the remaining uses the event announces. -/
def EventAgrees (grants : List (ActionGrantRecord F)) : InnerEvent F → Prop
  | .actionGranted .. => False
  | .actionGrantConsumed grantId actor _ sourceAction _ remainingUses =>
    ∃ i record, foldChoice grants grantId actor sourceAction = some (i, record) ∧
      record.uses = remainingUses + 1
  | _ => True

/-- Every event of the list agrees with the grants the fold has reached before it. -/
def Agrees : List (ActionGrantRecord F) → List (InnerEvent F) → Prop
  | _, [] => True
  | grants, event :: events => EventAgrees grants event ∧ Agrees (grantStep grants event) events

variable {grants : List (ActionGrantRecord F)} {actor : SlotId} {grantId : Tag} {i : Nat}
   {record : ActionGrantRecord F} {sourceAction : String} {events : List (InnerEvent F)}

section

omit [Float64 F]

theorem agrees_append {xs ys : List (InnerEvent F)} :
    Agrees grants (xs ++ ys) ↔ Agrees grants xs ∧ Agrees (xs.foldl grantStep grants) ys := by
  induction xs generalizing grants with
  | nil => simp [Agrees]
  | cons x xs ih => simp [Agrees, ih, and_assoc]

theorem grantStep_consumed {actionId : String} {phaseId : PhaseId} {remainingUses : Nat}
    (h : foldChoice grants grantId actor sourceAction = some (i, record)) :
    grantStep grants (.actionGrantConsumed grantId actor actionId sourceAction phaseId
      remainingUses) = grants.modify i decrementUses := by
  unfold foldChoice at h
  simp [grantStep, consumeGrant, h]

/-! ## The plan and the fold choose the same record -/

theorem grantPlanCmp_decrement (a b : ActionGrantRecord F) :
    grantPlanCmp (decrementUses a) b = grantPlanCmp a b ∧
      grantPlanCmp b (decrementUses a) = grantPlanCmp b a := ⟨rfl, rfl⟩

instance : Std.TransCmp (grantPlanCmp (F := F)) := by
  unfold grantPlanCmp
  infer_instance

instance : Std.TransCmp (grantAgeCmp (F := F)) := by
  unfold grantAgeCmp
  infer_instance

theorem consumable_spendable (grant : ActionGrantRecord F)
    (h : consumableGrant grantId actor sourceAction grant = true) :
    spendableGrant actor grantId grant = true := by
  simp only [consumableGrant, spendableGrant, Bool.and_eq_true] at h ⊢
  exact ⟨h.1.1, h.2⟩

/-- The first spendable grant of the sorted copy is the one the fold decrements: the plan looks
at more records, but the oldest of them carries the source action the fold then asks for. -/
theorem plan_find {grant : ActionGrantRecord F}
    (h : (sortBy grantPlanCmp grants).find? (spendableGrant actor grantId) = some grant) :
    ∃ i, minIndexBy (spendableGrant actor grantId) grantPlanCmp grants = some (i, grant) ∧
      foldChoice grants grantId actor grant.sourceAction = some (i, grant) := by
  rw [find?_sortBy, Option.map_eq_some_iff] at h
  obtain ⟨⟨i, record⟩, hmin, rfl⟩ := h
  refine ⟨i, hmin, ?_⟩
  have hsame : ∀ a b : ActionGrantRecord F, spendableGrant actor grantId a = true →
      spendableGrant actor grantId b = true → grantPlanCmp a b = grantAgeCmp a b := by
    intro a b ha hb
    have haid : a.grantId = grantId := by simp_all [spendableGrant]
    have hbid : b.grantId = grantId := by simp_all [spendableGrant]
    simp [grantPlanCmp, grantAgeCmp, compareLex, compareOn, haid, hbid]
  have hage : minIndexBy (spendableGrant actor grantId) grantAgeCmp grants = some (i, record) := by
    rw [← minIndexBy_congr hsame]
    exact hmin
  have hrecord := (minIndexBy_some hmin).2
  refine minIndexBy_of_imp consumable_spendable hage ?_
  simp only [spendableGrant, consumableGrant, Bool.and_eq_true] at hrecord ⊢
  exact ⟨⟨hrecord.1, by simp⟩, hrecord.2⟩

theorem uses_pos_of_spendable {grant : ActionGrantRecord F}
    (h : spendableGrant actor grantId grant = true) : 0 < grant.uses := by
  simp only [spendableGrant, Bool.and_eq_true, decide_eq_true_eq] at h
  exact h.2

end

/-- One submission: its events agree with the fold, and the plan's list stays the age-sorted list
of the fold. -/
theorem plan_step (input : ResolutionInput F) (grants : List (ActionGrantRecord F))
    (sub : Submission) (grantId : Tag) :
    let planned := planConsumption input (sortBy grantPlanCmp grants) sub grantId
    Agrees grants planned.2 ∧ planned.1 = sortBy grantPlanCmp (planned.2.foldl grantStep grants) := by
  unfold planConsumption
  cases hfind : (sortBy grantPlanCmp grants).find? (spendableGrant sub.actor grantId) with
  | none => exact ⟨trivial, rfl⟩
  | some grant =>
    obtain ⟨i, hmin, hchoice⟩ := plan_find hfind
    have hpos := uses_pos_of_spendable (minIndexBy_some hmin).2
    dsimp only
    split
    · exact ⟨⟨trivial, trivial⟩, rfl⟩
    · have hstep : grantStep grants (.actionGrantConsumed grantId sub.actor sub.actionId
          grant.sourceAction input.phaseId (grant.uses - 1)) = grants.modify i decrementUses :=
        grantStep_consumed hchoice
      have hcounted : ∀ rest : List (InnerEvent F), rest = (if grant.kind == .item then
            [inventoryUseCounted input sub.actor grantId sub.templateId sub.actionId
              ((declaredGrantUses input.pack.document grantId).getD
                (saturatingAddU16 (grant.uses - 1) 1)) (grant.uses - 1)] else []) →
          ∀ gs, Agrees gs rest ∧ rest.foldl grantStep gs = gs := by
        rintro rest rfl gs
        split <;> exact ⟨by simp [Agrees, EventAgrees, inventoryUseCounted], rfl⟩
      obtain ⟨hagree, hfold⟩ := hcounted _ rfl (grants.modify i decrementUses)
      constructor
      · refine ⟨⟨i, grant, hchoice, by omega⟩, ?_⟩
        rw [hstep]
        exact hagree
      · rw [List.foldl_cons, hstep, hfold]
        exact updateFirst_sortBy grantPlanCmp_decrement hmin

theorem planConsumptions_agree (input : ResolutionInput F) (subs : List (Submission × Tag))
    (grants : List (ActionGrantRecord F)) :
    Agrees grants (planConsumptions input (sortBy grantPlanCmp grants) subs) := by
  induction subs generalizing grants with
  | nil => trivial
  | cons head rest ih =>
    obtain ⟨sub, grantId⟩ := head
    obtain ⟨hagree, hsorted⟩ := plan_step input grants sub grantId
    unfold planConsumptions
    dsimp only
    rw [hsorted, agrees_append]
    exact ⟨hagree, ih _⟩

/-! ## What agreement says about the stock -/

/-- The uses an actor has left of a grant, over all its records. -/
def remainingUses (grants : List (ActionGrantRecord F)) (actor : SlotId) (grantId : Tag) : Nat :=
  ((grants.filter fun grant => grant.target == actor && grant.grantId == grantId).map (·.uses)).sum

/-- A consumption of that grant by that actor. -/
def isConsumption (actor : SlotId) (grantId : Tag) : InnerEvent F → Bool
  | .actionGrantConsumed id slot .. => slot == actor && id == grantId
  | _ => false

section

omit [Float64 F]

theorem remainingUses_cons (grant : ActionGrantRecord F) (grants : List (ActionGrantRecord F))
    (actor : SlotId) (grantId : Tag) :
    remainingUses (grant :: grants) actor grantId =
      (if grant.target == actor && grant.grantId == grantId then grant.uses else 0) +
        remainingUses grants actor grantId := by
  unfold remainingUses
  rw [List.filter_cons]
  split <;> simp

theorem remainingUses_modify (h : grants[i]? = some record) (hpos : 0 < record.uses)
    (actor : SlotId) (grantId : Tag) :
    remainingUses (grants.modify i decrementUses) actor grantId +
        (if record.target == actor && record.grantId == grantId then 1 else 0) =
      remainingUses grants actor grantId := by
  induction grants generalizing i with
  | nil => simp at h
  | cons grant grants ih =>
    cases i with
    | zero =>
      obtain rfl : grant = record := by simpa using h
      rw [List.modify_zero_cons, remainingUses_cons, remainingUses_cons]
      have htarget : (decrementUses grant).target = grant.target := rfl
      have hid : (decrementUses grant).grantId = grant.grantId := rfl
      have huses : (decrementUses grant).uses = grant.uses - 1 := rfl
      rw [htarget, hid, huses]
      split <;> omega
    | succ i =>
      rw [List.modify_succ_cons, remainingUses_cons, remainingUses_cons, ← ih (by simpa using h)]
      omega

theorem foldChoice_some (h : foldChoice grants grantId actor sourceAction = some (i, record)) :
    grants[i]? = some record ∧ record.target = actor ∧ record.grantId = grantId := by
  obtain ⟨hget, hrecord⟩ := minIndexBy_some h
  simp only [consumableGrant, Bool.and_eq_true, beq_iff_eq] at hrecord
  exact ⟨hget, hrecord.1.1.1, hrecord.1.1.2⟩

theorem remainingUses_step {event : InnerEvent F} (h : EventAgrees grants event) (actor : SlotId)
    (grantId : Tag) :
    remainingUses (grantStep grants event) actor grantId +
        (if isConsumption actor grantId event then 1 else 0) =
      remainingUses grants actor grantId := by
  cases event with
  | actionGranted => exact absurd h id
  | actionGrantConsumed id slot actionId sourceAction =>
    obtain ⟨i, record, hchoice, huses⟩ := h
    obtain ⟨hget, rfl, rfl⟩ := foldChoice_some hchoice
    rw [grantStep_consumed hchoice]
    exact remainingUses_modify hget (by omega) actor grantId
  | _ => rfl

theorem remainingUses_fold (h : Agrees grants events) (actor : SlotId) (grantId : Tag) :
    remainingUses (events.foldl grantStep grants) actor grantId +
        events.countP (isConsumption actor grantId) =
      remainingUses grants actor grantId := by
  induction events generalizing grants with
  | nil => rfl
  | cons event events ih =>
    rw [List.foldl_cons, List.countP_cons, ← remainingUses_step h.1 actor grantId, ← ih h.2]
    omega

/-- A record no consumption names keeps its position and its content. -/
theorem getElem?_fold (h : Agrees grants events) (hget : grants[i]? = some record)
    (hnone : ∀ event ∈ events, isConsumption record.target record.grantId event = false) :
    (events.foldl grantStep grants)[i]? = some record := by
  induction events generalizing grants with
  | nil => exact hget
  | cons event events ih =>
    refine ih h.2 ?_ fun e he => hnone e (List.mem_cons_of_mem event he)
    have hevent := hnone event List.mem_cons_self
    cases event with
    | actionGranted => exact absurd h.1 id
    | actionGrantConsumed id slot actionId sourceAction =>
      obtain ⟨j, found, hchoice, -⟩ := h.1
      obtain ⟨hfound, rfl, rfl⟩ := foldChoice_some hchoice
      rw [grantStep_consumed hchoice, List.getElem?_modify]
      by_cases hji : j = i
      · subst hji
        obtain rfl : found = record := by simpa [hfound] using hget
        simp [isConsumption] at hevent
      · simp [hji, hget]
    | _ => exact hget

theorem length_fold (h : Agrees grants events) : (events.foldl grantStep grants).length = grants.length := by
  induction events generalizing grants with
  | nil => rfl
  | cons event events ih =>
    rw [List.foldl_cons, ih h.2]
    cases event with
    | actionGranted => exact absurd h.1 id
    | actionGrantConsumed id slot actionId sourceAction =>
      obtain ⟨j, found, hchoice, -⟩ := h.1
      rw [grantStep_consumed hchoice, List.length_modify]
    | _ => rfl

end

/-- **The grant consumption plan agrees with the fold.** Wherever a consumption event stands in the
plan, the fold of the events before it holds a record with uses left that the event decrements, to
exactly the remaining uses announced; each actor's stock of each grant drops by its number of
consumptions; records are neither created nor removed, and those of an actor and grant without a
consumption are unchanged. -/
theorem grantConsumptionEvents_agree (input : ResolutionInput F) : let events := grantConsumptionEvents input
    let grantsAfter := fun es => (applyEvents input.state es).actionGrants
    (∀ pre post grantId actor actionId sourceAction phaseId remaining,
      events = pre ++ .actionGrantConsumed grantId actor actionId sourceAction phaseId remaining :: post →
      ∃ i record, foldChoice (grantsAfter pre) grantId actor sourceAction = some (i, record) ∧
        0 < record.uses ∧
        (grantsAfter (pre ++ [.actionGrantConsumed grantId actor actionId sourceAction phaseId
          remaining]))[i]? = some { record with uses := remaining } ∧
        record.uses = remaining + 1) ∧
    (∀ actor grantId, remainingUses (grantsAfter events) actor grantId +
        events.countP (isConsumption actor grantId) =
      remainingUses input.state.actionGrants actor grantId) ∧
    (grantsAfter events).length = input.state.actionGrants.length ∧
    (∀ (i : Nat) (record : ActionGrantRecord F), input.state.actionGrants[i]? = some record →
      (∀ event ∈ events, isConsumption record.target record.grantId event = false) →
      (grantsAfter events)[i]? = some record) := by
  intro events grantsAfter
  have hagree : Agrees input.state.actionGrants events := planConsumptions_agree input _ _
  have hafter : ∀ es, grantsAfter es = es.foldl grantStep input.state.actionGrants :=
    applyEvents_actionGrants input.state
  refine ⟨?_, ?_, ?_, ?_⟩
  · intro pre post grantId actor actionId sourceAction phaseId remaining hsplit
    rw [hsplit, agrees_append] at hagree
    obtain ⟨i, record, hchoice, huses⟩ := hagree.2.1
    refine ⟨i, record, by rw [hafter]; exact hchoice, by omega, ?_, huses⟩
    rw [hafter, List.foldl_append, List.foldl_cons, List.foldl_nil, grantStep_consumed hchoice,
      List.getElem?_modify, (foldChoice_some hchoice).1]
    simp [decrementUses, huses]
  · intro actor grantId
    rw [hafter]
    exact remainingUses_fold hagree actor grantId
  · rw [hafter]
    exact length_fold hagree
  · intro i record hget hnone
    rw [hafter]
    exact getElem?_fold hagree hget hnone

end Fmarch.Resolver
