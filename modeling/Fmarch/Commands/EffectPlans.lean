import Fmarch.Platform.Rewards
import Fmarch.Resolver.Shape

/-!
# Effect plans (`plan_effect_events`)

A plan is checked as a whole before any of its events is appended. Its lifecycle steps are checked against
running statuses, since the table of the slots is folded only afterwards.

The running statuses are those the fold will leave, so a plan is accepted exactly when each step is allowed
after the steps before it: **`effectPlan_spec`**.
-/

namespace Fmarch.Commands.EffectPlans

open Domain (BTreeMap Float64 Pack PhaseId SlotLifecycle)
open Platform.Rewards (ConcreteEffect EffectPlan EffectVisibility GrantSpec SlotLifecycleEffect)

variable {F : Type} [Float64 F]

/-- `Reject`, as far as plans go. -/
inductive Reject where
  | unknownSlot
  | invalidTarget
  | effectSpecValidation (message : String)

/-- The statuses of `slot_state`, by slot. -/
abbrev Statuses := BTreeMap String SlotLifecycle

structure GameView (F : Type) [Float64 F] where
  phaseId : Option PhaseId
  packName : String
  pack : Pack F
  statuses : Statuses

inductive PlannedEvent (F : Type) where
  | slotStatusChanged (slotId : String) (status : SlotLifecycle) (sourceAction : String) (phaseId : PhaseId)
  | effectsMarked (effect target sourceAction : String) (phaseId : PhaseId)
      (visibility : Domain.EffectVisibility)
  | effectsCleared (effect target sourceAction : String) (phaseId : PhaseId)
  | actionGranted (grantId : String) (kind : Domain.GrantKind) (target sourceAction : String) (uses : Nat)
      (voteWeight : Option F) (phaseId : PhaseId)
  | effectNotification (status : String) (audience : List String) (phaseId : PhaseId)

/-- An event with its `meta`. -/
structure EventInput (F : Type) where
  event : PlannedEvent F
  source : String
  effectPlanReason : String
  effectPlanIndex : Nat
  dayEvent : Option (String × String)

inductive EffectApplication where
  | hostFiat (principalId commandId : String)
  | dayEvent (eventId rewardKey commandId : String)

namespace EffectApplication

def metaSource : EffectApplication → String
  | hostFiat .. => "host_fiat"
  | dayEvent .. => "day_event"

def sourceAction (operation : String) : EffectApplication → String
  | hostFiat .. => "host_fiat:" ++ operation
  | dayEvent eventId rewardKey _ => s!"day_event:{eventId}:{rewardKey}:{operation}"

/-- `grant_source`; `sha256` gives the digest in hexadecimal digits. -/
def grantSource (sha256 : String → String) (index : Nat) : EffectApplication → String
  | hostFiat principalId commandId =>
    "host_fiat:grant:" ++ sha256 (principalId ++ "\x00" ++ commandId) ++ s!":{index}"
  | dayEvent eventId rewardKey commandId => s!"day_event:{eventId}:{rewardKey}:grant:{commandId}:{index}"

def keys : EffectApplication → Option (String × String)
  | hostFiat .. => none
  | dayEvent eventId rewardKey _ => some (eventId, rewardKey)

end EffectApplication

/-! ## The checks -/

variable (view : GameView F) (application : EffectApplication) (sha256 : String → String)

def persistentEffectPolicy (effect : String) : Except Reject Domain.EffectPolicy :=
  match view.pack.effects[effect]? with
  | none =>
    .error (.effectSpecValidation
      ("effect `" ++ effect ++ "` is not declared by pack `" ++ view.packName ++ "`"))
  | some policy =>
    if policy.duration = .persistent then .ok policy
    else .error (.effectSpecValidation
      ("effect `" ++ effect ++ "` is resolution-scoped and cannot be injected persistently"))

def validatePlatformGrant (grant : GrantSpec F) : Except Reject Unit :=
  match grant.kind with
  | .extraAction => .ok ()
  | .item =>
    if view.pack.itemActions.contains grant.grantId.text then .ok ()
    else .error (.effectSpecValidation
      ("item grant `" ++ grant.grantId.text ++ "` is not declared by pack `" ++ view.packName ++ "`"))
  | .voteWeight =>
    let supported := match view.pack.vote.weights with
      | .dynamic policy => policy.grantRules.any (·.grantId == grant.grantId.text)
      | _ => false
    if supported then .ok ()
    else .error (.effectSpecValidation ("vote-weight grant `" ++ grant.grantId.text ++
      "` is not declared by pack `" ++ view.packName ++ "` dynamic vote policy"))

def requireEffectTarget (target : String) : Except Reject Unit :=
  if target ∈ view.statuses then .ok () else .error .unknownSlot

/-- `host_fiat_grant_audience`. -/
def grantAudience (target : String) : EffectVisibility → List String
  | .hidden | .actor => []
  | .target | .actorAndTarget => [target]
  | .public => (view.statuses.toList.filter (·.2 == .alive)).map (·.1)

def planSlotStatusChange (current requested : SlotLifecycle) : Except Reject Unit :=
  if requested = current ∨ (current ≠ .alive ∧ requested ≠ .alive) then .error .invalidTarget else .ok ()

/-- The `domain::SlotLifecycle` of a step. -/
def lifecycle : SlotLifecycleEffect → SlotLifecycle
  | .alive => .alive
  | .dead => .dead
  | .modkilled => .modkilled

/-! ## The plan -/

/-- One step, with the running statuses after it. -/
def planEffect (phaseId : PhaseId) (index : Nat) (states : Statuses) :
    ConcreteEffect F → Except Reject (List (PlannedEvent F) × Statuses)
  | .setSlotLifecycle target status =>
    match states[target.text]?.or view.statuses[target.text]? with
    | none => .error .unknownSlot
    | some current => do
      planSlotStatusChange current (lifecycle status)
      .ok ([.slotStatusChanged target.text (lifecycle status) (application.sourceAction "set_slot_lifecycle")
        phaseId], states.insert target.text (lifecycle status))
  | .mark target effect => do
    requireEffectTarget view target.text
    let policy ← persistentEffectPolicy view effect.text
    .ok ([.effectsMarked effect.text target.text (application.sourceAction "mark") phaseId policy.visibility],
      states)
  | .clear target effect => do
    requireEffectTarget view target.text
    let _ ← persistentEffectPolicy view effect.text
    .ok ([.effectsCleared effect.text target.text (application.sourceAction "clear") phaseId], states)
  | .grant target grant => do
    requireEffectTarget view target.text
    validatePlatformGrant view grant
    let audience := grantAudience view target.text grant.visibility
    .ok (.actionGranted grant.grantId.text grant.kind target.text (application.grantSource sha256 index)
        grant.uses grant.voteWeight phaseId ::
      if audience = [] then [] else [.effectNotification grant.grantId.text audience phaseId], states)
  | .revealAlignment _ | .revealRole _ =>
    .error (.effectSpecValidation "reveal adapters are not part of the persistent PR3 catalog")

/-- The loop over the steps, from a step on. -/
def planEffects (reason : String) (phaseId : PhaseId) : Nat → List (ConcreteEffect F) → Statuses →
    Except Reject (List (EventInput F) × Statuses)
  | _, [], states => .ok ([], states)
  | index, effect :: effects, states => do
    let (planned, states) ← planEffect view application sha256 phaseId index states effect
    let (events, states) ← planEffects reason phaseId (index + 1) effects states
    .ok (planned.map (fun event =>
      { event, source := application.metaSource, effectPlanReason := reason, effectPlanIndex := index
        dayEvent := application.keys }) ++ events, states)

def planEffectEvents (plan : EffectPlan F) (states : Statuses) :
    Except Reject (List (EventInput F) × Statuses) :=
  match view.phaseId with
  | none => .error (.effectSpecValidation "effect plans require an active phase")
  | some phaseId => planEffects view application sha256 plan.reason phaseId 0 plan.effects states

/-! ## The fold -/

def ensureSlot (statuses : Statuses) (slotId : String) : Statuses :=
  if slotId ∈ statuses then statuses else statuses.insert slotId .alive

/-- What an event makes of `slot_state`. -/
def foldEvent (statuses : Statuses) (event : PlannedEvent F) : Statuses :=
  match event with
  | .slotStatusChanged slotId status .. => statuses.insert slotId status
  | .effectsMarked _ target .. | .actionGranted _ _ target .. => ensureSlot statuses target
  | .effectsCleared .. => statuses
  | .effectNotification _ audience _ => audience.foldl ensureSlot statuses

def foldEvents (statuses : Statuses) (events : List (EventInput F)) : Statuses :=
  events.foldl (fun statuses input => foldEvent statuses input.event) statuses

/-- `apply_effect_plan`: the events are persisted and folded, or the transaction is rolled back. -/
def applyEffectPlan (plan : EffectPlan F) (stream : List (EventInput F)) : List (EventInput F) × Statuses :=
  match planEffectEvents view application sha256 plan ∅ with
  | .ok (events, _) => (stream ++ events, foldEvents view.statuses events)
  | .error _ => (stream, view.statuses)

/-! ## What is allowed -/

/-- The status a step names for a slot. -/
def named (slotId : String) : ConcreteEffect F → Option SlotLifecycle
  | .setSlotLifecycle target status => if target.text = slotId then some (lifecycle status) else none
  | _ => none

/-- A step is allowed where the slots have these statuses. -/
def StepAllowed (now : String → Option SlotLifecycle) : ConcreteEffect F → Prop
  | .setSlotLifecycle target status => ∃ current, now target.text = some current ∧
      lifecycle status ≠ current ∧ (current = .alive ∨ lifecycle status = .alive)
  | .mark target effect | .clear target effect =>
    target.text ∈ view.statuses ∧ ∃ policy, persistentEffectPolicy view effect.text = .ok policy
  | .grant target grant => target.text ∈ view.statuses ∧ validatePlatformGrant view grant = .ok ()
  | .revealAlignment _ | .revealRole _ => False

/-- Each step is allowed where the steps before it leave the slots. -/
def StepsAllowed (now : String → Option SlotLifecycle) : List (ConcreteEffect F) → Prop
  | [] => True
  | effect :: effects =>
    StepAllowed view now effect ∧ StepsAllowed (fun slotId => (named slotId effect).or (now slotId)) effects

section Spec

variable {view application sha256} {phaseId : PhaseId} {index : Nat} {states states' statuses : Statuses}
  {effect : ConcreteEffect F} {effects : List (ConcreteEffect F)} {slotId : String} {reason : String}

/-- The running statuses, over those of the table. -/
def running (view : GameView F) (states : Statuses) (slotId : String) : Option SlotLifecycle :=
  states[slotId]?.or view.statuses[slotId]?

/-- A planned step was allowed, and leaves the running statuses and the table at the status it names. -/
structure Planned (view : GameView F) (states : Statuses) (effect : ConcreteEffect F)
    (planned : List (PlannedEvent F)) (states' : Statuses) : Prop where
  allowed : StepAllowed view (running view states) effect
  states : ∀ slotId, states'[slotId]? = (named slotId effect).or states[slotId]?
  folded : ∀ statuses : Statuses, (∀ slotId ∈ view.statuses, slotId ∈ statuses) → ∀ slotId : String,
      (planned.foldl foldEvent statuses)[slotId]? = (named slotId effect).or statuses[slotId]?

theorem foldl_ensureSlot {audience : List String} (h : ∀ slotId ∈ audience, slotId ∈ statuses) :
    audience.foldl ensureSlot statuses = statuses := by
  induction audience with
  | nil => rfl
  | cons slotId audience ih =>
    rw [List.foldl_cons, ensureSlot, if_pos (h slotId List.mem_cons_self)]
    exact ih fun other hother => h other (List.mem_cons_of_mem _ hother)

theorem mem_grantAudience {target : String} {visibility : EffectVisibility} (htarget : target ∈ view.statuses)
    (h : slotId ∈ grantAudience view target visibility) : slotId ∈ view.statuses := by
  cases visibility with
  | hidden | actor => cases h
  | target | actorAndTarget => exact List.mem_singleton.1 h ▸ htarget
  | «public» =>
    obtain ⟨entry, hentry, rfl⟩ := List.mem_map.1 h
    have hsome := Std.TreeMap.mem_toList_iff_getElem?_eq_some.1 (List.mem_of_mem_filter hentry)
    exact Std.TreeMap.mem_iff_isSome_getElem?.2 (by rw [hsome]; rfl)

theorem planSlotStatusChange_eq_ok {current requested : SlotLifecycle} :
    planSlotStatusChange current requested = .ok () ↔
      requested ≠ current ∧ (current = .alive ∨ requested = .alive) := by
  cases current <;> cases requested <;> simp [planSlotStatusChange]

theorem requireEffectTarget_eq_ok {target : String} :
    requireEffectTarget view target = .ok () ↔ target ∈ view.statuses := by
  unfold requireEffectTarget
  split <;> simp_all

theorem planEffect_planned {planned : List (PlannedEvent F)}
    (h : planEffect view application sha256 phaseId index states effect = .ok (planned, states')) :
    Planned view states effect planned states' := by
  -- A step on a slot of the game that names no status leaves the table as it is.
  have keep : ∀ {target : String}, target ∈ view.statuses → ∀ statuses : Statuses,
      (∀ slotId ∈ view.statuses, slotId ∈ statuses) → ensureSlot statuses target = statuses :=
    fun htarget _ hkeeps => if_pos (hkeeps _ htarget)
  cases effect with
  | setSlotLifecycle target status =>
    simp only [planEffect] at h
    cases hcurrent : states[target.text]?.or view.statuses[target.text]? with
    | none => simp [hcurrent] at h
    | some current =>
      simp only [hcurrent, Fallible.bind_eq_ok] at h
      obtain ⟨_, hchange, h⟩ := h
      obtain ⟨rfl, rfl⟩ := Prod.mk.inj (Except.ok.inj h)
      have hinsert : ∀ (statuses : Statuses) (slotId : String),
          (statuses.insert target.text (lifecycle status))[slotId]? =
            (named slotId (.setSlotLifecycle target status : ConcreteEffect F)).or statuses[slotId]? := by
        intro statuses slotId
        rw [Std.TreeMap.getElem?_insert, named]
        by_cases heq : target.text = slotId <;> simp [heq]
      exact ⟨⟨current, hcurrent, planSlotStatusChange_eq_ok.1 hchange⟩, hinsert states,
        fun statuses _ => hinsert statuses⟩
  | mark target tag =>
    simp only [planEffect, Fallible.bind_eq_ok] at h
    obtain ⟨_, htarget, policy, hpolicy, h⟩ := h
    obtain ⟨rfl, rfl⟩ := Prod.mk.inj (Except.ok.inj h)
    have hmem := requireEffectTarget_eq_ok.1 htarget
    refine ⟨⟨hmem, policy, hpolicy⟩, fun _ => rfl, fun statuses hkeeps _ => ?_⟩
    rw [List.foldl_cons, foldEvent, keep hmem statuses hkeeps]
    rfl
  | clear target tag =>
    simp only [planEffect, Fallible.bind_eq_ok] at h
    obtain ⟨_, htarget, policy, hpolicy, h⟩ := h
    obtain ⟨rfl, rfl⟩ := Prod.mk.inj (Except.ok.inj h)
    exact ⟨⟨requireEffectTarget_eq_ok.1 htarget, policy, hpolicy⟩, fun _ => rfl, fun _ _ _ => rfl⟩
  | grant target grant =>
    simp only [planEffect, Fallible.bind_eq_ok] at h
    obtain ⟨_, htarget, _, hgrant, h⟩ := h
    obtain ⟨rfl, rfl⟩ := Prod.mk.inj (Except.ok.inj h)
    have hmem := requireEffectTarget_eq_ok.1 htarget
    refine ⟨⟨hmem, hgrant⟩, fun _ => rfl, fun statuses hkeeps slotId => ?_⟩
    rw [List.foldl_cons, foldEvent, keep hmem statuses hkeeps]
    split
    · rfl
    · rw [List.foldl_cons, foldEvent, foldl_ensureSlot fun other hother =>
        hkeeps other (mem_grantAudience hmem hother)]
      rfl
  | revealAlignment | revealRole => cases h

theorem planEffect_of_allowed (phaseId : PhaseId) (index : Nat)
    (h : StepAllowed view (running view states) effect) :
    ∃ planned states',
      planEffect view application sha256 phaseId index states effect = .ok (planned, states') := by
  cases effect with
  | setSlotLifecycle target status =>
    obtain ⟨current, hcurrent, hchange⟩ := h
    rw [running] at hcurrent
    simp only [planEffect, hcurrent]
    rw [planSlotStatusChange_eq_ok.2 hchange]
    exact ⟨_, _, rfl⟩
  | mark target tag | clear target tag =>
    obtain ⟨htarget, policy, hpolicy⟩ := h
    rw [planEffect, requireEffectTarget_eq_ok.2 htarget, hpolicy]
    exact ⟨_, _, rfl⟩
  | grant target grant =>
    rw [planEffect, requireEffectTarget_eq_ok.2 h.1, h.2]
    exact ⟨_, _, rfl⟩
  | revealAlignment | revealRole => exact h.elim

/-- The plan from a step on: it is accepted exactly when its steps are allowed, and leaves each slot at the
last status that it names. -/
theorem planEffects_spec (reason : String) (phaseId : PhaseId) (index : Nat)
    (effects : List (ConcreteEffect F)) (states : Statuses) :
    (StepsAllowed view (running view states) effects ↔
      ∃ planned, planEffects view application sha256 reason phaseId index effects states = .ok planned) ∧
    ∀ events states',
      planEffects view application sha256 reason phaseId index effects states = .ok (events, states') →
      ∀ statuses : Statuses, (∀ slotId ∈ view.statuses, slotId ∈ statuses) → ∀ slotId : String,
        (foldEvents statuses events)[slotId]? =
          (effects.filterMap (named slotId)).getLast?.or statuses[slotId]? := by
  induction effects generalizing index states with
  | nil =>
    refine ⟨iff_of_true trivial ⟨_, rfl⟩, fun events states' h statuses _ slotId => ?_⟩
    obtain ⟨rfl, -⟩ := Prod.mk.inj (Except.ok.inj h)
    rfl
  | cons effect effects ih =>
    have hafter : ∀ {planned states'}, Planned view states effect planned states' →
        (fun slotId => (named slotId effect).or (running view states slotId)) = running view states' := by
      intro planned states' hplanned
      funext slotId
      rw [running, running, hplanned.states, Option.or_assoc]
    constructor
    · rw [StepsAllowed]
      constructor
      · rintro ⟨hstep, hsteps⟩
        obtain ⟨planned, states', hplanned⟩ := planEffect_of_allowed phaseId index hstep
        rw [hafter (planEffect_planned hplanned)] at hsteps
        obtain ⟨rest, hrest⟩ := (ih (index + 1) states').1.1 hsteps
        exact ⟨_, Fallible.bind_eq_ok.2 ⟨_, hplanned, Fallible.bind_eq_ok.2 ⟨_, hrest, rfl⟩⟩⟩
      · rintro ⟨planned, h⟩
        simp only [planEffects, Fallible.bind_eq_ok] at h
        obtain ⟨⟨first, states'⟩, hfirst, rest, hrest, -⟩ := h
        have hplanned := planEffect_planned hfirst
        exact ⟨hplanned.allowed, hafter hplanned ▸ (ih (index + 1) states').1.2 ⟨rest, hrest⟩⟩
    · intro events states' h statuses hkeeps slotId
      simp only [planEffects, Fallible.bind_eq_ok] at h
      obtain ⟨⟨first, states₁⟩, hfirst, ⟨rest, states₂⟩, hrest, h⟩ := h
      obtain ⟨rfl, -⟩ := Prod.mk.inj (Except.ok.inj h)
      have hfold := (planEffect_planned hfirst).folded statuses hkeeps
      have hkeeps' : ∀ other ∈ view.statuses, other ∈ first.foldl foldEvent statuses := by
        intro other hother
        rw [Std.TreeMap.mem_iff_isSome_getElem?, hfold, Option.isSome_or,
          Std.TreeMap.mem_iff_isSome_getElem?.1 (hkeeps other hother), Bool.or_true]
      rw [foldEvents, List.foldl_append, List.foldl_map, ← foldEvents,
        (ih (index + 1) states₁).2 rest states₂ hrest _ hkeeps', hfold]
      cases hnamed : named slotId effect <;>
        cases hlater : (effects.filterMap (named slotId)).getLast? <;> simp_all [List.getLast?_cons]

/-- A plan is accepted exactly when there is a phase and each step is allowed after the steps before it, with
the running `states` of the plans before. Its events leave every slot at the last status that the plan names
for it; rejected, it appends nothing. -/
theorem effectPlan_spec (plan : EffectPlan F) (states : Statuses) (stream : List (EventInput F)) :
    ((∃ planned, planEffectEvents view application sha256 plan states = .ok planned) ↔
      view.phaseId ≠ none ∧ StepsAllowed view (running view states) plan.effects) ∧
    (∀ events states', planEffectEvents view application sha256 plan states = .ok (events, states') →
      ∀ statuses : Statuses, (∀ slotId ∈ view.statuses, slotId ∈ statuses) → ∀ slotId : String,
        (foldEvents statuses events)[slotId]? =
          (plan.effects.filterMap (named slotId)).getLast?.or statuses[slotId]?) ∧
    match planEffectEvents view application sha256 plan ∅ with
    | .ok (events, _) => applyEffectPlan view application sha256 plan stream =
        (stream ++ events, foldEvents view.statuses events)
    | .error _ => applyEffectPlan view application sha256 plan stream = (stream, view.statuses) := by
  refine ⟨?_, fun events states' h => ?_, ?_⟩
  · unfold planEffectEvents
    cases view.phaseId with
    | none => simp
    | some phaseId =>
      exact (planEffects_spec plan.reason phaseId 0 plan.effects states).1.symm.trans
        (and_iff_right (Option.some_ne_none _)).symm
  · unfold planEffectEvents at h
    cases hphase : view.phaseId with
    | none => simp [hphase] at h
    | some phaseId =>
      rw [hphase] at h
      exact (planEffects_spec plan.reason phaseId 0 plan.effects states).2 events states' h
  · unfold applyEffectPlan
    cases planEffectEvents view application sha256 plan ∅ <;> rfl
/-- Killed and revived in one plan, a slot may be modkilled. -/
theorem effectPlan_spec_revived :
    let slot : Platform.Rewards.SlotId := ⟨"slot_1", by decide⟩
    let view : GameView Rat :=
      ⟨some (.first .day), "village", Resolver.villagePack [], (∅ : Statuses).insert slot.text .alive⟩
    let plan : EffectPlan Rat :=
      ⟨.hostFiat 0x0a, [.dead, .alive, .modkilled].map (.setSlotLifecycle slot), "fiat"⟩
    ∃ events states, planEffectEvents view (.hostFiat "0a" "0b") id plan ∅ = .ok (events, states) ∧
      (foldEvents view.statuses events)["slot_1"]? = some .modkilled := by
  intro slot view plan
  obtain ⟨haccepted, hfolded, -⟩ :=
    @effectPlan_spec Rat _ view (.hostFiat "0a" "0b") id plan ∅ []
  have hallowed : StepsAllowed view (running view ∅) plan.effects := by
    simp [plan, view, StepsAllowed, StepAllowed, running, named, lifecycle]
  obtain ⟨⟨events, states⟩, hplan⟩ := haccepted.2 ⟨Option.some_ne_none _, hallowed⟩
  exact ⟨events, states, hplan, hfolded events states hplan view.statuses (fun _ => id) slot.text⟩

end Spec

end Fmarch.Commands.EffectPlans
