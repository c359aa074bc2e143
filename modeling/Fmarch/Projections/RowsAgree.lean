import Fmarch.Projections.SlotRows
import Fmarch.Resolver.Shape

/-!
# The tables and the snapshot agree (`fold_inner`, `apply_events`)

A submission is decided from the tables, and resolved from the snapshot. They are two folds of one stream:
upserts under the keys of the tables, against the pushes and the removals of the reducer.

**`rows_agree`**: after every event of a stream the tables say what the snapshot says, and a submission is
decided from them as it would be from the snapshot, if every event so far fits (`Fits`): a use is the only
one of its template, actor and phase, a grant has a key of its own and is the only one to be consumed, a
queued death replaces in the queue what it replaces in the snapshot, a visit is recorded once, and no
count exceeds an `i32`. Where one does not, the two come apart (`protectedTwice_disagrees`).
-/

namespace Fmarch.Projections

open Domain Keyed StableSort Commands.ActionSubmission

variable {F : Type}

/-! ## What is to agree -/

/-- The row of a recorded use. -/
def historyRow (record : ActionUseRecord) : ActionHistoryRow :=
  { slotId := record.actor, templateId := record.templateId, phaseId := record.phaseId
    targets := record.targets, status := record.status }

/-- The row of a counter. -/
def counterRow (record : ActionCounterRecord) : CounterRow :=
  { slotId := record.actor, counterId := record.counterId, templateId := record.templateId
    consumedAction := record.consumedAction, cadencePolicy := record.cadencePolicy
    phaseScope := record.phaseScope, limitCount := record.limit, usedCount := record.used
    remainingCount := record.remaining, phaseId := record.phaseId }

/-- The row of a grant. -/
def grantRow (record : ActionGrantRecord F) : GrantRow F :=
  { slotId := record.target, grantId := record.grantId, grantOption := record.grantOption
    kind := record.kind, sourceSlot := record.actor, sourceAction := record.sourceAction
    phaseId := record.phaseId, uses := record.uses, voteWeight := record.voteWeight }

/-- The tables say what the snapshot says, in no order. -/
structure Agree (rows : GameRows F) (state : StateSnapshot F) : Prop where
  slots : SlotsAgree rows state
  history : rows.actionHistory.Perm (state.actionHistory.map historyRow)
  counters : rows.actionCounter.Perm (state.useCounters.map counterRow)
  grants : rows.actionGrant.Perm (state.actionGrants.map grantRow)
  memory : rows.investigationMemory.Perm state.investigationMemory
  deaths : rows.delayedDeathQueue.Perm state.delayedDeaths
  visits : rows.visitHistory.Perm state.visitHistory

/-! ## When they do -/

/-- What an inner event writes has the same effect on the tables and on the snapshot. -/
def Writes (state : StateSnapshot F) : InnerEvent F → Prop
  | .actionRecorded actor templateId _ phaseId _ =>
    ∀ record ∈ state.actionHistory,
      ¬ (record.actor = actor ∧ record.templateId = templateId ∧ record.phaseId = phaseId)
  | .actionUseCounted _ _ _ _ _ _ limit used remaining _ =>
    limit < 2 ^ 31 ∧ used < 2 ^ 31 ∧ remaining < 2 ^ 31
  | .actionGranted grantId _ _ actor target sourceAction uses _ phaseId =>
    uses < 2 ^ 31 ∧ ∀ grant ∈ state.actionGrants,
        ¬ (grant.target = target ∧ grant.grantId = grantId ∧ grant.actor = actor ∧
          grant.sourceAction = sourceAction ∧ grant.phaseId = phaseId)
  | .actionGrantConsumed grantId actor _ sourceAction _ _ =>
    state.actionGrants.countP (consumableGrant grantId actor sourceAction) ≤ 1
  | .delayedDeathQueued queueId target _ effect _ _ _ =>
    ∀ record ∈ state.delayedDeaths, record.queueId = queueId ↔ record.target = target ∧ record.effect = effect
  | .visitRecorded actor target templateId sourceAction phaseId visible =>
    ∀ record ∈ state.visitHistory,
      record.actor = actor → record.target = target → record.sourceAction = sourceAction →
        record = { actor, target, templateId, sourceAction, phaseId, visible }
  | _ => True

/-- An inner event fits the snapshot before it: it is about the game's slots, and what it writes has the
same effect on both sides. -/
structure FitsInner (state : StateSnapshot F) (event : InnerEvent F) : Prop where
  known : ∀ slotId ∈ GameRows.ensuredSlots event, Known state slotId
  writes : Writes state event

/-- Every inner event fits the snapshot at its turn. -/
def FitsAll : StateSnapshot F → List (InnerEvent F) → Prop
  | _, [] => True
  | state, event :: events => FitsInner state event ∧ FitsAll (applyEvent state event) events

/-- An event fits the snapshot before it. -/
def Fits [Float64 F] (pack : Pack F) (state : StateSnapshot F) : GameEvent F → Prop
  | .roleAssigned _ roleKey alignment => ∀ role ∈ pack.roles[roleKey]?, role.alignment = alignment
  | .standalone event => isStandalone event = true → FitsInner (insertMarked state event) event
  | .resolutionApplied events => FitsAll state events
  | .other slots => ∀ slotId ∈ slots, Known state slotId
  | _ => True

/-- Every event of a stream fits the snapshot at its turn. -/
def FitsFrom [Float64 F] (pack : Pack F) : StateSnapshot F → List (GameEvent F) → Prop
  | _, [] => True
  | state, event :: stream =>
    Fits pack state event ∧ ∀ next ∈ snapshotStep pack state event, FitsFrom pack next stream

section Decide

instance (state : StateSnapshot F) (event : InnerEvent F) : Decidable (Writes state event) := by
  cases event <;> unfold Writes <;> infer_instance

instance (state : StateSnapshot F) (event : InnerEvent F) : Decidable (FitsInner state event) :=
  decidable_of_iff
    ((∀ slotId ∈ GameRows.ensuredSlots event, Known state slotId) ∧ Writes state event)
    ⟨fun h => ⟨h.1, h.2⟩, fun h => ⟨h.known, h.writes⟩⟩

instance decidableFitsAll : (state : StateSnapshot F) → (events : List (InnerEvent F)) →
    Decidable (FitsAll state events)
  | _, [] => .isTrue trivial
  | state, event :: events =>
    have := decidableFitsAll (applyEvent state event) events
    inferInstanceAs (Decidable (_ ∧ _))

variable [Float64 F]

instance (pack : Pack F) (state : StateSnapshot F) (event : GameEvent F) :
    Decidable (Fits pack state event) := by
  cases event <;> unfold Fits <;> infer_instance

instance decidableFitsFrom (pack : Pack F) : (state : StateSnapshot F) →
    (stream : List (GameEvent F)) → Decidable (FitsFrom pack state stream)
  | _, [] => .isTrue trivial
  | state, event :: stream =>
    match hnext : snapshotStep pack state event with
    | none =>
      decidable_of_iff (Fits pack state event)
        ⟨fun h => ⟨h, by simp [hnext]⟩, fun h => h.1⟩
    | some next =>
      have := decidableFitsFrom pack next stream
      decidable_of_iff (Fits pack state event ∧ FitsFrom pack next stream)
        ⟨fun h => ⟨h.1, by simpa [hnext] using h.2⟩, fun h => ⟨h.1, h.2 next hnext⟩⟩

end Decide

section Agreement

variable {rows : GameRows F} {state : StateSnapshot F}

/-! ## The other tables -/

/-- What every event keeps of a snapshot. -/
structure SnapshotOk (state : StateSnapshot F) : Prop where
  distinct : DistinctSlots state
  visits : (state.visitHistory.map fun record =>
    (record.sourceAction, record.actor, record.target)).Nodup

/-- An upsert under a key nothing has appends. -/
theorem upsert_fresh {α β : Type} (row : β → α) {rows : List α} {records : List β} {same : α → Bool}
    (hperm : rows.Perm (records.map row)) (hfresh : ∀ record ∈ records, same (row record) = false)
    (new : β) : (upsert same (row new) rows).Perm ((records ++ [new]).map row) := by
  have hkept : rows.filter (fun x => !same x) = rows := by
    refine List.filter_eq_self.2 fun x hx => ?_
    obtain ⟨record, hrecord, rfl⟩ := List.mem_map.1 (hperm.subset hx)
    simp [hfresh record hrecord]
  unfold upsert
  rw [hkept, List.map_append, List.map_singleton]
  exact hperm.append_right _

/-- Upserts under the same key. -/
theorem upsert_perm {α β : Type} (row : β → α) {rows : List α} {records : List β}
    {same : α → Bool} {same' : β → Bool} (hperm : rows.Perm (records.map row))
    (hsame : ∀ record ∈ records, same (row record) = same' record) (new : β) :
    (upsert same (row new) rows).Perm ((upsert same' new records).map row) := by
  unfold upsert
  rw [List.map_append, List.map_singleton]
  refine List.Perm.append_right _ ((hperm.filter _).trans ?_)
  rw [List.filter_map]
  have hfilter : records.filter ((fun x => !same x) ∘ row) = records.filter fun x => !same' x :=
    List.filter_congr fun record hrecord => by simp [hsame record hrecord]
  rw [hfilter]

theorem history_recorded (h : rows.actionHistory.Perm (state.actionHistory.map historyRow))
    (record : ActionUseRecord)
    (hfresh : ∀ other ∈ state.actionHistory,
      ¬ (other.actor = record.actor ∧ other.templateId = record.templateId ∧
        other.phaseId = record.phaseId)) :
    (upsert (fun row => row.slotId == record.actor && row.templateId == record.templateId &&
        row.phaseId == record.phaseId)
      (historyRow record) rows.actionHistory).Perm
      ((state.actionHistory ++ [record]).map historyRow) := by
  refine upsert_fresh historyRow h (fun other hother => ?_) record
  have := hfresh other hother
  simp only [historyRow, Bool.and_eq_false_iff, beq_eq_false_iff_ne]
  tauto

theorem asI32_of_lt {n : Nat} (h : n < 2 ^ 31) : asI32 n = n := by
  unfold asI32
  rw [Int.bmod_def]
  omega

theorem counters_counted (h : rows.actionCounter.Perm (state.useCounters.map counterRow))
    (record : ActionCounterRecord)
    (hlimit : record.limit < 2 ^ 31) (hused : record.used < 2 ^ 31)
    (hremaining : record.remaining < 2 ^ 31) :
    (upsert (fun row => row.slotId == record.actor && row.counterId == record.counterId)
      { counterRow record with
        limitCount := asI32 record.limit, usedCount := asI32 record.used
        remainingCount := asI32 record.remaining } rows.actionCounter).Perm
      ((upsert (fun other => other.actor == record.actor && other.counterId == record.counterId)
        record state.useCounters).map counterRow) := by
  rw [asI32_of_lt hlimit, asI32_of_lt hused, asI32_of_lt hremaining]
  exact upsert_perm counterRow h (fun _ _ => rfl) record

theorem grants_granted (h : rows.actionGrant.Perm (state.actionGrants.map grantRow))
    (grant : ActionGrantRecord F) (huses : grant.uses < 2 ^ 31)
    (hfresh : ∀ other ∈ state.actionGrants,
      ¬ (other.target = grant.target ∧ other.grantId = grant.grantId ∧ other.actor = grant.actor ∧
        other.sourceAction = grant.sourceAction ∧ other.phaseId = grant.phaseId)) :
    (upsert (fun row => row.slotId == grant.target && row.grantId == grant.grantId &&
        row.sourceSlot == grant.actor && row.sourceAction == grant.sourceAction &&
        row.phaseId == grant.phaseId)
      { grantRow grant with uses := asI32 grant.uses } rows.actionGrant).Perm
      ((state.actionGrants ++ [grant]).map grantRow) := by
  rw [asI32_of_lt huses]
  refine upsert_fresh grantRow h (fun other hother => ?_) grant
  have := hfresh other hother
  simp only [grantRow, Bool.and_eq_false_iff, beq_eq_false_iff_ne]
  tauto

/-- A grant is consumed on both sides if it is the only one that can be. -/
theorem grants_consumed (h : rows.actionGrant.Perm (state.actionGrants.map grantRow))
    {grantId : Tag} {actor : SlotId} {sourceAction : String}
    (hone : state.actionGrants.countP (consumableGrant grantId actor sourceAction) ≤ 1) :
    (rows.actionGrant.map fun row =>
        if row.slotId = actor ∧ row.grantId = grantId ∧ row.sourceAction = sourceAction ∧
            0 < row.uses then { row with uses := max (row.uses - 1) 0 } else row).Perm
      ((consumeGrant state.actionGrants grantId actor sourceAction).map grantRow) := by
  have hconsume : consumeGrant state.actionGrants grantId actor sourceAction =
      state.actionGrants.map fun grant =>
        if consumableGrant grantId actor sourceAction grant then decrementUses grant else grant := by
    unfold consumeGrant
    split
    · rename_i i grant hfound
      obtain ⟨hi, hgrant⟩ := minIndexBy_some hfound
      exact modify_eq_map decrementUses hi hgrant hone
    · rename_i hnone
      have hnone := minIndexBy_none.1 hnone
      refine ((List.map_congr_left fun grant hgrant => ?_).trans (List.map_id _)).symm
      simp [hnone grant hgrant]
  refine (h.map _).trans (List.Perm.of_eq ?_)
  rw [hconsume, List.map_map, List.map_map]
  refine List.map_congr_left fun grant _ => ?_
  rw [Function.comp_apply, Function.comp_apply]
  have hiff : ((grantRow grant).slotId = actor ∧ (grantRow grant).grantId = grantId ∧
      (grantRow grant).sourceAction = sourceAction ∧ 0 < (grantRow grant).uses) ↔
      consumableGrant grantId actor sourceAction grant = true := by
    simp [consumableGrant, grantRow, and_assoc]
  by_cases hconsumable : consumableGrant grantId actor sourceAction grant = true
  · rw [if_pos (hiff.2 hconsumable), if_pos hconsumable]
    have hpositive : 0 < grant.uses := by
      simpa [grantRow] using (hiff.2 hconsumable).2.2.2
    simp only [grantRow, decrementUses, GrantRow.mk.injEq, true_and, and_true]
    omega
  · rw [if_neg fun hrow => hconsumable (hiff.1 hrow), if_neg hconsumable]

/-- A deletion before an upsert that deletes what it deletes and more. -/
theorem memory_recorded (h : rows.investigationMemory.Perm state.investigationMemory)
    (record : InvestigationMemoryRecord) :
    (upsert (fun row => row.investigator == record.investigator && row.target == record.target &&
        row.mode == record.mode)
      record
      (if record.scope = .investigator then
        rows.investigationMemory.filter fun row =>
          !(row.investigator == record.investigator && row.mode == record.mode)
      else rows.investigationMemory)).Perm
      (upsert (fun other => other.investigator == record.investigator && other.mode == record.mode &&
          (record.scope == .investigator || other.target == record.target))
        record state.investigationMemory) := by
  unfold upsert
  refine List.Perm.append_right _ ?_
  by_cases hscope : record.scope = .investigator
  · rw [if_pos hscope, List.filter_filter]
    refine (h.filter _).trans (List.Perm.of_eq (List.filter_congr fun row _ => ?_))
    simp only [hscope, beq_self_eq_true, Bool.true_or, Bool.and_true]
    generalize (row.investigator == record.investigator) = sameInvestigator
    generalize (row.target == record.target) = sameTarget
    generalize (row.mode == record.mode) = sameMode
    revert sameInvestigator sameTarget sameMode
    decide
  · rw [if_neg hscope]
    refine (h.filter _).trans (List.Perm.of_eq (List.filter_congr fun row _ => ?_))
    have hscope : (record.scope == .investigator) = false := by simpa using hscope
    simp only [hscope, Bool.false_or, Bool.and_assoc, Bool.and_comm (row.target == record.target)]

theorem deaths_queued (h : rows.delayedDeathQueue.Perm state.delayedDeaths) (record : DelayedDeathRecord)
    (hsame : ∀ other ∈ state.delayedDeaths,
      other.queueId = record.queueId ↔ other.target = record.target ∧ other.effect = record.effect) :
    (upsert (·.queueId == record.queueId) record rows.delayedDeathQueue).Perm
      (upsert (fun other => other.target == record.target && other.effect == record.effect) record
        state.delayedDeaths) := by
  unfold upsert
  refine List.Perm.append_right _ ((h.filter _).trans (List.Perm.of_eq ?_))
  refine List.filter_congr fun other hother => ?_
  congr 1
  rw [Bool.eq_iff_iff]
  simpa using hsame other hother

/-- A visit that is there is the only one under its key, and upserting it moves it. -/
theorem visits_recorded (h : rows.visitHistory.Perm state.visitHistory)
    (keys : (state.visitHistory.map fun record =>
      (record.sourceAction, record.actor, record.target)).Nodup) (visit : VisitRecord)
    (hsame : ∀ other ∈ state.visitHistory, other.actor = visit.actor → other.target = visit.target →
      other.sourceAction = visit.sourceAction → other = visit) :
    (upsert (fun row => row.sourceAction == visit.sourceAction && row.actor == visit.actor &&
        row.target == visit.target)
      visit rows.visitHistory).Perm
      (pushNew (fun other => other.actor == visit.actor && other.target == visit.target &&
          other.sourceAction == visit.sourceAction)
        visit state.visitHistory) := by
  have hkept : rows.visitHistory.filter (fun row => !(row.sourceAction == visit.sourceAction &&
      row.actor == visit.actor && row.target == visit.target)) =
      rows.visitHistory.filter (fun row => !(row == visit)) := by
    refine List.filter_congr fun row hrow => ?_
    congr 1
    rw [Bool.eq_iff_iff]
    simp only [Bool.and_eq_true, beq_iff_eq]
    constructor
    · rintro ⟨⟨hsource, hactor⟩, htarget⟩
      exact hsame row (h.subset hrow) hactor htarget hsource
    · rintro rfl
      exact ⟨⟨rfl, rfl⟩, rfl⟩
  unfold upsert pushNew
  rw [hkept]
  by_cases hmem : visit ∈ state.visitHistory
  · have hany : (state.visitHistory.any fun other => other.actor == visit.actor &&
        other.target == visit.target && other.sourceAction == visit.sourceAction) = true :=
      List.any_eq_true.2 ⟨visit, hmem, by simp⟩
    rw [if_pos hany]
    refine List.perm_append_comm.trans ?_
    have herase := (keys.of_map).erase_eq_filter visit
    refine ((((h.filter _).trans (List.Perm.of_eq ?_)).cons visit).trans (List.perm_cons_erase hmem).symm)
    rw [herase]
    rfl
  · have hany : (state.visitHistory.any fun other => other.actor == visit.actor &&
        other.target == visit.target && other.sourceAction == visit.sourceAction) = false := by
      refine List.any_eq_false.2 fun other hother hkey => hmem ?_
      simp only [Bool.and_eq_true, beq_iff_eq] at hkey
      exact hsame other hother hkey.1.1 hkey.1.2 hkey.2 ▸ hother
    rw [if_neg (by simp [hany])]
    refine List.Perm.append_right _ ((List.Perm.of_eq (List.filter_eq_self.2 fun row hrow => ?_)).trans h)
    have hne : row ≠ visit := fun heq => hmem (heq ▸ h.subset hrow)
    simp [hne]

/-! ## One inner event -/

theorem Agree.setSlotStatus (agree : Agree rows state) {slotId : SlotId} {status : SlotLifecycle}
    {slots : List Domain.SlotState}
    (hslots : SlotsAgree (rows.setSlotStatus slotId status) { state with slots }) :
    Agree (rows.setSlotStatus slotId status) { state with slots } := by
  unfold GameRows.setSlotStatus at hslots ⊢
  dsimp only at hslots ⊢
  split at hslots <;> rename_i halive
  · rw [if_pos halive]
    exact { agree with slots := hslots }
  · rw [if_neg halive]
    exact { agree with slots := hslots }

theorem Agree.write (agree : Agree rows state) (ok : SnapshotOk state) {event : InnerEvent F}
    (writes : Writes state event) : Agree (rows.write event) (applyEvent state event) := by
  have hslots := agree.slots.write ok.distinct event
  cases event with
  | playerKilled slotId =>
    simp only [GameRows.write] at hslots ⊢
    exact agree.setSlotStatus hslots
  | effectsMarked effect target actor sourceAction phaseId duration visibility =>
    by_cases hduration : duration = .persistent
    · simp only [applyEvent, if_pos hduration] at hslots ⊢
      exact { agree with slots := hslots }
    · simp only [applyEvent, if_neg hduration]
      exact agree
  | actionRecorded actor templateId targets phaseId status =>
    exact { agree with
      history := history_recorded agree.history { actor, templateId, targets, phaseId, status }
        writes }
  | actionUseCounted counterId actor templateId consumedAction cadencePolicy phaseScope limit used
      remaining phaseId =>
    exact { agree with
      counters := counters_counted agree.counters
        { counterId, actor, templateId, consumedAction, cadencePolicy, phaseScope, limit, used,
          remaining, phaseId }
        writes.1 writes.2.1 writes.2.2 }
  | investigationMemoryRecorded investigator target mode scope result sourceAction templateId phaseId =>
    exact { agree with
      memory := memory_recorded agree.memory
        { investigator, target, mode, scope, result, sourceAction, templateId, phaseId } }
  | delayedDeathQueued queueId target cause effect source sourceAction phaseId =>
    exact { agree with
      deaths := deaths_queued agree.deaths
        { queueId, target, cause, effect, source, sourceAction, phaseId } writes }
  | delayedDeathResolved => exact { agree with deaths := agree.deaths.filter _ }
  | visitRecorded actor target templateId sourceAction phaseId visible =>
    exact { agree with
      visits := visits_recorded agree.visits ok.visits
        { actor, target, templateId, sourceAction, phaseId, visible } writes }
  | actionGranted grantId grantOption kind actor target sourceAction uses voteWeight phaseId =>
    exact { agree with
      grants := grants_granted agree.grants
        { grantId, grantOption, kind, actor, target, sourceAction, uses, voteWeight, phaseId }
        writes.1 writes.2 }
  | actionGrantConsumed => exact { agree with grants := grants_consumed agree.grants writes }
  | _ => exact { agree with slots := hslots }

theorem SnapshotOk.applyEvent (ok : SnapshotOk state) (event : InnerEvent F) :
    SnapshotOk (applyEvent state event) := by
  refine ⟨ok.distinct.applyEvents [event], ?_⟩
  cases event with
  | visitRecorded actor target templateId sourceAction phaseId visible =>
    refine map_pushNew_nodup _ (fun record hrecord => ?_) ok.visits
    simp only [Prod.mk.injEq] at hrecord
    simp [hrecord]
  | effectsMarked =>
    simp only [Domain.applyEvent]
    split <;> exact ok.visits
  | _ => exact ok.visits

theorem Agree.foldAll (agree : Agree rows state) (ok : SnapshotOk state)
    {events : List (InnerEvent F)} (fits : FitsAll state events) :
    Agree (events.foldl GameRows.foldInner rows) (applyEvents state events) ∧
      SnapshotOk (applyEvents state events) := by
  induction events generalizing rows state with
  | nil => exact ⟨agree, ok⟩
  | cons event events ih =>
    have hevent : Agree (rows.foldInner event) (applyEvent state event) := by
      unfold GameRows.foldInner
      rw [agree.slots.ensureSlots_known fits.1.known]
      exact agree.write ok fits.1.writes
    exact ih hevent (ok.applyEvent event) fits.2

/-! ## One stored event -/

theorem FitsAll.known {events : List (InnerEvent F)} (fits : FitsAll state events) :
    ∀ event ∈ events, ∀ slotId ∈ GameRows.ensuredSlots event, Known state slotId := by
  induction events generalizing state with
  | nil => simp
  | cons event events ih =>
    refine List.forall_mem_cons.2 ⟨fits.1.known, fun other hother slotId hslot => ?_⟩
    exact (known_applyEvent event).1 (ih fits.2 other hother slotId hslot)

theorem Fits.slots [Float64 F] {pack : Pack F} {event : GameEvent F}
    (fits : Fits pack state event) : FitsSlots pack state event := by
  cases event with
  | standalone event => exact fun hstandalone => (fits hstandalone).known
  | resolutionApplied events => exact FitsAll.known fits
  | _ => exact fits

theorem assignEffects_eq (slotId : SlotId) (effects : List Tag) (state : StateSnapshot F) :
    ∃ slots effectRecords, effects.foldl (assignEffect slotId) state =
      { state with slots, effectRecords } := by
  induction effects generalizing state with
  | nil => exact ⟨state.slots, state.effectRecords, rfl⟩
  | cons effect effects ih =>
    obtain ⟨slots, effectRecords, heq⟩ := ih (assignEffect slotId state effect)
    exact ⟨slots, effectRecords, heq⟩

theorem insertMarked_eq (state : StateSnapshot F) (event : InnerEvent F) :
    ∃ slots, insertMarked state event = { state with slots } := by
  unfold insertMarked
  split
  · exact ⟨_, rfl⟩
  · exact ⟨state.slots, rfl⟩

/-- One event that fits keeps the tables and the snapshot agreeing. -/
theorem Agree.step [Float64 F] {pack : Pack F} (agree : Agree rows state) (ok : SnapshotOk state)
    {event : GameEvent F} (fits : Fits pack state event) {next : StateSnapshot F}
    (hstep : snapshotStep pack state event = some next) :
    Agree (rows.fold event) next ∧ SnapshotOk next := by
  obtain ⟨hslots, hdistinct⟩ := agree.slots.step ok.distinct fits.slots hstep
  cases event with
  | roleAssigned slotId roleKey alignment =>
    obtain ⟨role, -, rfl⟩ := Option.map_eq_some_iff.1 hstep
    obtain ⟨slots, effectRecords, heq⟩ := assignEffects_eq slotId role.effects
      { orInsertSlot state slotId with
        slots := updateSlot (orInsertSlot state slotId).slots slotId fun slot =>
          { slot with roleKey, alignment := role.alignment } }
    dsimp only at hslots hdistinct ⊢
    rw [heq] at hslots hdistinct ⊢
    exact ⟨{ agree with slots := hslots }, ⟨hdistinct, ok.visits⟩⟩
  | slotStatusChanged slotId status =>
    obtain rfl := Option.some.inj hstep
    have hensured : Agree (rows.ensureSlot slotId) (orInsertSlot state slotId) :=
      { agree with slots := (agree.slots.ensureSlot ok.distinct slotId).1 }
    exact ⟨hensured.setSlotStatus hslots, ⟨hdistinct, ok.visits⟩⟩
  | standalone event =>
    obtain rfl := Option.some.inj hstep
    by_cases hstandalone : isStandalone event = true
    · simp only [GameRows.fold, if_pos hstandalone]
      obtain ⟨hmarked, hmarkedDistinct⟩ :=
        agree.slots.insertMarked ok.distinct (fits hstandalone).known
      obtain ⟨slots, hstate⟩ := insertMarked_eq state event
      obtain ⟨slotState, hrows⟩ := ensureSlots_eq (GameRows.ensuredSlots event) rows
      have hensured : Agree ((GameRows.ensuredSlots event).foldl GameRows.ensureSlot rows)
          (insertMarked state event) := by
        rw [hstate, hrows] at hmarked ⊢
        exact { agree with slots := hmarked }
      have hok : SnapshotOk (insertMarked state event) := by
        refine ⟨hmarkedDistinct, ?_⟩
        rw [hstate]
        exact ok.visits
      exact ⟨hensured.write hok (fits hstandalone).writes, hok.applyEvent event⟩
    · simp only [GameRows.fold, if_neg hstandalone]
      exact ⟨agree, ok⟩
  | resolutionApplied events =>
    obtain rfl := Option.some.inj hstep
    exact agree.foldAll ok fits
  | submission event =>
    obtain rfl := Option.some.inj hstep
    exact ⟨by cases event <;> exact { agree with }, ok⟩
  | other slots =>
    obtain rfl := Option.some.inj hstep
    simp only [GameRows.fold]
    rw [agree.slots.ensureSlots_known fits]
    exact ⟨agree, ok⟩
  | _ =>
    obtain rfl := Option.some.inj hstep
    exact ⟨{ agree with slots := hslots }, ⟨hdistinct, ok.visits⟩⟩

end Agreement

/-! ## Deciding from the tables -/

section Decisions

variable [Float64 F]

/-- The columns of `action_counter` that the commands read. -/
def CounterRow.selected (row : CounterRow) : ActionCounterRow :=
  { slotId := row.slotId, counterId := row.counterId, remaining := row.remainingCount
    phaseId := row.phaseId }

/-- The columns of `action_grant` that the commands read. -/
def GrantRow.selected (row : GrantRow F) : ActionGrantRow :=
  { slotId := row.slotId, grantId := row.grantId, kind := grantKindName row.kind
    phaseId := row.phaseId, uses := row.uses }

/-- What the commands read, with the tables' rows. -/
def GameRows.view (rows : GameRows F) (view : View F) : View F :=
  { view with
    slots := rows.slotState
    actionCounters := rows.actionCounter.map CounterRow.selected
    actionHistory := rows.actionHistory
    actionGrants := rows.actionGrant.map GrantRow.selected }

/-- The row of a slot that has a role. -/
def slotRow (slot : Domain.SlotState) : SlotStateRow :=
  { slotId := slot.slotId, alive := slot.isAlive, roleKey := some slot.roleKey
    alignment := slot.alignment }

/-- What the commands would read if they read the snapshot. -/
def snapshotView (state : StateSnapshot F) (view : View F) : View F :=
  { view with
    slots := state.slots.map slotRow
    actionCounters := state.useCounters.map fun record => (counterRow record).selected
    actionHistory := state.actionHistory.map historyRow
    actionGrants := state.actionGrants.map fun grant => (grantRow grant).selected }

/-- The row of the facts of a slot that has a role. -/
def factsRow (facts : SlotFacts) : SlotStateRow :=
  { slotId := facts.slotId, alive := facts.alive, roleKey := some facts.roleKey
    alignment := facts.alignment }

/-- Every slot has a role, which `current_snapshot` requires at its end. -/
def Assigned (state : StateSnapshot F) : Prop := ∀ slot ∈ state.slots, slot.roleKey ≠ ""

theorem targetRoleFilterRejected_perm {slots slots' : List SlotStateRow} (h : slots.Perm slots')
    (hnodup : (slots.map (·.slotId)).Nodup) (pack : Pack F) (template : ActionTemplate F)
    (targets : List SlotId) :
    targetRoleFilterRejected pack template targets slots =
      targetRoleFilterRejected pack template targets slots' := by
  unfold targetRoleFilterRejected
  simp only [find?_perm SlotStateRow.slotId h hnodup]

theorem roleModifierTeamKillRejected_perm {slots slots' : List SlotStateRow}
    (h : slots.Perm slots') (pack : Pack F) (role : Role F) (template : ActionTemplate F)
    (actor : SlotStateRow) :
    roleModifierTeamKillRejected pack role template actor slots =
      roleModifierTeamKillRejected pack role template actor slots' := by
  unfold roleModifierTeamKillRejected
  have hteam := h.filter fun slot =>
    slot.slotId != actor.slotId && slot.alive && slot.alignment == some "mafia"
  simp only [hteam.any_eq, hteam.isEmpty_eq]

/-- The tables a submission is decided from are in no order. -/
theorem validateActionSubmission_perm {view view' : View F} (hpack : view.pack = view'.pack)
    (hname : view.packName = view'.packName) (hslots : view.slots.Perm view'.slots)
    (hnodup : (view.slots.map (·.slotId)).Nodup)
    (hcounters : view.actionCounters.Perm view'.actionCounters)
    (hhistory : view.actionHistory.Perm view'.actionHistory)
    (hgrants : view.actionGrants.Perm view'.actionGrants) (subs : List SubmissionRow)
    (phaseId : PhaseId) (request : ActionSubmissionRequest) :
    validateActionSubmission view subs phaseId request =
      validateActionSubmission view' subs phaseId request := by
  have hexhausted (counterId : Tag) : counterExhausted view request.actorSlot counterId =
      counterExhausted view' request.actorSlot counterId := hcounters.any_eq
  have hcooldown (templateId : String) : onCooldown view phaseId request.actorSlot templateId =
      onCooldown view' phaseId request.actorSlot templateId := by
    funext cycles
    exact hcounters.any_eq
  have hrepeated (template : ActionTemplate F) : targetRepeated view phaseId template request =
      targetRepeated view' phaseId template request := hhistory.any_eq
  have hgranted (grantId : Tag) (kind : GrantKind) : grantedUses view phaseId request.actorSlot grantId kind =
        grantedUses view' phaseId request.actorSlot grantId kind :=
    ((hgrants.filter _).map _).sum_eq
  have hcapacity (template : ActionTemplate F) (source : ActionSource) (active : List ActiveAction) :
      validateActionSlotCapacity view phaseId request.actorSlot template request.templateId
          request.grantId source active =
        validateActionSlotCapacity view' phaseId request.actorSlot template request.templateId
          request.grantId source active := by
    unfold validateActionSlotCapacity
    simp only [hgranted]
  have halive (slot : SlotId) : slotAlive view slot = slotAlive view' slot := by
    unfold slotAlive
    rw [find?_perm SlotStateRow.slotId hslots hnodup]
  have htargets (targetState : TargetState) (targets : List SlotId) :
      validateTargetStates view targetState targets = validateTargetStates view' targetState targets := by
    unfold validateTargetStates
    simp only [halive]
  unfold validateActionSubmission
  simp only [hpack, hname, hexhausted, hcooldown, hrepeated, hcapacity, htargets,
    find?_perm SlotStateRow.slotId hslots hnodup, hslots.countP_eq,
    targetRoleFilterRejected_perm hslots hnodup, roleModifierTeamKillRejected_perm hslots]

variable {rows : GameRows F} {state : StateSnapshot F}

omit [Float64 F] in
/-- Where every slot has a role, the rows of the slots are those of the snapshot. -/
theorem Agree.slotRows (agree : Agree rows state) (assigned : Assigned state) :
    rows.slotState.Perm (state.slots.map slotRow) := by
  have hrows : (rows.slotState.map rowFacts).map factsRow = rows.slotState := by
    rw [List.map_map]
    refine (List.map_congr_left fun row hrow => ?_).trans (List.map_id _)
    obtain ⟨slot, hslot, hfacts⟩ :=
      List.mem_map.1 (agree.slots.subset (List.mem_map_of_mem (f := rowFacts) hrow))
    have hrole : slot.roleKey = row.roleKey.getD "" := congrArg SlotFacts.roleKey hfacts
    obtain ⟨slotId, alive, roleKey, alignment⟩ := row
    cases roleKey with
    | none => exact absurd hrole (assigned slot hslot)
    | some roleKey => rfl
  have hslots : (state.slots.map slotFacts).map factsRow = state.slots.map slotRow := by
    rw [List.map_map]
    rfl
  rw [← hrows, ← hslots]
  exact agree.slots.map _

/-- A submission is decided from the tables as it would be from the snapshot. -/
theorem Agree.decides (agree : Agree rows state) (ok : SnapshotOk state) (assigned : Assigned state)
    (view : View F) (subs : List SubmissionRow) (phaseId : PhaseId)
    (request : ActionSubmissionRequest) :
    validateActionSubmission (rows.view view) subs phaseId request =
      validateActionSubmission (snapshotView state view) subs phaseId request := by
  have hslots := agree.slotRows assigned
  refine @validateActionSubmission_perm F _ (rows.view view) (snapshotView state view) rfl rfl hslots
    ?_ ?_ agree.history ?_ subs phaseId request
  · have hids : (state.slots.map slotRow).map (·.slotId) = state.slots.map (·.slotId) := by
      rw [List.map_map]
      rfl
    refine (hslots.map _).nodup_iff.2 ?_
    rw [hids]
    exact ok.distinct
  · have hcounters := agree.counters.map CounterRow.selected
    rwa [List.map_map] at hcounters
  · have hgrants := agree.grants.map GrantRow.selected
    rwa [List.map_map] at hgrants

end Decisions

/-! ## Streams -/

section Streams

variable [Float64 F] {pack : Pack F}

theorem Agree.run {rows : GameRows F} {state : StateSnapshot F} (agree : Agree rows state)
    (ok : SnapshotOk state) {stream : List (GameEvent F)} (fits : FitsFrom pack state stream)
    {before : List (GameEvent F)} (hbefore : before <+: stream) {after : StateSnapshot F}
    (hafter : before.foldlM (snapshotStep pack) state = some after) :
    Agree (before.foldl GameRows.fold rows) after ∧ SnapshotOk after := by
  induction before generalizing rows state stream with
  | nil =>
    obtain rfl := Option.some.inj hafter
    exact ⟨agree, ok⟩
  | cons event before ih =>
    obtain ⟨rest, rfl⟩ := hbefore
    rw [List.foldlM_cons] at hafter
    obtain ⟨next, hnext, hafter⟩ := Option.bind_eq_some_iff.1 hafter
    obtain ⟨hagree, hok⟩ := agree.step ok fits.1 hnext
    exact ih hagree hok (fits.2 next hnext) (List.prefix_append before rest) hafter

/-- **After every event of a stream whose events fit, the tables agree with the snapshot, and a submission
is decided from them as it would be from the snapshot.** -/
theorem rows_agree {phaseId : PhaseId} {stream : List (GameEvent F)}
    (fits : FitsFrom pack (emptySnapshot phaseId) stream) :
    ∀ before, before <+: stream → ∀ state, currentSnapshot pack phaseId before = some state →
        Agree (gameRows before) state ∧ (Assigned state → ∀ view subs phaseId request,
            validateActionSubmission ((gameRows before).view view) subs phaseId request =
              validateActionSubmission (snapshotView state view) subs phaseId request) := by
  intro before hbefore state hstate
  have hstart : Agree ({} : GameRows F) (emptySnapshot phaseId) := by
    refine ⟨?_, ?_, ?_, ?_, ?_, ?_, ?_⟩ <;> simp [emptySnapshot, SlotsAgree]
  have hok : SnapshotOk (emptySnapshot phaseId : StateSnapshot F) := by
    refine ⟨?_, ?_⟩ <;> simp [emptySnapshot, DistinctSlots]
  obtain ⟨hagree, hafter⟩ := hstart.run hok fits hbefore hstate
  exact ⟨hagree, fun assigned view subs phaseId request =>
    hagree.decides hafter assigned view subs phaseId request⟩

end Streams

/-! ## A template used twice in one night -/

open Resolver

/-- The pack of a doctor who may protect several others in a night, but nobody on two nights in a row. -/
def doctorPack : ValidatedPack Rat :=
  ⟨{ villagePack [] with
      roles := ((villagePack []).roles.insert "doctor"
        { alignment := some "town"
          actions := [nightAction "protect" .protect 70 [] [.simultaneous, .nonConsecutive]] }) },
    [.protect], .of_plain (by decide) rfl rfl⟩

/-- A doctor, two townies and a goon. -/
def doctorSetup : List (GameEvent Rat) :=
  [.slotAdded "d", .slotAdded "b", .slotAdded "c", .slotAdded "g",
    .roleAssigned "d" "doctor" (some "town"), .roleAssigned "b" "townie" (some "town"),
    .roleAssigned "c" "townie" (some "town"), .roleAssigned "g" "goon" (some "mafia")]

/-- The doctor protects some others, in the first night. -/
def doctorNight (targets : List SlotId) : ResolutionInput Rat :=
  village doctorPack
    ((currentSnapshot doctorPack.document (.first .night) doctorSetup).getD (emptySnapshot (.first .night)))
    (targets.zipIdx.map fun (target, index) =>
      { actionId := target, actor := "d", templateId := "protect", targets := [target]
        phaseId := .first .night, submittedAt := index })

/-- What the night is resolved to. -/
def doctorEvents (targets : List SlotId) : List (InnerEvent Rat) :=
  ((resolve (doctorNight targets)).toOption.map fun output =>
    output.applied.events.map (·.event)).getD []

/-- The game up to the end of the night. -/
def doctorStream (targets : List SlotId) : List (GameEvent Rat) :=
  doctorSetup ++ [.resolutionApplied (doctorEvents targets)]

/-- The doctor protects another, in a night. -/
def protects (actionId : String) (target : SlotId) : ActionSubmissionRequest :=
  { actionId, actorSlot := "d", templateId := "protect", targets := [target] }

/-- What else the commands read. -/
def doctorView : View Rat := { packName := "doctors", pack := doctorPack.document }

/-- One protection is one use on both sides. -/
theorem protectedOnce_agrees :
    ∃ state, currentSnapshot doctorPack.document (.first .night) (doctorStream ["b"]) = some state ∧
      Agree (gameRows (doctorStream ["b"])) state := by
  have hfits : FitsFrom doctorPack.document (emptySnapshot (.first .night))
      (doctorStream ["b"]) := by decide +kernel
  obtain ⟨state, hstate⟩ : ∃ state,
      currentSnapshot doctorPack.document (.first .night) (doctorStream ["b"]) = some state :=
    Option.isSome_iff_exists.1 (by decide +kernel)
  exact ⟨state, hstate, (rows_agree hfits _ (List.prefix_refl _) state hstate).1⟩

/-- The doctor may submit and use two protections in one night; the table keeps the second. In the next
night it may submit the first again, which the resolver, reading the snapshot, will not let it use. -/
theorem protectedTwice_disagrees :
    (resolve (doctorNight ["b", "c"])).toOption.isSome = true ∧
    validateActionSubmission ((gameRows doctorSetup).view doctorView)
        [{ phaseId := .first .night, actorSlot := "d", actionId := "b", templateId := "protect"
           grantId := none, targets := ["b"], instantResolved := false }]
        (.first .night) (protects "c" "c") = .ok .night ∧
    ∃ state,
      currentSnapshot doctorPack.document (.first .night) (doctorStream ["b", "c"]) = some state ∧
      ¬ Agree (gameRows (doctorStream ["b", "c"])) state ∧
      state.actionHistory.map (·.targets) = [["b"], ["c"]] ∧
      (gameRows (doctorStream ["b", "c"])).actionHistory.map (·.targets) = [["c"]] ∧
      validateActionSubmission ((gameRows (doctorStream ["b", "c"])).view doctorView) []
        (.second .night) (protects "again" "b") = .ok .night ∧
      validateActionSubmission (snapshotView state doctorView) [] (.second .night)
        (protects "again" "b") = .error .invalidTarget := by
  refine ⟨by decide +kernel, by decide +kernel, ?_⟩
  have hrun : (currentSnapshot doctorPack.document (.first .night) (doctorStream ["b", "c"])).any
      (fun state => state.actionHistory.map (·.targets) == [["b"], ["c"]] &&
        decide (validateActionSubmission (snapshotView state doctorView) [] (.second .night)
          (protects "again" "b") = .error .invalidTarget)) = true := by decide +kernel
  have hrows : (gameRows (doctorStream ["b", "c"])).actionHistory.map (·.targets) = [["c"]] := by
    decide +kernel
  cases hstate : currentSnapshot doctorPack.document (.first .night) (doctorStream ["b", "c"]) with
  | none => exact absurd hrun (by simp [hstate])
  | some state =>
    simp only [hstate, Option.any_some, Bool.and_eq_true, beq_iff_eq, decide_eq_true_eq] at hrun
    refine ⟨state, rfl, fun hagree => ?_, hrun.1, hrows, by decide +kernel, hrun.2⟩
    have hlength := (hagree.history.map (·.targets)).length_eq
    rw [hrows, List.map_map, List.length_map] at hlength
    have htwo := congrArg List.length hrun.1
    rw [List.length_map, ← hlength] at htwo
    cases htwo

end Fmarch.Projections
