import Fmarch.Projections.GameRows

/-!
# The rows of the slots (`slot_state`)

Who is alive, and who is what, is read by the commands from the rows of the slots and by the resolver
from its snapshot. Both are folded from the same events, the one by updates under the slot's id, the other
by edits of a list that is searched for it.

**`SlotsAgree.step`**: every event about the game's slots keeps the two agreeing. A row is made sure of
whenever an event names a slot, while the snapshot has the slots that were added to the game; so an event
about any other slot would leave a row the snapshot knows nothing of.
-/

namespace Fmarch.Projections

open Domain Keyed StableSort Commands.ActionSubmission

variable {F : Type}

/-! ## What is to agree -/

/-- What a row and the snapshot both say of a slot; a slot that has no role yet has the empty key in the
snapshot. -/
structure SlotFacts where
  slotId : SlotId
  alive : Bool
  roleKey : RoleKey
  alignment : Option AlignmentKey

/-- The facts of a row. -/
def rowFacts (row : SlotStateRow) : SlotFacts :=
  { slotId := row.slotId, alive := row.alive, roleKey := row.roleKey.getD ""
    alignment := row.alignment }

/-- The facts of a slot of the snapshot. -/
def slotFacts (slot : Domain.SlotState) : SlotFacts :=
  { slotId := slot.slotId, alive := slot.isAlive, roleKey := slot.roleKey
    alignment := slot.alignment }

/-- The rows say of the slots what the snapshot says, in no order. -/
def SlotsAgree (rows : GameRows F) (state : StateSnapshot F) : Prop :=
  (rows.slotState.map rowFacts).Perm (state.slots.map slotFacts)

/-- The slot is one of the game's. -/
def Known (state : StateSnapshot F) (slotId : SlotId) : Prop :=
  slotId ∈ state.slots.map (·.slotId)

instance (state : StateSnapshot F) (slotId : SlotId) : Decidable (Known state slotId) :=
  inferInstanceAs (Decidable (slotId ∈ state.slots.map (·.slotId)))

/-- The event is about slots of the game, and a role is assigned with the pack's alignment. -/
def FitsSlots [Float64 F] (pack : Pack F) (state : StateSnapshot F) : GameEvent F → Prop
  | .roleAssigned _ roleKey alignment => ∀ role ∈ pack.roles[roleKey]?, role.alignment = alignment
  | .standalone event => isStandalone event = true →
      ∀ slotId ∈ GameRows.ensuredSlots event, Known (insertMarked state event) slotId
  | .resolutionApplied events =>
    ∀ event ∈ events, ∀ slotId ∈ GameRows.ensuredSlots event, Known state slotId
  | .other slots => ∀ slotId ∈ slots, Known state slotId
  | _ => True

section Slots

variable {rows : GameRows F} {state : StateSnapshot F}

/-! ## Edits of a slot -/

/-- The facts of one slot rewritten. -/
def onSlot (slotId : SlotId) (g : SlotFacts → SlotFacts) (facts : SlotFacts) : SlotFacts :=
  if facts.slotId = slotId then g facts else facts

variable {g : SlotFacts → SlotFacts} {slotId : SlotId} {f : Domain.SlotState → Domain.SlotState}

theorem onSlot_of_eq {facts : SlotFacts} (h : facts.slotId = slotId) : onSlot slotId g facts = g facts := if_pos h

theorem onSlot_of_ne {facts : SlotFacts} (h : facts.slotId ≠ slotId) : onSlot slotId g facts = facts := if_neg h

theorem rowFacts_updateSlotState {f : SlotStateRow → SlotStateRow}
    (h : ∀ row, rowFacts (f row) = g (rowFacts row)) (slotId : SlotId) :
    (rows.updateSlotState slotId f).slotState.map rowFacts =
      (rows.slotState.map rowFacts).map (onSlot slotId g) := by
  unfold GameRows.updateSlotState
  rw [List.map_map, List.map_map]
  refine List.map_congr_left fun row _ => ?_
  rw [Function.comp_apply, Function.comp_apply]
  by_cases hid : row.slotId = slotId
  · rw [if_pos hid, h, onSlot_of_eq hid]
  · rw [if_neg hid, onSlot_of_ne hid]

theorem slotFacts_updateSlot {slots : List Domain.SlotState}
    (hdistinct : (slots.map (·.slotId)).Nodup) (h : ∀ slot, slotFacts (f slot) = g (slotFacts slot))
    (slotId : SlotId) :
    (updateSlot slots slotId f).map slotFacts = (slots.map slotFacts).map (onSlot slotId g) := by
  unfold updateSlot
  rw [updateFirst_eq_map Domain.SlotState.slotId f slotId hdistinct, List.map_map, List.map_map]
  refine List.map_congr_left fun slot _ => ?_
  rw [Function.comp_apply, Function.comp_apply]
  by_cases hid : slot.slotId = slotId
  · rw [if_pos hid, h, onSlot_of_eq hid]
  · rw [if_neg hid, onSlot_of_ne hid]

theorem slotFacts_updateSlot_same (h : ∀ slot, slotFacts (f slot) = slotFacts slot)
    (slots : List Domain.SlotState) (slotId : SlotId) :
    (updateSlot slots slotId f).map slotFacts = slots.map slotFacts :=
  map_updateFirst slotFacts h slots

theorem slotFacts_addStatusTag (tag : Tag) (slot : Domain.SlotState) :
    slotFacts (addStatusTag tag slot) = slotFacts slot := by
  unfold addStatusTag
  split <;> rfl

theorem slotFacts_addEffect (effect : Tag) (slot : Domain.SlotState) :
    slotFacts (addEffect effect slot) = slotFacts slot := by
  unfold addEffect
  split <;> rfl

theorem slotFacts_removeEffects (effect : Tag) (targets : List SlotId) (slots : List Domain.SlotState) :
    (targets.foldl (fun slots target => updateSlot slots target (removeEffect effect)) slots).map
      slotFacts = slots.map slotFacts := by
  induction targets generalizing slots with
  | nil => rfl
  | cons target targets ih =>
    rw [List.foldl_cons, ih]
    exact slotFacts_updateSlot_same (f := removeEffect effect) (fun _ => rfl) slots target

@[simp] theorem setSlotStatus_slotState (slotId : SlotId) (status : SlotLifecycle) :
    (rows.setSlotStatus slotId status).slotState =
      (rows.updateSlotState slotId fun row => { row with alive := status == .alive }).slotState := by
  unfold GameRows.setSlotStatus
  dsimp only
  split <;> rfl

/-- An edit of one slot on both sides. -/
theorem SlotsAgree.update (agree : SlotsAgree rows state)
    (distinct : DistinctSlots state) (slotId : SlotId) {f : SlotStateRow → SlotStateRow}
    {f' : Domain.SlotState → Domain.SlotState} (g : SlotFacts → SlotFacts)
    (h : ∀ row, rowFacts (f row) = g (rowFacts row))
    (h' : ∀ slot, slotFacts (f' slot) = g (slotFacts slot)) :
    ((rows.updateSlotState slotId f).slotState.map rowFacts).Perm
      ((updateSlot state.slots slotId f').map slotFacts) := by
  rw [rowFacts_updateSlotState h, slotFacts_updateSlot distinct h']
  exact agree.map _

/-! ## One inner event -/

theorem SlotsAgree.write (agree : SlotsAgree rows state) (distinct : DistinctSlots state)
    (event : InnerEvent F) : SlotsAgree (rows.write event) (applyEvent state event) := by
  unfold SlotsAgree
  cases event with
  | playerKilled slotId cause attackers unstoppable deathReveal =>
    simp only [GameRows.write, setSlotStatus_slotState, applyEvent]
    exact agree.update distinct slotId (fun facts => { facts with alive := false })
      (fun _ => rfl) fun _ => rfl
  | slotStatusTagged slotId tag =>
    simp only [GameRows.write, applyEvent]
    rw [slotFacts_updateSlot_same (slotFacts_addStatusTag tag)]
    exact agree
  | winReached =>
    simp only [GameRows.write, applyEvent, List.map_map]
    exact agree
  | alignmentRevealed slotId alignment =>
    exact agree.update distinct slotId
      (fun facts => { facts with alignment := some alignment }) (fun _ => rfl) fun _ => rfl
  | roleRevealed slotId roleKey =>
    exact agree.update distinct slotId (fun facts => { facts with roleKey })
      (fun _ => rfl) fun _ => rfl
  | playerConverted target newRole newAlignment =>
    exact agree.update distinct target
      (fun facts => { facts with roleKey := newRole, alignment := newAlignment })
      (fun _ => rfl) fun _ => rfl
  | effectsMarked effect target actor sourceAction phaseId duration visibility =>
    simp only [GameRows.write, applyEvent]
    split
    · rw [slotFacts_updateSlot_same (slotFacts_addEffect effect)]
      exact agree
    · exact agree
  | effectsCleared effect targets =>
    simp only [GameRows.write, applyEvent]
    rw [slotFacts_removeEffects]
    exact agree
  | _ => exact agree

/-- The row of a slot of the game is there. -/
theorem SlotsAgree.ensureSlot_known (agree : SlotsAgree rows state) (h : Known state slotId) : rows.ensureSlot slotId = rows := by
  obtain ⟨slot, hslot, rfl⟩ := List.mem_map.1 h
  obtain ⟨row, hrow, hfacts⟩ :=
    List.mem_map.1 (agree.symm.subset (List.mem_map_of_mem (f := slotFacts) hslot))
  have hid : row.slotId = slot.slotId := congrArg SlotFacts.slotId hfacts
  have hany : (rows.slotState.any fun other => other.slotId == slot.slotId) = true :=
    List.any_eq_true.2 ⟨row, hrow, by simpa using hid⟩
  unfold GameRows.ensureSlot pushNew
  rw [if_pos hany]

theorem SlotsAgree.ensureSlots_known (agree : SlotsAgree rows state) {slots : List SlotId}
    (h : ∀ slotId ∈ slots, Known state slotId) : slots.foldl GameRows.ensureSlot rows = rows := by
  induction slots with
  | nil => rfl
  | cons slotId slots ih =>
    rw [List.foldl_cons, agree.ensureSlot_known (h slotId List.mem_cons_self)]
    exact ih fun other hother => h other (List.mem_cons_of_mem _ hother)

theorem ensureSlots_eq (slots : List SlotId) (rows : GameRows F) :
    ∃ slotState, slots.foldl GameRows.ensureSlot rows = { rows with slotState } := by
  induction slots generalizing rows with
  | nil => exact ⟨rows.slotState, rfl⟩
  | cons slotId slots ih =>
    obtain ⟨slotState, heq⟩ := ih (rows.ensureSlot slotId)
    exact ⟨slotState, heq⟩

theorem known_applyEvent (event : InnerEvent F) :
    Known (applyEvent state event) slotId ↔ Known state slotId := by
  unfold Known
  rw [(applyEvent_fades state event).slotIds]

theorem SlotsAgree.foldAll (agree : SlotsAgree rows state) (distinct : DistinctSlots state)
    {events : List (InnerEvent F)}
    (known : ∀ event ∈ events, ∀ slotId ∈ GameRows.ensuredSlots event, Known state slotId) :
    SlotsAgree (events.foldl GameRows.foldInner rows) (applyEvents state events) ∧
      DistinctSlots (applyEvents state events) := by
  induction events generalizing rows state with
  | nil => exact ⟨agree, distinct⟩
  | cons event events ih =>
    have hevent : SlotsAgree (rows.foldInner event) (applyEvent state event) := by
      unfold GameRows.foldInner
      rw [agree.ensureSlots_known (known event List.mem_cons_self)]
      exact agree.write distinct event
    refine ih hevent (distinct.applyEvents [event]) fun other hother slotId hslot => ?_
    exact (known_applyEvent event).2 (known other (List.mem_cons_of_mem _ hother) slotId hslot)

/-! ## One stored event -/

theorem distinct_updateSlot (distinct : DistinctSlots state) (slotId : SlotId)
    (hid : ∀ slot, (f slot).slotId = slot.slotId) :
    DistinctSlots { state with slots := updateSlot state.slots slotId f } := by
  unfold DistinctSlots
  rw [Domain.updateSlot, map_updateFirst Domain.SlotState.slotId hid]
  exact distinct

theorem SlotsAgree.any_eq (agree : SlotsAgree rows state) (slotId : SlotId) :
    (rows.slotState.any fun row => row.slotId == slotId) =
      state.slots.any fun slot => slot.slotId == slotId := by
  have hids := List.Perm.any_eq (f := fun facts => facts.slotId == slotId) agree
  rw [List.any_map, List.any_map] at hids
  exact hids

theorem distinct_orInsertSlot (distinct : DistinctSlots state) (slotId : SlotId) :
    DistinctSlots (orInsertSlot state slotId) := by
  unfold DistinctSlots orInsertSlot
  by_cases hany : (state.slots.any fun slot => slot.slotId == slotId) = true
  · rw [if_pos hany]
    exact distinct
  · rw [if_neg hany]
    refine ((sortBy_perm _ _).map _).nodup_iff.2 ?_
    rw [List.map_append, List.nodup_append]
    refine ⟨distinct, by simp, fun id hid other hother heq => hany ?_⟩
    obtain ⟨slot, hslot, rfl⟩ := List.mem_map.1 hid
    exact List.any_eq_true.2 ⟨slot, hslot, by simpa [heq] using hother⟩

/-- A slot made sure of on both sides. -/
theorem SlotsAgree.ensureSlot (agree : SlotsAgree rows state) (distinct : DistinctSlots state)
    (slotId : SlotId) :
    SlotsAgree (rows.ensureSlot slotId) (orInsertSlot state slotId) ∧
      DistinctSlots (orInsertSlot state slotId) := by
  refine ⟨?_, distinct_orInsertSlot distinct slotId⟩
  unfold GameRows.ensureSlot orInsertSlot pushNew
  rw [agree.any_eq]
  by_cases hany : (state.slots.any fun slot => slot.slotId == slotId) = true
  · rw [if_pos hany, if_pos hany]
    exact agree
  · rw [if_neg hany, if_neg hany]
    refine List.Perm.trans ?_ ((sortBy_perm _ _).map slotFacts).symm
    rw [List.map_append, List.map_append]
    exact List.Perm.append_right _ agree

theorem SlotsAgree.assignEffects (agree : SlotsAgree rows state) (distinct : DistinctSlots state)
    (slotId : SlotId) (effects : List Tag) :
    SlotsAgree rows (effects.foldl (assignEffect slotId) state) ∧
      DistinctSlots (effects.foldl (assignEffect slotId) state) := by
  induction effects generalizing state with
  | nil => exact ⟨agree, distinct⟩
  | cons effect effects ih =>
    refine ih ?_ (distinct_updateSlot distinct slotId (addEffect_slotId effect))
    unfold SlotsAgree
    rw [assignEffect, slotFacts_updateSlot_same (slotFacts_addEffect effect)]
    exact agree

/-- Where a standing effect is folded, its target is there on both sides. -/
theorem SlotsAgree.insertMarked (agree : SlotsAgree rows state) (distinct : DistinctSlots state)
    {event : InnerEvent F}
    (known : ∀ slotId ∈ GameRows.ensuredSlots event, Known (insertMarked state event) slotId) :
    SlotsAgree ((GameRows.ensuredSlots event).foldl GameRows.ensureSlot rows) (insertMarked state event) ∧
      DistinctSlots (insertMarked state event) := by
  unfold Projections.insertMarked
  split
  · rename_i target _ _ _ _
    exact agree.ensureSlot distinct target
  · rename_i hmarked
    have hstate : Projections.insertMarked state event = state := by
      unfold Projections.insertMarked
      split
      · rename_i effect target actor sourceAction phaseId visibility
        exact absurd rfl (hmarked effect target actor sourceAction phaseId visibility)
      · rfl
    rw [hstate] at known
    rw [agree.ensureSlots_known known]
    exact ⟨agree, distinct⟩

/-- **An event about the game's slots keeps their rows and the snapshot agreeing.** -/
theorem SlotsAgree.step [Float64 F] {pack : Pack F} (agree : SlotsAgree rows state)
    (distinct : DistinctSlots state) {event : GameEvent F} (fits : FitsSlots pack state event)
    {next : StateSnapshot F} (hstep : snapshotStep pack state event = some next) :
    SlotsAgree (rows.fold event) next ∧ DistinctSlots next := by
  cases event with
  | slotAdded slotId =>
    obtain rfl := Option.some.inj hstep
    exact agree.ensureSlot distinct slotId
  | roleAssigned slotId roleKey alignment =>
    obtain ⟨role, hrole, rfl⟩ := Option.map_eq_some_iff.1 hstep
    obtain ⟨hensured, hdistinct⟩ := agree.ensureSlot distinct slotId
    have halignment : role.alignment = alignment := fits role hrole
    have hassigned : SlotsAgree ((rows.ensureSlot slotId).setSlotPrivate slotId roleKey alignment)
        { orInsertSlot state slotId with
          slots := updateSlot (orInsertSlot state slotId).slots slotId fun slot =>
            { slot with roleKey, alignment := role.alignment } } :=
      hensured.update hdistinct slotId (fun facts => { facts with roleKey, alignment })
        (fun _ => rfl) fun _ => by simp [slotFacts, Domain.SlotState.isAlive, halignment]
    exact hassigned.assignEffects (distinct_updateSlot hdistinct slotId (by intro; rfl)) slotId
      role.effects
  | slotStatusChanged slotId status =>
    obtain rfl := Option.some.inj hstep
    obtain ⟨hensured, hdistinct⟩ := agree.ensureSlot distinct slotId
    refine ⟨?_, distinct_updateSlot hdistinct slotId (by intro; rfl)⟩
    unfold SlotsAgree
    simp only [GameRows.fold, setSlotStatus_slotState]
    exact hensured.update hdistinct slotId
      (fun facts => { facts with alive := status == .alive }) (fun _ => rfl) fun _ => rfl
  | slotStatusTagged slotId tag =>
    obtain rfl := Option.some.inj hstep
    obtain ⟨hensured, hdistinct⟩ := agree.ensureSlot distinct slotId
    refine ⟨?_, distinct_updateSlot hdistinct slotId (addStatusTag_slotId tag)⟩
    unfold SlotsAgree
    rw [slotFacts_updateSlot_same (slotFacts_addStatusTag tag)]
    exact hensured
  | slotStatusUntagged slotId tag =>
    obtain rfl := Option.some.inj hstep
    refine ⟨?_, distinct_updateSlot distinct slotId (by intro; rfl)⟩
    unfold SlotsAgree
    rw [slotFacts_updateSlot_same (by intro; rfl)]
    exact agree
  | standalone event =>
    obtain rfl := Option.some.inj hstep
    by_cases hstandalone : isStandalone event = true
    · simp only [GameRows.fold, if_pos hstandalone]
      obtain ⟨hmarked, hdistinct⟩ := agree.insertMarked distinct (fits hstandalone)
      exact ⟨hmarked.write hdistinct event, hdistinct.applyEvents [event]⟩
    · simp only [GameRows.fold, if_neg hstandalone]
      exact ⟨agree, distinct⟩
  | resolutionApplied events =>
    obtain rfl := Option.some.inj hstep
    exact agree.foldAll distinct fits
  | submission event =>
    obtain rfl := Option.some.inj hstep
    exact ⟨by cases event <;> exact agree, distinct⟩
  | other slots =>
    obtain rfl := Option.some.inj hstep
    simp only [GameRows.fold]
    rw [agree.ensureSlots_known fits]
    exact ⟨agree, distinct⟩

end Slots

end Fmarch.Projections
