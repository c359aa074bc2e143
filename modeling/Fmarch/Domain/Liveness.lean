import Fmarch.Domain.StateKeys

/-!
# Who is alive after a fold

No inner event adds a slot, renames one or brings one back to life, and a `PlayerKilled` event leaves
nobody alive under its slot's id when the snapshot lists each slot once.

**`living_applyEvents`**: a slot alive after the fold of any events was alive before it, and no event
killed it.
-/

namespace Fmarch.Domain

open Keyed

variable {F : Type}

/-- A slot with this id is alive in the snapshot. -/
def Living (state : StateSnapshot F) (slotId : SlotId) : Prop :=
  ∃ slot ∈ state.slots, slot.slotId = slotId ∧ slot.isAlive = true

/-- The snapshot lists each slot once. -/
def DistinctSlots (state : StateSnapshot F) : Prop := (state.slots.map SlotState.slotId).Nodup

/-! ## Edits that bring nobody back -/

/-- The same slots in the same order, each alive only if it was. -/
def Fades : List SlotState → List SlotState → Prop :=
  List.Forall₂ fun old new => new.slotId = old.slotId ∧ (new.isAlive = true → old.isAlive = true)

namespace Fades

variable {slots slots' slots'' : List SlotState}

theorem refl (slots : List SlotState) : Fades slots slots :=
  List.forall₂_same.2 fun _ _ => ⟨rfl, id⟩

theorem trans (h : Fades slots slots') (h' : Fades slots' slots'') : Fades slots slots'' := by
  induction h generalizing slots'' with
  | nil => exact h'
  | cons hhead _ ih =>
    cases h' with
    | cons hhead' htail' =>
      exact .cons ⟨hhead'.1.trans hhead.1, fun halive => hhead.2 (hhead'.2 halive)⟩ (ih htail')

theorem updateSlot {f : SlotState → SlotState} (hid : ∀ slot, (f slot).slotId = slot.slotId)
    (halive : ∀ slot, (f slot).isAlive = true → slot.isAlive = true) (slots : List SlotState)
    (slotId : SlotId) : Fades slots (Domain.updateSlot slots slotId f) := by
  unfold Domain.updateSlot
  induction slots with
  | nil => exact .nil
  | cons slot slots ih =>
    unfold updateFirst
    split
    · exact .cons ⟨hid slot, halive slot⟩ (refl slots)
    · exact .cons ⟨rfl, id⟩ ih

theorem map {f : SlotState → SlotState} (hid : ∀ slot, (f slot).slotId = slot.slotId)
    (halive : ∀ slot, (f slot).isAlive = true → slot.isAlive = true) (slots : List SlotState) :
    Fades slots (slots.map f) := by
  induction slots with
  | nil => exact .nil
  | cons slot slots ih => exact .cons ⟨hid slot, halive slot⟩ ih

theorem slotIds (h : Fades slots slots') : slots'.map (·.slotId) = slots.map (·.slotId) := by
  induction h with
  | nil => rfl
  | cons hhead _ ih => rw [List.map_cons, List.map_cons, hhead.1, ih]

theorem living (h : Fades slots slots') {slot' : SlotState} (hmem : slot' ∈ slots')
    (halive : slot'.isAlive = true) :
    ∃ slot ∈ slots, slot.slotId = slot'.slotId ∧ slot.isAlive = true := by
  induction h with
  | nil => exact absurd hmem List.not_mem_nil
  | cons hhead _ ih =>
    rcases List.mem_cons.1 hmem with rfl | htail
    · exact ⟨_, List.mem_cons_self, hhead.1.symm, hhead.2 halive⟩
    · obtain ⟨slot, hslot, heq⟩ := ih htail
      exact ⟨slot, List.mem_cons_of_mem _ hslot, heq⟩

end Fades

theorem fades_removeEffects (effect : Tag) (targets : List SlotId) (slots : List SlotState) : Fades slots
      (targets.foldl (fun slots target => updateSlot slots target (removeEffect effect)) slots) := by
  induction targets generalizing slots with
  | nil => exact .refl slots
  | cons target targets ih =>
    exact (Fades.updateSlot (removeEffect_slotId effect) (fun _ => id) slots target).trans (ih _)

theorem addStatusTag_isAlive (tag : Tag) (slot : SlotState) :
    (addStatusTag tag slot).isAlive = slot.isAlive := by
  unfold addStatusTag; split <;> rfl

theorem addEffect_isAlive (effect : Tag) (slot : SlotState) :
    (addEffect effect slot).isAlive = slot.isAlive := by
  unfold addEffect; split <;> rfl

/-! ## The fold -/

/-- One inner event brings nobody back. -/
theorem applyEvent_fades (state : StateSnapshot F) (event : InnerEvent F) :
    Fades state.slots (applyEvent state event).slots := by
  cases event with
  | playerKilled =>
    exact .updateSlot (by intro; rfl) (fun _ h => absurd h (by simp [SlotState.isAlive, killSlot])) _ _
  | slotStatusTagged _ tag =>
    exact .updateSlot (addStatusTag_slotId tag)
      (fun slot h => (addStatusTag_isAlive tag slot).symm.trans h) _ _
  | winReached => exact .map (by intro; rfl) (by intro _ h; exact h) _
  | alignmentRevealed
  | roleRevealed
  | playerConverted => exact .updateSlot (by intro; rfl) (by intro _ h; exact h) _ _
  | effectsMarked effect =>
    simp only [applyEvent]
    split
    · exact .updateSlot (addEffect_slotId effect)
        (fun slot h => (addEffect_isAlive effect slot).symm.trans h) _ _
    · exact .refl _
  | effectsCleared effect targets => exact fades_removeEffects effect targets _
  | _ => exact .refl _

theorem applyEvents_fades (state : StateSnapshot F) (events : List (InnerEvent F)) :
    Fades state.slots (applyEvents state events).slots :=
  applyEvents_induction (motive := fun next => Fades state.slots next.slots)
    (fun next event h => h.trans (applyEvent_fades next event)) (.refl _) events

variable {state : StateSnapshot F} {events : List (InnerEvent F)} {slotId : SlotId}

theorem DistinctSlots.applyEvents (h : DistinctSlots state) (events : List (InnerEvent F)) : DistinctSlots (applyEvents state events) := by
  unfold DistinctSlots
  rw [(applyEvents_fades state events).slotIds]
  exact h

theorem Living.of_applyEvents (h : Living (applyEvents state events) slotId) : Living state slotId := by
  obtain ⟨slot, hmem, rfl, halive⟩ := h
  exact (applyEvents_fades state events).living hmem halive

/-- A kill leaves nobody alive under its slot's id. -/
theorem not_living_kill (h : DistinctSlots state) {event : InnerEvent F}
    (hkill : event.killedSlot? = some slotId) :
    ¬ Living (applyEvent state event) slotId := by
  cases event with
  | playerKilled killed cause attackers unstoppable deathReveal =>
    obtain rfl := Option.some.inj hkill
    rintro ⟨slot, hmem, hid, halive⟩
    have hfound := find?_of_nodup
      (h.applyEvents [.playerKilled killed cause attackers unstoppable deathReveal]) hmem
    have hkilled := find?_updateSlot (killSlot_slotId deathReveal) state.slots killed killed
    rw [if_pos rfl] at hkilled
    rw [hid] at hfound
    obtain ⟨old, -, rfl⟩ := Option.map_eq_some_iff.1 (hkilled.symm.trans hfound)
    simp [SlotState.isAlive, killSlot] at halive
  | _ => exact absurd hkill (by simp [InnerEvent.killedSlot?])

theorem living_applyEvents (h : DistinctSlots state)
    (hliving : Living (applyEvents state events) slotId) : Living state slotId ∧ slotId ∉ killedSlots events := by
  refine ⟨hliving.of_applyEvents, fun hkilled => ?_⟩
  obtain ⟨event, hevent, hkill⟩ := List.mem_filterMap.1 hkilled
  obtain ⟨before, after, rfl⟩ := List.append_of_mem hevent
  rw [applyEvents_append, applyEvents_cons] at hliving
  exact not_living_kill (h.applyEvents before) hkill hliving.of_applyEvents

/-! ## Events that kill nobody -/

/-- Each slot's id, and whether it is alive. -/
def vitals (slots : List SlotState) : List (SlotId × Bool) :=
  slots.map fun slot => (slot.slotId, slot.isAlive)

theorem living_iff_vitals : Living state slotId ↔ (slotId, true) ∈ vitals state.slots := by
  simp [Living, vitals]

theorem vitals_updateSlot {f : SlotState → SlotState} (hid : ∀ slot, (f slot).slotId = slot.slotId)
    (halive : ∀ slot, (f slot).isAlive = slot.isAlive) (slots : List SlotState)
    (slotId : SlotId) : vitals (updateSlot slots slotId f) = vitals slots :=
  map_updateFirst _ (fun slot => by rw [hid, halive]) slots

theorem vitals_removeEffects (effect : Tag) (targets : List SlotId) (slots : List SlotState) : vitals
        (targets.foldl (fun slots target => updateSlot slots target (removeEffect effect)) slots) =
      vitals slots := by
  induction targets generalizing slots with
  | nil => rfl
  | cons target targets ih =>
    rw [List.foldl_cons, ih]
    exact vitals_updateSlot (removeEffect_slotId effect) (fun _ => rfl) slots target

/-- An event that kills nobody changes nobody's vitals. -/
theorem vitals_applyEvent (state : StateSnapshot F) {event : InnerEvent F}
    (h : event.killedSlot? = none) : vitals (applyEvent state event).slots = vitals state.slots := by
  cases event with
  | playerKilled => exact absurd h (by simp [InnerEvent.killedSlot?])
  | slotStatusTagged _ tag =>
    exact vitals_updateSlot (addStatusTag_slotId tag) (addStatusTag_isAlive tag) _ _
  | winReached => simp [applyEvent, vitals, SlotState.isAlive]
  | alignmentRevealed
  | roleRevealed
  | playerConverted => exact vitals_updateSlot (by intro; rfl) (by intro; rfl) _ _
  | effectsMarked effect =>
    simp only [applyEvent]
    split
    · exact vitals_updateSlot (addEffect_slotId effect) (addEffect_isAlive effect) _ _
    · rfl
  | effectsCleared effect targets => exact vitals_removeEffects effect targets _
  | _ => rfl

/-- Events that kill nobody leave a slot alive. -/
theorem Living.applyEvents (h : Living state slotId) (hevents : ∀ event ∈ events, event.killedSlot? = none) :
    Living (applyEvents state events) slotId := by
  induction events generalizing state with
  | nil => exact h
  | cons event events ih =>
    rw [applyEvents_cons]
    refine ih ?_ fun other hother => hevents other (List.mem_cons_of_mem _ hother)
    rw [living_iff_vitals, vitals_applyEvent state (hevents event List.mem_cons_self)]
    exact living_iff_vitals.1 h

/-- Whatever events are folded: alive are those who were alive and whom no event killed. -/
theorem living_applyEvents_iff (h : DistinctSlots state) (events : List (InnerEvent F)) (slotId : SlotId) :
    Living (applyEvents state events) slotId ↔ Living state slotId ∧ slotId ∉ killedSlots events := by
  refine ⟨living_applyEvents h, ?_⟩
  rintro ⟨hliving, hspared⟩
  induction events generalizing state with
  | nil => exact hliving
  | cons event events ih =>
    rw [applyEvents_cons]
    have hrest : slotId ∉ killedSlots events := fun hmem => by
      obtain ⟨other, hother, hkill⟩ := List.mem_filterMap.1 hmem
      exact hspared (List.mem_filterMap.2 ⟨other, List.mem_cons_of_mem _ hother, hkill⟩)
    refine ih (h.applyEvents [event]) ?_ hrest
    cases event with
    | playerKilled killed cause attackers unstoppable deathReveal =>
      have hne : killed ≠ slotId := fun heq => hspared (by simp [killedSlots, InnerEvent.killedSlot?, heq])
      obtain ⟨slot, hslot, rfl, halive⟩ := hliving
      have hfound := find?_updateSlot (killSlot_slotId deathReveal) state.slots killed slot.slotId
      rw [if_neg hne, find?_of_nodup h hslot] at hfound
      exact ⟨slot, List.mem_of_find?_eq_some hfound, rfl, halive⟩
    | _ =>
      rw [living_iff_vitals, vitals_applyEvent state rfl]
      exact living_iff_vitals.1 hliving

/-- Of two slots one is killed. -/
theorem living_applyEvents_iff_two : Living (applyEvents (F := Rat)
    { phaseId := .first .night, slots := [{ slotId := "a", roleKey := "townie" }, { slotId := "b", roleKey := "townie" }] }
    [.playerKilled "b" "kill" ["c"] false .full]) "a" :=
  (living_applyEvents_iff (by simp [DistinctSlots]) _ "a").2 ⟨⟨_, .head _, rfl, rfl⟩, by decide⟩

end Fmarch.Domain
