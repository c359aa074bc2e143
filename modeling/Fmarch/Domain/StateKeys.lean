import Fmarch.Domain.State

/-!
# Keys and indexes of the state

The snapshot keeps a dozen lists that later resolutions read as tables, and `SlotState.effects`, a
tag index derived from the effect records. `WellKeyed` says that every table has one entry per key
and that the tag index agrees with the records.

**`applyEvents_wellKeyed`**: the fold of any list of inner events keeps `WellKeyed`, and the
conversion origins recorded before it stay, in place, with nothing inserted before them.

Slots are looked up the way the fold does, by the first slot with the id; `EffectsAgree.of_mem`
restates the index law for every slot of a state whose slot ids are distinct.
-/

namespace Fmarch.Domain

open Keyed

variable {F : Type}

/-! ## Slot lookups -/

theorem find?_updateSlot {f : SlotState → SlotState} (hf : ∀ slot, (f slot).slotId = slot.slotId)
    (slots : List SlotState) (slotId other : SlotId) :
    (updateSlot slots slotId f).find? (fun slot => slot.slotId == other) =
      if slotId = other then (slots.find? fun slot => slot.slotId == other).map f
      else slots.find? fun slot => slot.slotId == other :=
  find?_updateFirst SlotState.slotId hf slotId other slots

@[simp] theorem killSlot_slotId (deathReveal : DeathRevealMode) (slot : SlotState) :
    (killSlot deathReveal slot).slotId = slot.slotId := rfl

@[simp] theorem addStatusTag_slotId (tag : Tag) (slot : SlotState) :
    (addStatusTag tag slot).slotId = slot.slotId := by
  unfold addStatusTag; split <;> rfl

@[simp] theorem addStatusTag_effects (tag : Tag) (slot : SlotState) :
    (addStatusTag tag slot).effects = slot.effects := by
  unfold addStatusTag; split <;> rfl

@[simp] theorem addEffect_slotId (effect : Tag) (slot : SlotState) :
    (addEffect effect slot).slotId = slot.slotId := by
  unfold addEffect; split <;> rfl

@[simp] theorem mem_addEffect {effect tag : Tag} {slot : SlotState} :
    tag ∈ (addEffect effect slot).effects ↔ tag ∈ slot.effects ∨ tag = effect := by
  unfold addEffect
  split
  · rename_i hmem
    rw [List.contains_iff_mem] at hmem
    exact ⟨Or.inl, fun h => h.elim id fun heq => heq ▸ hmem⟩
  · simp

@[simp] theorem removeEffect_slotId (effect : Tag) (slot : SlotState) :
    (removeEffect effect slot).slotId = slot.slotId := rfl

@[simp] theorem mem_removeEffect {effect tag : Tag} {slot : SlotState} :
    tag ∈ (removeEffect effect slot).effects ↔ tag ∈ slot.effects ∧ tag ≠ effect := by
  simp [removeEffect]

theorem removeEffect_idem (effect : Tag) (slot : SlotState) :
    removeEffect effect (removeEffect effect slot) = removeEffect effect slot := by
  simp [removeEffect]

/-- Clearing a tag from a list of targets clears it from the slot of each of them, once. -/
theorem find?_foldl_removeEffect (effect : Tag) (other : SlotId) (targets : List SlotId)
    (slots : List SlotState) :
    (targets.foldl (fun slots target => updateSlot slots target (removeEffect effect)) slots).find?
        (fun slot => slot.slotId == other) =
      if other ∈ targets then (slots.find? fun slot => slot.slotId == other).map (removeEffect effect)
      else slots.find? fun slot => slot.slotId == other := by
  induction targets generalizing slots with
  | nil => simp
  | cons target targets ih =>
    rw [List.foldl_cons, ih, find?_updateSlot (removeEffect_slotId effect)]
    by_cases hhead : target = other
    · subst hhead
      have hidem : removeEffect effect ∘ removeEffect effect = removeEffect effect :=
        funext (removeEffect_idem effect)
      simp [Option.map_map, hidem]
    · simp [hhead, Ne.symm hhead]

/-- With distinct slot ids a lookup finds the slot itself. -/
theorem find?_of_nodup {slots : List SlotState} (hids : (slots.map SlotState.slotId).Nodup)
    {slot : SlotState} (hslot : slot ∈ slots) :
    slots.find? (fun other => other.slotId == slot.slotId) = some slot := by
  induction slots with
  | nil => exact absurd hslot List.not_mem_nil
  | cons x xs ih =>
    rw [List.map_cons, List.nodup_cons] at hids
    rcases List.mem_cons.1 hslot with rfl | htail
    · simp
    · have hne : x.slotId ≠ slot.slotId := fun heq =>
        hids.1 (heq ▸ List.mem_map_of_mem htail)
      rw [List.find?_cons_of_neg (by simpa using hne)]
      exact ih hids.2 htail

/-! ## The tag index -/

/-- The effect tags of each slot are the effects of the records that target it. -/
def EffectsAgree (slots : List SlotState) (records : List EffectRecord) : Prop :=
  ∀ slotId slot, slots.find? (fun slot => slot.slotId == slotId) = some slot →
    ∀ effect, effect ∈ slot.effects ↔ ∃ record ∈ records, record.effect = effect ∧ record.target = slotId

namespace EffectsAgree

variable {slots : List SlotState} {records : List EffectRecord}

/-- An edit of one slot that keeps its id and its tags keeps the law. -/
theorem updateSlot {f : SlotState → SlotState} (h : EffectsAgree slots records)
    (hid : ∀ slot, (f slot).slotId = slot.slotId) (heff : ∀ slot, (f slot).effects = slot.effects)
    (target : SlotId) : EffectsAgree (Domain.updateSlot slots target f) records := by
  intro slotId slot hslot effect
  rw [find?_updateSlot hid] at hslot
  split at hslot
  · obtain ⟨old, hold, rfl⟩ := Option.map_eq_some_iff.1 hslot
    rw [heff]
    exact h slotId old hold effect
  · exact h slotId slot hslot effect

theorem map {f : SlotState → SlotState} (h : EffectsAgree slots records)
    (hid : ∀ slot, (f slot).slotId = slot.slotId)
    (heff : ∀ slot, (f slot).effects = slot.effects) : EffectsAgree (slots.map f) records := by
  intro slotId slot hslot effect
  rw [find?_map_of_key SlotState.slotId hid] at hslot
  obtain ⟨old, hold, rfl⟩ := Option.map_eq_some_iff.1 hslot
  rw [heff]
  exact h slotId old hold effect

/-- `EffectsMarked`: the tag and the record arrive together. -/
theorem mark (h : EffectsAgree slots records) (record : EffectRecord) :
    EffectsAgree (Domain.updateSlot slots record.target (addEffect record.effect))
      (upsert (fun old => old.effect == record.effect && old.target == record.target) record records) := by
  intro slotId slot hslot effect
  rw [find?_updateSlot (addEffect_slotId record.effect)] at hslot
  have hrecords : (∃ r ∈ upsert
      (fun old => old.effect == record.effect && old.target == record.target) record records,
      r.effect = effect ∧ r.target = slotId) ↔
      (∃ r ∈ records, r.effect = effect ∧ r.target = slotId) ∨
        record.effect = effect ∧ record.target = slotId := by
    constructor
    · rintro ⟨r, hr, heq⟩
      rcases mem_upsert.1 hr with ⟨hmem, -⟩ | rfl
      · exact .inl ⟨r, hmem, heq⟩
      · exact .inr heq
    · rintro (⟨r, hr, heq⟩ | heq)
      · by_cases hsame : r.effect = record.effect ∧ r.target = record.target
        · exact ⟨record, mem_upsert.2 (.inr rfl), hsame.1 ▸ heq.1, hsame.2 ▸ heq.2⟩
        · exact ⟨r, mem_upsert.2 (.inl ⟨hr, by simpa using hsame⟩), heq⟩
      · exact ⟨record, mem_upsert.2 (.inr rfl), heq⟩
  rw [hrecords]
  split at hslot
  · rename_i htarget
    obtain ⟨old, hold, rfl⟩ := Option.map_eq_some_iff.1 hslot
    rw [mem_addEffect, h slotId old hold effect]
    simp [htarget, eq_comm]
  · rename_i htarget
    rw [h slotId slot hslot effect]
    simp [htarget]

/-- `EffectsCleared`: the tag leaves with the records of every named target. -/
theorem clear (h : EffectsAgree slots records) (effect : Tag) (targets : List SlotId) : EffectsAgree
      (targets.foldl (fun slots target => Domain.updateSlot slots target (removeEffect effect)) slots)
      (records.filter fun record => record.effect != effect || !targets.any (· == record.target)) := by
  intro slotId slot hslot tag
  rw [find?_foldl_removeEffect] at hslot
  have hrecords : (∃ r ∈ records.filter fun record =>
      record.effect != effect || !targets.any (· == record.target),
      r.effect = tag ∧ r.target = slotId) ↔
      (∃ r ∈ records, r.effect = tag ∧ r.target = slotId) ∧ ¬ (tag = effect ∧ slotId ∈ targets) := by
    constructor
    · rintro ⟨r, hr, rfl, rfl⟩
      have hkeep := (List.mem_filter.1 hr).2
      refine ⟨⟨r, List.mem_of_mem_filter hr, rfl, rfl⟩, ?_⟩
      rintro ⟨heq, hmem⟩
      simp only [heq, bne_self_eq_false, Bool.false_or, Bool.not_eq_true', List.any_eq_false,
        beq_iff_eq] at hkeep
      exact hkeep r.target hmem rfl
    · rintro ⟨⟨r, hr, rfl, rfl⟩, hkeep⟩
      refine ⟨r, List.mem_filter.2 ⟨hr, ?_⟩, rfl, rfl⟩
      by_cases heq : r.effect = effect
      · have hnot : r.target ∉ targets := fun hmem => hkeep ⟨heq, hmem⟩
        have hany : ∀ target ∈ targets, ¬ target = r.target := fun target hmem htarget =>
          hnot (htarget ▸ hmem)
        simpa using Or.inr hany
      · simp [heq]
  rw [hrecords]
  split at hslot
  · rename_i htarget
    obtain ⟨old, hold, rfl⟩ := Option.map_eq_some_iff.1 hslot
    rw [mem_removeEffect, h slotId old hold tag]
    simp [htarget]
  · rename_i htarget
    rw [h slotId slot hslot tag]
    simp [htarget]

end EffectsAgree

/-! ## Every table at once -/

/-- One entry per key in every keyed table, and a tag index that agrees with the effect records. -/
structure WellKeyed (state : StateSnapshot F) : Prop where
  effectRecords : (state.effectRecords.map fun r => (r.effect, r.target)).Nodup
  effectsAgree : EffectsAgree state.slots state.effectRecords
  useCounters : (state.useCounters.map fun r => (r.actor, r.counterId)).Nodup
  delayedDeaths : (state.delayedDeaths.map fun r => (r.target, r.effect)).Nodup
  conversionOrigins : (state.conversionOrigins.map fun r => r.target).Nodup
  backupTargets : (state.backupTargets.map fun r => r.backup).Nodup
  wolfCarryTokens : (state.wolfCarryTokens.map fun r => r.ownerId).Nodup
  wolfBeautyMarks : (state.wolfBeautyMarks.map fun r => r.beautyId).Nodup
  badges : (state.badges.map fun r => r.badgeId).Nodup
  bufferedItaShots : (state.bufferedItaShots.map fun r => r.actionId).Nodup
  linkedSlots : (state.linkedSlots.map fun r => r.linkId).Nodup
  targetLynchWinTargets : (state.targetLynchWinTargets.map fun r => (r.policy, r.owner)).Nodup

/-- One inner event keeps every table keyed. Events that touch no table, or only the slots, are
closed by the index law; each other constructor touches exactly one table. -/
theorem applyEvent_wellKeyed (state : StateSnapshot F) (event : InnerEvent F)
    (h : WellKeyed state) : WellKeyed (applyEvent state event) := by
  cases event with
  | playerKilled | alignmentRevealed | roleRevealed =>
    exact { h with effectsAgree := h.effectsAgree.updateSlot (by intro; rfl) (by intro; rfl) _ }
  | slotStatusTagged slotId tag =>
    exact { h with
      effectsAgree :=
        h.effectsAgree.updateSlot (addStatusTag_slotId tag) (addStatusTag_effects tag) _ }
  | winReached => exact { h with effectsAgree := h.effectsAgree.map (by intro; rfl) (by intro; rfl) }
  | effectsMarked effect target actor sourceAction phaseId duration visibility =>
    simp only [applyEvent]
    split
    · exact { h with
        effectRecords := map_upsert_nodup (fun r : EffectRecord => (r.effect, r.target))
          (fun y hy => by simpa using hy) h.effectRecords
        effectsAgree := h.effectsAgree.mark
          { effect, target, source := actor, sourceAction, phaseId, duration, visibility } }
    · exact h
  | effectsCleared effect targets =>
    exact { h with
      effectRecords := map_filter_nodup _ _ h.effectRecords
      effectsAgree := h.effectsAgree.clear effect targets }
  | playerConverted target =>
    exact { h with
      effectsAgree := h.effectsAgree.updateSlot (by intro; rfl) (by intro; rfl) _
      conversionOrigins := map_pushNew_nodup (fun r : ConversionOriginRecord => r.target)
        (fun y hy => by simpa using hy) h.conversionOrigins }
  | actionUseCounted =>
    exact { h with
      useCounters := map_upsert_nodup (fun r : ActionCounterRecord => (r.actor, r.counterId))
        (fun y hy => by simpa using hy) h.useCounters }
  | delayedDeathQueued =>
    exact { h with
      delayedDeaths := map_upsert_nodup (fun r : DelayedDeathRecord => (r.target, r.effect))
        (fun y hy => by simpa using hy) h.delayedDeaths }
  | delayedDeathResolved =>
    exact { h with delayedDeaths := map_filter_nodup _ _ h.delayedDeaths }
  | playersLinked =>
    exact { h with
      linkedSlots := map_pushNew_nodup (fun r : LinkRecord => r.linkId)
        (fun y hy => by simpa using hy) h.linkedSlots }
  | backupTargeted =>
    exact { h with
      backupTargets := map_upsert_nodup (fun r : BackupTargetRecord => r.backup)
        (fun y hy => by simpa using hy) h.backupTargets }
  | targetLynchWinTargeted =>
    exact { h with
      targetLynchWinTargets :=
        map_upsert_nodup (fun r : TargetLynchWinTargetRecord => (r.policy, r.owner))
          (fun y hy => by simpa using hy) h.targetLynchWinTargets }
  | wolfCarryQueued =>
    exact { h with
      wolfCarryTokens := map_upsert_nodup (fun r : WolfCarryTokenRecord => r.ownerId)
        (fun y hy => by simpa using hy) h.wolfCarryTokens }
  | wolfCarryUsed => exact { h with wolfCarryTokens := map_filter_nodup _ _ h.wolfCarryTokens }
  | wolfBeautyMarked =>
    exact { h with
      wolfBeautyMarks := map_upsert_nodup (fun r : WolfBeautyMarkRecord => r.beautyId)
        (fun y hy => by simpa using hy) h.wolfBeautyMarks }
  | badgeChanged =>
    exact { h with
      badges := map_upsert_nodup (fun r : BadgeRecord F => r.badgeId)
        (fun y hy => by simpa using hy) h.badges }
  | itaShotBuffered =>
    exact { h with
      bufferedItaShots := map_upsert_nodup (fun r : BufferedItaShotRecord => r.actionId)
        (fun y hy => by simpa using hy) h.bufferedItaShots }
  | itaShotQueued | itaShotResolved | itaShotRefunded | itaShotInvalidated =>
    exact { h with bufferedItaShots := map_filter_nodup _ _ h.bufferedItaShots }
  | _ => exact { h with }

theorem applyEvent_conversionOrigins (state : StateSnapshot F) (event : InnerEvent F) :
    state.conversionOrigins <+: (applyEvent state event).conversionOrigins := by
  cases event with
  | playerConverted => exact prefix_pushNew _ _ _
  | effectsMarked =>
    simp only [applyEvent]
    split <;> exact List.prefix_refl _
  | _ => exact List.prefix_refl _

/-- Folding any inner events keeps every table keyed and every conversion origin already known. -/
theorem applyEvents_wellKeyed (state : StateSnapshot F) (events : List (InnerEvent F)) (h : WellKeyed state) :
    WellKeyed (applyEvents state events) ∧
      state.conversionOrigins <+: (applyEvents state events).conversionOrigins := by
  constructor
  · exact applyEvents_induction applyEvent_wellKeyed h events
  · exact applyEvents_induction
      (motive := fun next => state.conversionOrigins <+: next.conversionOrigins)
      (fun next event h => h.trans (applyEvent_conversionOrigins next event))
      (List.prefix_refl _) events

/-- A doused player at the start of the first night. -/
def dousedNight : StateSnapshot Rat where
  phaseId := .first .night
  slots := [{ slotId := "s1", roleKey := "vanilla", effects := ["doused"] }]
  effectRecords := [{ effect := "doused", target := "s1", source := "s2" }]

theorem dousedNight_wellKeyed : WellKeyed dousedNight where
  effectRecords := by decide
  effectsAgree := by
    intro slotId slot hslot effect
    by_cases hid : "s1" = slotId
    · subst hid
      obtain rfl : { slotId := "s1", roleKey := "vanilla", effects := ["doused"] } = slot := by
        simpa [dousedNight] using hslot
      simp [dousedNight, eq_comm]
    · simp [dousedNight, hid] at hslot
  useCounters := by decide
  delayedDeaths := by decide
  conversionOrigins := by decide
  backupTargets := by decide
  wolfCarryTokens := by decide
  wolfBeautyMarks := by decide
  badges := by decide
  bufferedItaShots := by decide
  linkedSlots := by decide
  targetLynchWinTargets := by decide

/-- The tables stay keyed when the doused player is marked, cleared and converted twice. -/
theorem dousedNight_applyEvents : let events : List (InnerEvent Rat) :=
      [.effectsMarked "poisoned" "s1" "s2" none none .persistent .hidden,
        .effectsCleared "doused" ["s1", "s3"] "s2" none none,
        .playerConverted "s1" "cultist" (some "cult") "vanilla" (some "town") "s2",
        .playerConverted "s1" "vanilla" (some "town") "cultist" (some "cult") "s3"]
    WellKeyed (applyEvents dousedNight events) ∧
      dousedNight.conversionOrigins <+: (applyEvents dousedNight events).conversionOrigins :=
  applyEvents_wellKeyed dousedNight _ dousedNight_wellKeyed

end Fmarch.Domain
