import Fmarch.Resolver.NightTrail

/-!
# What a night cures

The poison stage asks `effect_was_cleared` whether the night cleared a target's poison. Two stages clear
effects: the Clear stage those of its unblocked actions, and the Mark stage the mark that a wolf beauty
moves to another target.

**`cleared_iff`**: the night cleared an effect of a slot exactly if an unblocked action of its Clear stage
did, or a wolf beauty moved it away.
-/

namespace Fmarch.Resolver

open Fmarch.Domain Keyed Steps

variable {F : Type} [Float64 F]

section Stages

variable (input : ResolutionInput F)

/-- The effects one action of the Clear stage clears. -/
def clearedBy (action : Action F) : List (SlotId × Tag) :=
  match action.template.effect with
  | none => []
  | some effect => action.targets.map fun target => (target, effect)

/-- The mark a wolf beauty takes off her previous target when she marks another. -/
def movedMark (action : Action F) (effect : Tag) (state : Night F × List WolfBeautyMarkRecord)
    (target : SlotId) : List (SlotId × Tag) :=
  let tags := targetTags input state.1.transientEffects target
  if (targetStateGateReason input.pack.document tags .mark).isSome ||
      !isWolfBeautyMark input action.sub.actor effect then []
  else
    match state.2.find? (·.beautyId == action.sub.actor) with
    | none => []
    | some previous => if previous.targetId == target then [] else [(previous.targetId, effect)]

/-- The marks one action of the Mark stage moves. -/
def movedByAction (state : Night F × List WolfBeautyMarkRecord) (action : Action F) : List (SlotId × Tag) :=
  match action.template.effect with
  | none => []
  | some effect =>
    along (markTarget input action effect) (movedMark input action effect) action.targets state

/-- The marks the Mark stage moves. -/
def movedMarks (night : Night F) : List (SlotId × Tag) :=
  along (markAction input) (movedByAction input)
    ((stageActions night.actions .mark).map (·.2)) (night, input.state.wolfBeautyMarks)

/-- What a stage clears. -/
def stageCleared (night : Night F) : IrAbility → List (SlotId × Tag)
  | .mark => movedMarks input night
  | .clear => ((stageActions night.actions .clear).map (·.2)).flatMap clearedBy
  | _ => []

/-- The night as a stage finds it. -/
def nightAt (ability : IrAbility) : Night F :=
  (input.pack.nightStageOrder.takeWhile (· != ability)).foldl (nightStage input) (nightStart input)

/-- The unblocked actions of the Clear stage that clear an effect. -/
def cures (effect : Tag) : List (Action F) :=
  if input.pack.nightStageOrder.contains .clear then
    ((stageActions (nightAt input .clear).actions .clear).map (·.2)).filter
      (·.template.effect == some effect)
  else []

/-- An unblocked cure of the night is aimed at the slot. -/
def Cured (effect : Tag) (slot : SlotId) : Prop :=
  ∃ action ∈ cures input effect, slot ∈ action.targets

/-- A wolf beauty moves her mark away from the slot this night. -/
def Unmarked (effect : Tag) (slot : SlotId) : Prop :=
  .mark ∈ input.pack.nightStageOrder ∧ (slot, effect) ∈ movedMarks input (nightAt input .mark)

end Stages

section Cleared

variable {input : ResolutionInput F}

/-! ## The Mark stage -/

theorem hideBehind_cleared (input : ResolutionInput F) (action : Action F) (target : SlotId)
    (night : Night F) :
    (hideBehind input action target night).clearedEffects = night.clearedEffects := by
  unfold hideBehind
  split
  · rfl
  · dsimp only
    split
    · split <;> rfl
    · rfl

theorem markTarget_cleared (action : Action F) (effect : Tag)
    (state : Night F × List WolfBeautyMarkRecord) (target : SlotId) :
    (markTarget input action effect state target).1.clearedEffects =
      state.1.clearedEffects ++ movedMark input action effect state target := by
  obtain ⟨night, marks⟩ := state
  have hhidden := hideBehind_cleared input action target night
  have hlanded : (landMark input action effect marks target night).clearedEffects = night.clearedEffects ++
        (if !isWolfBeautyMark input action.sub.actor effect then []
        else
          match marks.find? (·.beautyId == action.sub.actor) with
          | none => []
          | some previous =>
            if previous.targetId == target then [] else [(previous.targetId, effect)]) := by
    unfold landMark
    dsimp only
    cases isWolfBeautyMark input action.sub.actor effect with
    | false => exact hhidden.trans (List.append_nil _).symm
    | true =>
      unfold clearPreviousBeautyMark
      dsimp only
      cases marks.find? (·.beautyId == action.sub.actor) with
      | none => exact hhidden.trans (List.append_nil _).symm
      | some previous =>
        dsimp only
        cases previous.targetId == target with
        | true => exact hhidden.trans (List.append_nil _).symm
        | false => exact congrArg (· ++ [(previous.targetId, effect)]) hhidden
  unfold markTarget movedMark
  dsimp only
  cases targetStateGateReason input.pack.document
      (targetTags input night.transientEffects target) .mark with
  | some reason => exact (List.append_nil _).symm
  | none =>
    dsimp only
    rw [Option.isSome_none, Bool.false_or]
    split
    · exact hlanded
    · unfold persistMark
      dsimp only
      split <;> exact hlanded

theorem markAction_cleared (state : Night F × List WolfBeautyMarkRecord) (action : Action F) :
    (markAction input state action).1.clearedEffects =
      state.1.clearedEffects ++ movedByAction input state action := by
  unfold markAction movedByAction
  cases action.template.effect with
  | none => exact (List.append_nil _).symm
  | some effect =>
    exact foldl_along
      (T := fun (a : Night F × List WolfBeautyMarkRecord) found b =>
        b.1.clearedEffects = a.1.clearedEffects ++ found)
      (fun _ => (List.append_nil _).symm)
      (fun h h' => by rw [h', h, List.append_assoc])
      (fun state target _ => markTarget_cleared action effect state target) state

theorem markStage_cleared (night : Night F) :
    (markStage input night).clearedEffects = night.clearedEffects ++ movedMarks input night :=
  foldl_along
    (T := fun (a : Night F × List WolfBeautyMarkRecord) found b =>
      b.1.clearedEffects = a.1.clearedEffects ++ found)
    (fun _ => (List.append_nil _).symm)
    (fun h h' => by rw [h', h, List.append_assoc])
    (fun state action _ => markAction_cleared state action) (night, input.state.wolfBeautyMarks)

/-! ## The Clear stage -/

omit [Float64 F] in
theorem removeTransients_cleared (effect : Tag) (targets : List SlotId) (night : Night F) :
    (targets.foldl (fun night target => night.removeTransient effect target) night).clearedEffects =
      night.clearedEffects := by
  refine Steps.foldl_inv (fun next : Night F => next.clearedEffects = night.clearedEffects)
    (fun next target _ hnext => ?_) rfl
  unfold Night.removeTransient
  split <;> exact hnext

theorem clearAction_cleared (night : Night F) (action : Action F) :
    (clearAction input night action).clearedEffects = night.clearedEffects ++ clearedBy action := by
  unfold clearAction clearedBy
  cases action.template.effect with
  | none => exact (List.append_nil _).symm
  | some effect =>
    dsimp only
    split
    · rename_i hempty
      rw [List.isEmpty_iff.1 hempty]
      exact (List.append_nil _).symm
    · exact removeTransients_cleared effect action.targets _

theorem clearActions_cleared (actions : List (Action F)) (night : Night F) :
    (actions.foldl (clearAction input) night).clearedEffects =
      night.clearedEffects ++ actions.flatMap clearedBy := by
  induction actions generalizing night with
  | nil => exact (List.append_nil _).symm
  | cons action actions ih =>
    rw [List.foldl_cons, ih, clearAction_cleared, List.append_assoc]
    rfl

/-! ## The night -/

theorem protectStage_cleared (night : Night F) :
    (protectStage input night).clearedEffects = night.clearedEffects := by
  unfold protectStage
  refine Steps.foldl_inv (fun next : Night F => next.clearedEffects = night.clearedEffects)
    (fun next action _ hnext => ?_) rfl
  unfold protectAction
  split
  · exact hnext
  · refine Steps.foldl_inv (fun next : Night F => next.clearedEffects = night.clearedEffects)
      (fun next target _ hnext => ?_) hnext
    unfold protectTarget
    dsimp only
    split
    · exact hnext
    · split
      · exact hnext
      · split <;> exact hnext

theorem killStage_cleared (night : Night F) :
    (killStage input night).clearedEffects = night.clearedEffects := by
  refine Steps.foldl_inv (fun next : Night F => next.clearedEffects = night.clearedEffects)
    (fun next action _ hnext => ?_) rfl
  unfold killAction
  dsimp only
  split
  · exact hnext
  · split <;> exact hnext

theorem nightStage_cleared (night : Night F) (ability : IrAbility) :
    (nightStage input night ability).clearedEffects =
      night.clearedEffects ++ stageCleared input night ability := by
  cases ability with
  | mark => exact markStage_cleared night
  | clear => exact clearActions_cleared _ night
  | protect => exact (protectStage_cleared night).trans (List.append_nil _).symm
  | kill => exact (killStage_cleared night).trans (List.append_nil _).symm
  | _ => exact (List.append_nil _).symm

theorem nightStages_cleared (input : ResolutionInput F) : (nightStages input).clearedEffects =
      along (nightStage input) (stageCleared input) input.pack.nightStageOrder (nightStart input) :=
  foldl_along
    (T := fun (a : Night F) found b => b.clearedEffects = a.clearedEffects ++ found)
    (fun _ => (List.append_nil _).symm)
    (fun h h' => by rw [h', h, List.append_assoc])
    (fun night ability _ => nightStage_cleared night ability) (nightStart input)

/-- A stage comes once, and finds the night as the stages before it left it. -/
theorem nightAt_eq {ability : IrAbility} {before after : List IrAbility}
    (h : input.pack.nightStageOrder = before ++ ability :: after) :
    nightAt input ability = before.foldl (nightStage input) (nightStart input) := by
  have hnodup := input.pack.accepted.stageOrder_nodup
  rw [h] at hnodup
  have hfresh : ∀ stage ∈ before, (stage != ability) = true := by
    intro stage hstage
    have hne := (List.nodup_append.1 hnodup).2.2 stage hstage ability List.mem_cons_self
    simpa using hne
  unfold nightAt
  rw [h, List.takeWhile_append_of_pos hfresh, List.takeWhile_cons_of_neg (by simp), List.append_nil]

theorem mem_nightStages_cleared {entry : SlotId × Tag} : entry ∈ (nightStages input).clearedEffects ↔
      ∃ ability ∈ input.pack.nightStageOrder, entry ∈ stageCleared input (nightAt input ability) ability := by
  rw [nightStages_cleared, mem_along]
  constructor
  · rintro ⟨before, ability, after, horder, hentry⟩
    refine ⟨ability, by simp [horder], ?_⟩
    rw [nightAt_eq horder]
    exact hentry
  · rintro ⟨ability, hability, hentry⟩
    obtain ⟨before, after, horder⟩ := List.append_of_mem hability
    rw [nightAt_eq horder] at hentry
    exact ⟨before, ability, after, horder, hentry⟩

/-- The night clears an effect of a slot by a cure or by a wolf beauty's moved mark. -/
theorem cleared_iff {effect : Tag} {slot : SlotId} : (slot, effect) ∈ (nightStages input).clearedEffects ↔
      Cured input effect slot ∨ Unmarked input effect slot := by
  have hcured : Cured input effect slot ↔ .clear ∈ input.pack.nightStageOrder ∧
      (slot, effect) ∈ stageCleared input (nightAt input .clear) .clear := by
    unfold Cured cures stageCleared
    rw [List.mem_flatMap]
    by_cases horder : .clear ∈ input.pack.nightStageOrder
    · rw [if_pos (by simpa using horder)]
      constructor
      · rintro ⟨action, haction, htarget⟩
        obtain ⟨hmem, heffect⟩ := List.mem_filter.1 haction
        refine ⟨horder, action, hmem, ?_⟩
        rw [clearedBy, eq_of_beq heffect]
        exact List.mem_map.2 ⟨slot, htarget, rfl⟩
      · rintro ⟨-, action, hmem, hentry⟩
        unfold clearedBy at hentry
        split at hentry
        · exact absurd hentry List.not_mem_nil
        · rename_i heffect
          obtain ⟨target, htarget, hentry⟩ := List.mem_map.1 hentry
          obtain ⟨rfl, rfl⟩ := Prod.mk.inj hentry
          exact ⟨action, List.mem_filter.2 ⟨hmem, by simp [heffect]⟩, htarget⟩
    · rw [if_neg (by simpa using horder)]
      simp [horder]
  rw [mem_nightStages_cleared, hcured]
  constructor
  · rintro ⟨ability, hability, hentry⟩
    cases ability with
    | mark => exact .inr ⟨hability, hentry⟩
    | clear => exact .inl ⟨hability, hentry⟩
    | _ => exact absurd hentry List.not_mem_nil
  · rintro (⟨hability, hentry⟩ | ⟨hability, hentry⟩)
    · exact ⟨.clear, hability, hentry⟩
    · exact ⟨.mark, hability, hentry⟩

end Cleared

end Fmarch.Resolver
