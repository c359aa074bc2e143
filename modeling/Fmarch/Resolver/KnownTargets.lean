import Fmarch.Resolver.EmpowerFixpoint
import Fmarch.Resolver.NightTrail

/-!
# The slots a night's actions name

The command side admits a submission only if its actor and its targets are slots of the game. Intake takes
them over, blocking frees nobody, and a redirect points at the slots its own action names; so every
unblocked action of a night names slots of the snapshot, and so does every delayed death it queues.

**`nightStages_queued`**: the targets of the delayed deaths a night queues are slots.
-/

namespace Fmarch.Resolver

open Fmarch.Domain Keyed Steps

variable {F : Type} [Float64 F]

/-- The snapshot has a slot of this id. -/
def Known (state : StateSnapshot F) (slot : SlotId) : Prop := (state.slot? slot).isSome = true

/-- The submissions name slots of the snapshot, as the command side checks. -/
def SubmissionsKnown (input : ResolutionInput F) : Prop :=
  ∀ sub ∈ input.submissions, Known input.state sub.actor ∧ ∀ target ∈ sub.targets, Known input.state target

/-- The unblocked ones among the actions name slots of the snapshot. -/
def ActionsKnown (input : ResolutionInput F) (actions : List (Action F)) : Prop :=
  ∀ action ∈ actions, action.blocked = false → Known input.state action.sub.actor ∧
    ∀ target ∈ action.targets, Known input.state target

section Intake

variable {input : ResolutionInput F}

theorem submittedActions_known (known : SubmissionsKnown input) :
    ActionsKnown input (submittedActions input) := by
  intro action haction _
  obtain ⟨sub, hsub, haction⟩ := List.mem_filterMap.1 haction
  obtain ⟨template, -, haction⟩ := Option.bind_eq_some_iff.1 haction
  split at haction
  · obtain rfl := Option.some.inj haction
    exact known sub (List.mem_filter.1 hsub).1
  · cases haction

omit [Float64 F] in
theorem mem_of_mem_interfereAll {reason : String} {losers : List (Nat × Action F)}
    {state : List (Action F) × List (InnerEvent F)} {action : Action F}
    (h : action ∈ (interfereAll reason losers state).1) (hlive : action.blocked = false) :
    action ∈ state.1 :=
  Steps.foldl_inv (fun next : List (Action F) × List (InnerEvent F) =>
      action ∈ next.1 → action ∈ state.1)
    (fun _ _ _ ih hmem => ih (mem_of_mem_setBlocked hmem hlive)) id h

theorem coordinateFactionAction_known {state : List (Action F) × List (InnerEvent F)}
    (h : ActionsKnown input state.1) (spec : FactionActionSpec) :
    ActionsKnown input (coordinateFactionAction input state spec).1 := by
  unfold coordinateFactionAction
  dsimp only
  split
  · exact h
  · split
    · exact fun action haction hlive => h action (mem_of_mem_interfereAll haction hlive) hlive
    · split
      · exact h
      · exact fun action haction hlive => h action (mem_of_mem_interfereAll haction hlive) hlive

/-- An action that the constraints leave unblocked is the one submitted. -/
theorem constrainAction_unblocked {action : Action F}
    (hlive : (constrainAction input action).1.blocked = false) :
    (constrainAction input action).1 = action := by
  unfold constrainAction at hlive ⊢
  split
  · rename_i hreason
    rw [hreason] at hlive
    exact absurd hlive (by simp [suppress])
  · rename_i hreason
    rw [hreason] at hlive
    dsimp only at hlive
    split
    · rename_i hcounter
      rw [hcounter] at hlive
      exact absurd hlive (by simp [suppress])
    · rfl

theorem applyActionConstraints_known {actions : List (Action F)} (h : ActionsKnown input actions)
    (seen : List (SlotId × String)) :
    ActionsKnown input (applyActionConstraints input seen actions).1 := by
  induction actions generalizing seen with
  | nil => exact h
  | cons action actions ih =>
    have hrest : ActionsKnown input actions :=
      fun other hother => h other (List.mem_cons_of_mem action hother)
    unfold applyActionConstraints
    dsimp only
    split
    · rename_i hblocked
      intro other hother hlive
      rcases List.mem_cons.1 hother with rfl | hother
      · rw [hblocked] at hlive
        cases hlive
      · exact ih hrest seen other hother hlive
    · split
      · intro other hother hlive
        rcases List.mem_cons.1 hother with rfl | hother
        · exact absurd hlive (by simp [suppress])
        · exact ih hrest seen other hother hlive
      · intro other hother hlive
        rcases List.mem_cons.1 hother with rfl | hother
        · have hsame := constrainAction_unblocked hlive
          rw [hsame] at hlive ⊢
          exact h action List.mem_cons_self hlive
        · exact ih hrest _ other hother hlive

theorem nightStart_known (known : SubmissionsKnown input) :
    ActionsKnown input (nightStart input).actions := by
  have hcoordinated : ActionsKnown input (applyFactionActionCoordination input
      (submittedActions input, missingCompulsiveActions input (submittedActions input))).1 := by
    unfold applyFactionActionCoordination
    dsimp only
    split
    · exact Steps.foldl_inv
        (fun state : List (Action F) × List (InnerEvent F) => ActionsKnown input state.1)
        (fun state spec _ hstate => coordinateFactionAction_known hstate spec)
        (submittedActions_known known)
    · exact submittedActions_known known
  exact applyActionConstraints_known hcoordinated []

end Intake

section Stages

variable {input : ResolutionInput F} {night : Night F}

/-! ## The stages -/

theorem redirectStage_known (h : ActionsKnown input night.actions) :
    ActionsKnown input (redirectStage input night).actions := by
  -- What the stage reads of the night: its actions.
  let bare : Night F :=
    { night with protections := ∅, wolfCarryTokens := [], effectMarked := [] }
  have hbare : NightOk input AnySlot (Known input.state) True bare := by
    refine ⟨fun action haction hlive => ?_, fun _ _ _ _ => trivial, protectionsOk_empty,
      fun _ htoken => absurd htoken List.not_mem_nil, fun _ hmarked => absurd hmarked List.not_mem_nil⟩
    obtain ⟨hactor, htargets⟩ := h action haction hlive
    exact ⟨hactor, htargets, fun _ _ _ _ => trivial, fun _ _ => trivial, fun _ _ => trivial,
      fun _ _ _ _ => trivial, fun _ _ => trivial, fun _ _ => ⟨trivial, fun _ _ => trivial⟩⟩
  intro action haction hlive
  obtain ⟨hok, -⟩ := resolveRedirects_ok hbare _ haction hlive
  exact ⟨hok.actor, hok.targets⟩

theorem nightStage_known (h : ActionsKnown input night.actions) (ability : IrAbility) :
    ActionsKnown input (nightStage input night ability).actions := by
  by_cases hblock : ability = .block
  · subst hblock
    exact fun action haction hlive => h action (mem_of_mem_setBlockedAll haction hlive) hlive
  · by_cases hredirect : ability = .redirect
    · subst hredirect
      exact redirectStage_known h
    · rw [(nightStage_keeps input night hblock hredirect).1]
      exact h

/-! ## What is queued -/

/-- The delayed deaths queued between are of known targets. -/
def QueuesKnown (input : ResolutionInput F) (before after : List (InnerEvent F)) : Prop :=
  ∃ records, after.filterMap queued? = before.filterMap queued? ++ records ∧
    ∀ record ∈ records, Known input.state record.target

namespace QueuesKnown

variable {before after last : List (InnerEvent F)}

theorem refl (events : List (InnerEvent F)) : QueuesKnown input events events :=
  ⟨[], (List.append_nil _).symm, by simp⟩

theorem trans (h : QueuesKnown input before after) (h' : QueuesKnown input after last) :
    QueuesKnown input before last := by
  obtain ⟨records, hqueued, hknown⟩ := h
  obtain ⟨records', hqueued', hknown'⟩ := h'
  refine ⟨records ++ records', by rw [hqueued', hqueued, List.append_assoc], fun record hrecord => ?_⟩
  exact (List.mem_append.1 hrecord).elim (hknown record) (hknown' record)

theorem of_eq (h : after.filterMap queued? = before.filterMap queued?) : QueuesKnown input before after :=
  ⟨[], h.trans (List.append_nil _).symm, by simp⟩

theorem append {events : List (InnerEvent F)}
    (h : ∀ event ∈ events, ∀ record, queued? event = some record → Known input.state record.target) :
    QueuesKnown input before (before ++ events) := by
  refine ⟨events.filterMap queued?, List.filterMap_append, fun record hrecord => ?_⟩
  obtain ⟨event, hevent, hqueued⟩ := List.mem_filterMap.1 hrecord
  exact h event hevent record hqueued

end QueuesKnown

theorem queued_persistentMarkEvents {action : Action F} {effect : Tag} {target : SlotId} :
    ∀ event ∈ persistentMarkEvents input action effect target, ∀ record,
      queued? event = some record → record.target = target := by
  intro event hevent record hqueued
  unfold persistentMarkEvents at hevent
  rcases List.mem_cons.1 hevent with rfl | hevent
  · cases hqueued
  · rcases List.mem_append.1 hevent with hevent | hbackup
    · rcases List.mem_append.1 hevent with hdelayed | hbeauty
      · split at hdelayed
        · obtain rfl := List.mem_singleton.1 hdelayed
          obtain rfl := Option.some.inj hqueued
          rfl
        · exact absurd hdelayed List.not_mem_nil
      · split at hbeauty
        · obtain rfl := List.mem_singleton.1 hbeauty
          cases hqueued
        · exact absurd hbeauty List.not_mem_nil
    · split at hbackup
      · split at hbackup
        · obtain rfl := List.mem_singleton.1 hbackup
          cases hqueued
        · exact absurd hbackup List.not_mem_nil
      · exact absurd hbackup List.not_mem_nil

theorem markTarget_queues (action : Action F) (effect : Tag)
    (state : Night F × List WolfBeautyMarkRecord) {target : SlotId}
    (htarget : Known input.state target) :
    QueuesKnown input state.1.deaths.events
      (markTarget input action effect state target).1.deaths.events := by
  obtain ⟨night, marks⟩ := state
  have hlanded : QueuesKnown input night.deaths.events
      (landMark input action effect marks target night).deaths.events :=
    .of_eq (Trail.of_run (landMark_run (.refl (nightOk_any input night)) action effect marks target).run).queued
  have htargeted : ∀ before : List (InnerEvent F), QueuesKnown input before
      (before ++ targetLynchWinTargeted input action effect target) := by
    refine fun before => .append fun event hevent record hqueued => ?_
    unfold targetLynchWinTargeted at hevent
    split at hevent
    · exact absurd hevent List.not_mem_nil
    · obtain ⟨policy, -, rfl⟩ := List.mem_map.1 hevent
      cases hqueued
  have hpersisted : ∀ night : Night F, QueuesKnown input night.deaths.events
      (persistMark input action effect target marks night).1.deaths.events := by
    intro night
    unfold persistMark
    dsimp only
    split <;> exact .append fun event hevent record hqueued =>
      queued_persistentMarkEvents event hevent record hqueued ▸ htarget
  unfold markTarget
  dsimp only
  split
  · exact .append fun event hevent record hqueued => by
      rw [List.mem_singleton.1 hevent] at hqueued
      cases hqueued
  · split
    · exact hlanded.trans (htargeted _)
    · exact hlanded.trans ((hpersisted _).trans (htargeted _))

theorem markStage_queues (h : ActionsKnown input night.actions) :
    QueuesKnown input night.deaths.events (markStage input night).deaths.events := by
  unfold markStage
  refine Steps.foldl_inv
    (fun state : Night F × List WolfBeautyMarkRecord =>
      QueuesKnown input night.deaths.events state.1.deaths.events)
    (fun state action haction hstate => ?_) (.refl _)
  obtain ⟨entry, hentry, rfl⟩ := List.mem_map.1 haction
  obtain ⟨hmem, hlive⟩ := List.mem_filter.1 hentry
  obtain ⟨-, htargets⟩ := h entry.2 (mem_abilityOrder hmem).1 (by simpa using hlive)
  unfold markAction
  split
  · exact hstate
  · exact Steps.foldl_inv
      (fun state : Night F × List WolfBeautyMarkRecord =>
        QueuesKnown input night.deaths.events state.1.deaths.events)
      (fun state target htarget hnext =>
        hnext.trans (markTarget_queues entry.2 _ state (htargets target htarget))) hstate

/-- The delayed deaths a night queues are of slots of the snapshot. -/
theorem nightStages_queued (known : SubmissionsKnown input) :
    ∀ record ∈ (nightStages input).deaths.events.filterMap queued?, Known input.state record.target := by
  have hstages : ActionsKnown input (nightStages input).actions ∧
      QueuesKnown input (nightStart input).deaths.events (nightStages input).deaths.events := by
    refine Steps.foldl_inv (fun next : Night F => ActionsKnown input next.actions ∧
        QueuesKnown input (nightStart input).deaths.events next.deaths.events)
      (fun next ability _ hnext => ⟨nightStage_known hnext.1 ability, hnext.2.trans ?_⟩)
      ⟨nightStart_known known, .refl _⟩
    by_cases hmark : ability = .mark
    · subst hmark
      exact markStage_queues hnext.1
    · exact .of_eq (nightStage_trail next hmark).queued
  obtain ⟨records, hqueued, hknown⟩ := hstages.2
  have hintake : (nightStart input).deaths.events.filterMap queued? = [] :=
    List.filterMap_eq_nil_iff.2 fun event hevent =>
      (remark_prepareNightActions input event hevent).aside.2.1
  rw [hintake, List.nil_append] at hqueued
  rw [hqueued]
  exact hknown

end Stages

end Fmarch.Resolver
