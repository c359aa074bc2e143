import Fmarch.Resolver.DeathTrail
import Fmarch.Resolver.NightRuns

/-!
# How the deaths of a night are shown

The trail of `resolve_night`: the stages, the cascades after them and the trigger fixpoint. The Kill stage
is the only stage with kills that an interceptor or a guard answers; the Mark stage is the only one that
queues a delayed death, and `apply_pending_poison` the only function that resolves one.

**`nightDeaths_shows`**: up to its announcement a night strikes down those of `nightStruck`.
-/

namespace Fmarch.Resolver

open Fmarch.Domain Keyed StableSort Steps

variable {F : Type} [Float64 F]

/-! ## Kills -/

section Kills

variable (input : ResolutionInput F)

/-- Those that one carried kill strikes down beside its target. -/
def carryStruck (night : Night F) (unstoppable : Bool) (action : Action F) (d : Deaths F)
    (carry : (WolfCarryTokenRecord × SlotId) × Nat) : List (SlotId × String) :=
  let ((token, target), index) := carry
  let sourceAction := action.sub.actionId ++ ":wolf_carry:" ++ toString (index + 1)
  let d := d.emit (.wolfCarryUsed token.ownerId target sourceAction
    (token.tokenId ++ ":" ++ sourceAction) token.roleKey input.phaseId)
  strikeStruck input night.protections night.transientEffects token.ownerId
    input.pack.document.wolfCarry.cause unstoppable target d

/-- Those that the kills of one action strike down beside their targets. -/
def killAllStruck (night : Night F) (action : Action F) (targets : List SlotId)
    (carries : List (WolfCarryTokenRecord × SlotId)) (d : Deaths F) : List (SlotId × String) :=
  let pack := input.pack.document
  let unstoppable :=
    strongmanBypasses pack action.template && protectBeatsKillUnlessStrongman pack
  let victim := fun target =>
    (alignmentFailbackVictim input action.template action.sub.actor target).1
  let struck := fun d target =>
    strikeStruck input night.protections night.transientEffects action.sub.actor
      action.template.id unstoppable (victim target) d
  let step := fun d target =>
    strike input night.protections night.transientEffects action.sub.actor action.template.id
      unstoppable (victim target) d
  along step struck targets d ++
    along (carryKill input night action unstoppable) (carryStruck input night unstoppable action)
      carries.zipIdx (targets.foldl step d)

/-- Those that one action of the Kill stage strikes down beside its targets. -/
def killActionStruck (night : Night F) (action : Action F) : List (SlotId × String) :=
  let pack := input.pack.document
  if (cprHarmCause pack action.template).isSome || !killParticipates pack action.template then []
  else
    let targets := killTargets input night.clearedEffects action
    if canCarry input action targets then
      let (carries, tokens, events) :=
        carryTargets pack.wolfCarry action.sub.actor night.wolfCarryTokens targets.tail
      let night := { night.emitAll events with wolfCarryTokens := tokens }
      killAllStruck input night action (targets.take 1) carries night.deaths
    else killAllStruck input night action targets [] night.deaths

/-- Those that a stage strikes down. -/
def stageStruck (night : Night F) (ability : IrAbility) : List (SlotId × String) :=
  match ability with
  | .kill =>
    along (killAction input) (killActionStruck input)
      ((stageActions night.actions .kill).map (·.2)) night
  | _ => []

/-- The interceptors and the attackers that a night strikes down, each with the cause. -/
def nightStruck : List (SlotId × String) :=
  let night := nightStages input
  along (nightStage input) (stageStruck input) input.pack.nightStageOrder (nightStart input) ++
    retaliationsStruck input night.protections
      (applyPendingPoison input night.clearedEffects night.deaths) ++
    loopStruck input night.protections night.transientEffects
      (some (night.guardDependencies, night.hideDependencies))
      input.pack.document.redirects.loopCap
      (collectNightObservations input night.actions (nightCascades input night).log
        night.effectMarked (nightCascades input night).killed)
      (nightCascades input night)

variable {input}

theorem carryKill_trail (night : Night F) (action : Action F) (unstoppable : Bool) (d : Deaths F)
    (carry : (WolfCarryTokenRecord × SlotId) × Nat) :
    Trail input d.events (carryStruck input night unstoppable action d carry)
      (carryKill input night action unstoppable d carry).events := by
  obtain ⟨⟨token, target⟩, index⟩ := carry
  have hused : ∀ event, Aside event → Trail input d.events [] (d.emit event).events :=
    fun _ haside => .emit haside
  unfold carryKill carryStruck
  dsimp only
  refine (hused _ ?_).trans (strike_trail _ _ _ _ _ _)
  exact ⟨rfl, rfl, rfl⟩

theorem killAll_trail (night : Night F) (action : Action F) (targets : List SlotId)
    (carries : List (WolfCarryTokenRecord × SlotId)) (d : Deaths F) :
    Trail input d.events (killAllStruck input night action targets carries d)
      (killAll input night action targets carries d).events := by
  unfold killAll killAllStruck
  dsimp only
  refine (Trail.foldl (fun d : Deaths F => d.events) (fun d target _ => strike_trail _ _ _ _ _ d) d).trans ?_
  exact Trail.foldl (fun d : Deaths F => d.events)
    (fun d carry _ => carryKill_trail night action _ d carry) _

omit [Float64 F] in
theorem aside_carryTargets (policy : WolfCarryPolicy) (actor : SlotId)
    (tokens : List WolfCarryTokenRecord) (targets : List SlotId) :
    ∀ event ∈ (carryTargets (F := F) policy actor tokens targets).2.2, Aside event := by
  induction targets generalizing tokens with
  | nil => simp [carryTargets]
  | cons target targets ih =>
    unfold carryTargets
    split
    · intro event hevent
      rcases List.mem_cons.1 hevent with rfl | hlater
      · exact ⟨rfl, rfl, rfl⟩
      · exact ih tokens event hlater
    · exact ih _

theorem killAction_trail (night : Night F) (action : Action F) :
    Trail input night.deaths.events (killActionStruck input night action)
      (killAction input night action).deaths.events := by
  unfold killAction killActionStruck
  dsimp only
  split
  · exact .refl _
  · split
    · have hcarried : ∀ events : List (InnerEvent F), (∀ event ∈ events, Aside event) →
          Trail input night.deaths.events [] (night.emitAll events).deaths.events :=
        fun _ haside => .append haside
      refine (hcarried _ ?_).trans (killAll_trail _ action _ _ _)
      exact aside_carryTargets _ _ _ _
    · exact killAll_trail night action _ [] _

/-! ## The whole night -/

/-- A stage other than Mark queues no delayed death. -/
theorem nightStage_trail (night : Night F) {ability : IrAbility} (hmark : ability ≠ .mark) :
    Trail input night.deaths.events (stageStruck input night ability)
      (nightStage input night ability).deaths.events := by
  by_cases hkill : ability = .kill
  · subst hkill
    exact Trail.foldl (fun night : Night F => night.deaths.events)
      (fun night action _ => killAction_trail night action) night
  · have hnone : stageStruck input night ability = [] := by
      cases ability <;> first | rfl | exact absurd rfl hkill
    rw [hnone]
    exact .of_run (otherStage_run (nightOk_any input night) hkill fun h => absurd h hmark).run

theorem nightStage_stageTrail (night : Night F) (ability : IrAbility) :
    StageTrail input night.deaths.events (stageStruck input night ability)
      (nightStage input night ability).deaths.events := by
  by_cases hmark : ability = .mark
  · subst hmark
    have hrun : Deaths.Run input (fun event => (queued? event).isSome = true) AnySlot AnySlot night.deaths _ :=
      (markStage_run (fun _ => id) (nightOk_any input night)).run
    have hapart : ∀ event : InnerEvent F, (queued? event).isSome = true → shown? event = none ∧ resolved? event = none :=
      fun event hqueued => by cases event <;> first | exact ⟨rfl, rfl⟩ | exact nomatch hqueued
    exact ⟨.of_run hrun fun event hqueued => (hapart event hqueued).1,
      resolved_of_run hrun fun event hqueued => (hapart event hqueued).2⟩
  · exact (nightStage_trail night hmark).toStageTrail

theorem nightStages_trail (input : ResolutionInput F) : StageTrail input (nightStart input).deaths.events
      (along (nightStage input) (stageStruck input) input.pack.nightStageOrder (nightStart input))
      (nightStages input).deaths.events :=
  foldl_along
    (T := fun (night : Night F) struck later =>
      StageTrail input night.deaths.events struck later.deaths.events)
    (fun _ => .refl _) (fun h h' => h.trans h')
    (fun night ability _ => nightStage_stageTrail night ability) (nightStart input)

omit [Float64 F] in
theorem of_resolved (event : InnerEvent F) (h : (resolved? event).isSome = true) :
    shown? event = none ∧ queued? event = none := by
  cases event <;> first | exact ⟨rfl, rfl⟩ | exact nomatch h

theorem applyPendingPoison_shows (clearedEffects : List (SlotId × Tag)) (d : Deaths F) :
    Shows input d.events [] (applyPendingPoison input clearedEffects d).events ∧
      (applyPendingPoison input clearedEffects d).events.filterMap queued? = d.events.filterMap queued? := by
  have hrun : Deaths.Run input (fun event => (resolved? event).isSome = true) AnySlot AnySlot d _ :=
    applyPendingPoison_run (aliveOk_any input) (fun _ => id) clearedEffects d
  exact ⟨.of_run hrun fun event h => (of_resolved event h).1, queued_of_run hrun fun event h => (of_resolved event h).2⟩

/-- After the poison nothing is said of delayed deaths any more. -/
theorem nightDeaths_trail (night : Night F) :
    Trail input (applyPendingPoison input night.clearedEffects night.deaths).events
      (retaliationsStruck input night.protections
          (applyPendingPoison input night.clearedEffects night.deaths) ++
        loopStruck input night.protections night.transientEffects
          (some (night.guardDependencies, night.hideDependencies))
          input.pack.document.redirects.loopCap
          (collectNightObservations input night.actions (nightCascades input night).log
            night.effectMarked (nightCascades input night).killed)
          (nightCascades input night))
      (nightDeaths input night).1.events := by
  have hcascades : Trail input (applyPendingPoison input night.clearedEffects night.deaths).events
      (retaliationsStruck input night.protections
        (applyPendingPoison input night.clearedEffects night.deaths))
      (nightCascades input night).events := by
    have hretaliated : Trail input (applyPendingPoison input night.clearedEffects night.deaths).events
        (retaliationsStruck input night.protections
          (applyPendingPoison input night.clearedEffects night.deaths))
        (applyChosenRetaliations input night.protections
          (applyPendingPoison input night.clearedEffects night.deaths)).events :=
      applyChosenRetaliations_trail _
    have hdrag : Deaths.Run input NoEvent AnySlot AnySlot _ (nightCascades input night) :=
      applyWolfBeautyDragTriggers_run (aliveOk_any input) fun _ _ => trivial
    have hdragged := Trail.of_run hdrag
    have hall := ((hretaliated.trans (dependencyDeaths_trail night.guardDependencies _)).trans
      (dependencyDeaths_trail night.hideDependencies _)).trans hdragged
    rw [List.append_nil, List.append_nil, List.append_nil] at hall
    exact hall
  have htriggers : Trail input (nightCascades input night).events
      (loopStruck input night.protections night.transientEffects
        (some (night.guardDependencies, night.hideDependencies))
        input.pack.document.redirects.loopCap
        (collectNightObservations input night.actions (nightCascades input night).log
          night.effectMarked (nightCascades input night).killed)
        (nightCascades input night))
      (nightTriggers input night (nightCascades input night)).1.events :=
    triggerLoop_trail _ _ _ _ _
  have hlast : Trail input (nightTriggers input night (nightCascades input night)).1.events []
      (nightDeaths input night).1.events :=
    (Trail.of_run (applyCprHarms_run (aliveOk_any input) (nightOk_any input night).protections _)).trans
      (.of_run (applyLoverSuicides_run (fun _ => id) (aliveOk_any input) fun _ _ => trivial))
  have hall := (hcascades.trans htriggers).trans hlast
  rw [List.append_nil] at hall
  exact hall

/-- Up to its announcement a night strikes down those of `nightStruck`, and no others are shown but by
the pack's policy. -/
theorem nightDeaths_shows (input : ResolutionInput F) :
    Shows input (nightStart input).deaths.events (nightStruck input)
      (nightDeaths input (nightStages input)).1.events := by
  have hstages := (nightStages_trail input).toShows
  obtain ⟨hpoison, -⟩ := applyPendingPoison_shows (nightStages input).clearedEffects
    (nightStages input).deaths
  have hall := (hstages.trans hpoison).trans (nightDeaths_trail (nightStages input)).toShows
  rw [List.append_nil, ← List.append_assoc] at hall
  exact hall

end Kills

end Fmarch.Resolver
