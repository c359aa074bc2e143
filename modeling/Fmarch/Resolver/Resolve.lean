import Fmarch.Resolver.DayVote

/-!
# Resolution

`resolver.rs`: the phase's own events behind the grant consumptions and ingest halts, then
finalisation: status tags, the win check with its triggers, the envelope, and the engine's check of
its own output.
-/

namespace Fmarch.Resolver

open Fmarch.Domain Keyed StableSort

variable {F : Type} [Float64 F]

/-! ## Ingest -/

def invalidSubmissionIngestHalts (input : ResolutionInput F) : List (InnerEvent F) :=
  let voting := input.state.phaseId.kind == .day || input.state.phaseId.kind == .twilight
  ((input.submissions.filter (!·.withdrawn)).filter fun sub =>
      !(voting && sub.templateId == "day_vote") && !submissionHasExhaustedItemGrant input sub &&
        (lookupSubmissionTemplate input sub).isNone).map fun sub =>
    .actionIngestHalted sub.actionId sub.actor (slotRole input sub.actor) sub.templateId
      sub.targets sub.phaseId "template_not_available_to_actor" (submittedGrantId sub)

def phaseWindowMismatchHalts (input : ResolutionInput F) : List (InnerEvent F) :=
  (input.submissions.filter (!·.withdrawn)).filterMap fun sub => do
    let template ← lookupSubmissionTemplate input sub
    let reason ← phaseWindowMismatchReason template.window input.state.phaseId.kind
    some (.actionInterfered sub.actor reason)

/-- The resolution of the phase itself. -/
def resolvePhase (input : ResolutionInput F) : InnerResolution F :=
  match input.state.phaseId.kind with
  | .day => resolveDay input
  | .twilight => resolveTwilight input
  | .night => resolveNight input

def resolveInner (input : ResolutionInput F) : InnerResolution F :=
  let inner := resolvePhase input
  { inner with
    events := grantConsumptionEvents input ++ invalidSubmissionIngestHalts input ++
      phaseWindowMismatchHalts input ++ inner.events }

/-! ## Status tags -/

def treestumpApplies (policy : TreestumpPolicy) (state : StateSnapshot F) (slotId : SlotId) : Bool :=
  match state.slot? slotId with
  | some slot =>
    slot.isAlive && policy.eligibleRoles.contains slot.roleKey && !slot.statusTags.contains policy.statusTag
  | none => false

/-- The tags of the kills before the announcement, on the rolling state. -/
def treestumpTags (policy : TreestumpPolicy) : StateSnapshot F → List (InnerEvent F) → List (InnerEvent F)
  | _, [] => []
  | rolling, event :: events =>
    let rest := treestumpTags policy (applyEvent rolling event) events
    match event with
    | .playerKilled slotId cause _ _ _ =>
      if treestumpApplies policy rolling slotId then
        .slotStatusTagged slotId policy.statusTag cause :: rest
      else rest
    | _ => rest

def applyTreestumpPolicy (input : ResolutionInput F) (events : List (InnerEvent F)) : List (InnerEvent F) :=
  let policy := input.pack.document.treestumpPolicy
  if !policy.enabled then events
  else
    match events.findIdx? (·.isPhaseAnnouncement) with
    | none => events
    | some index =>
      events.take index ++ treestumpTags policy input.state (events.take index) ++ events.drop index

/-! ## Wins -/

def isSurvivalAwardSlot (pack : Pack F) (slot : SlotState) : Bool :=
  pack.win.survivalAwards.any fun award => award.eligibleRoles.contains slot.roleKey

def aliveInFactionForWin (state : StateSnapshot F) (pack : Pack F) (faction : AlignmentKey) : Nat :=
  state.slots.countP fun slot =>
    slot.isAlive && slot.alignment == some faction && !isSurvivalAwardSlot pack slot

def aliveTotalForWin (state : StateSnapshot F) (pack : Pack F) : Nat :=
  state.slots.countP fun slot => slot.isAlive && !isSurvivalAwardSlot pack slot

def survivalWinMetadata (state : StateSnapshot F) (pack : Pack F) : Option WinReachedMetadata :=
  let awards := pack.win.survivalAwards.flatMap fun award =>
    (state.slots.filter fun slot =>
        slot.isAlive && award.eligibleRoles.contains slot.roleKey).map fun slot =>
      ({ policy := award.id, winner := award.winner, slotId := slot.slotId, role := slot.roleKey,
         sourceEvent := award.sourceEvent.getD ("win." ++ award.id) } : SurvivalWinAward)
  if awards.isEmpty then none else some { survivalAwards := awards }

/-- Whether a win condition fires, and the reason it would give. -/
def winConditionMet (state : StateSnapshot F) (pack : Pack F) : WinCondition → Bool × String
  | .factionEliminated faction =>
    (aliveInFactionForWin state pack faction == 0, "faction " ++ faction ++ " eliminated (0 alive)")
  | .factionReachesParity faction =>
    let alive := aliveInFactionForWin state pack faction
    let others := aliveTotalForWin state pack - alive
    (decide (0 < alive) && decide (others ≤ alive),
      "faction " ++ faction ++ " reaches parity (" ++ toString alive ++ " vs " ++
        toString others ++ " others)")
  | .allOtherFactionsEliminated faction =>
    let alive := aliveInFactionForWin state pack faction
    let others := aliveTotalForWin state pack - alive
    (decide (0 < alive) && others == 0,
      "all factions other than " ++ faction ++ " eliminated (" ++ toString alive ++ " alive)")

/-- The win of one rule, as its winner and reason. -/
def winRuleReason (state : StateSnapshot F) (pack : Pack F) (rule : WinRule) :
    Option (AlignmentKey × String) :=
  let (fires, reason) := winConditionMet state pack rule.when
  let blocked := rule.blockedByAlive.any fun alignment =>
    decide (0 < aliveInFactionForWin state pack alignment)
  if fires && !blocked then some (rule.winner, reason) else none

/-- `check_win`: the winner and the reason of the first rule that fires. -/
def checkWin (state : StateSnapshot F) (pack : Pack F) : Option (AlignmentKey × String) :=
  pack.win.rules.findSome? (winRuleReason state pack)

/-- The `WinReached` event `check_win` returns for a winner and a reason in `state`. -/
def winReached (state : StateSnapshot F) (pack : Pack F) (win : AlignmentKey × String) : InnerEvent F :=
  .winReached win.1 win.2 (survivalWinMetadata state pack)

/-! ## Finalisation -/

/-- The deaths appended to an announcement: those of the events that it does not list yet. -/
def announceNewDeaths : List Death → List Death → List Death
  | announced, [] => announced
  | announced, death :: deaths =>
    if announced.any (·.slotId == death.slotId) then announceNewDeaths announced deaths
    else announceNewDeaths (announced ++ [death]) deaths

/-- `apply_win_triggers_before_final`: the events and the notes, or `none` where the source panics
because the last event is not an announcement. -/
def applyWinTriggersBeforeFinal (input : ResolutionInput F) (winner : AlignmentKey)
    (events : List (InnerEvent F)) : Option (List (InnerEvent F) × List String) :=
  match events.getLast? with
  | some (.phaseAnnouncement announcement) =>
    let events := events.dropLast
    let stateBeforeFinal := applyEvents input.state events
    let (d, _, notes) := applyTriggerFixpoint input ∅ ∅ none
      (winObservations stateBeforeFinal winner)
      { events, killed := (deathsFromEvents events).map (·.slotId) }
    let deaths := announceNewDeaths announcement.deaths (deathsFromEvents d.events)
    some (d.events ++ [.phaseAnnouncement (phaseAnnouncement input deaths)], notes)
  | _ => none

inductive ResolutionInputError where
  | phaseMismatch (inputPhaseId statePhaseId : PhaseId)
  | generatedResolution (error : ResultValidationError)
  | generatedTrace (error : ResultValidationError)

/-- How a resolution can fail: with an error of its own, or by the panic of the one `pop`. -/
inductive ResolveFailure where
  | error (error : ResolutionInputError)
  | announcementMissing

structure ResolutionOutput (F : Type) where
  applied : ResolutionApplied F
  trace : ResolutionTrace
  postState : StateSnapshot F

def wrapResolution (input : ResolutionInput F) (inner : List (InnerEvent F)) : ResolutionApplied F where
  phaseId := input.phaseId
  runId := input.runId
  resultVersion := resultVersion
  seed := input.seed
  counts :=
    { events := inner.length
      kills := inner.countP (·.isPlayerKilled)
      saves := inner.countP (·.isPlayerSaved) }
  events := inner.zipIdx.map fun (event, index) => { index, event }
  startedAt := input.logicalTime
  finishedAt := input.logicalTime

/-- `build_resolution_trace`, less the explanations. -/
def buildResolutionTrace (applied : ResolutionApplied F) (notes : List String) : ResolutionTrace where
  phaseId := applied.phaseId
  runId := applied.runId
  traceVersion := traceVersion
  notes

/-- The final events of `finalize_resolution` and the notes, or `none` where the source panics. -/
def finalEvents (input : ResolutionInput F) (inner : InnerResolution F) :
    Option (List (InnerEvent F) × List String) :=
  let pack := input.pack.document
  let events := applyTreestumpPolicy input inner.events
  if hasWinReached events then some (events, inner.traceNotes)
  else
    let postState := applyEvents input.state events
    match checkWin postState pack with
    | none => some (events, inner.traceNotes)
    | some win => do
      let (events, notes) ← applyWinTriggersBeforeFinal input win.1 events
      let finalState := applyEvents input.state events
      let finalWin :=
        match checkWin finalState pack with
        | some win => winReached finalState pack win
        | none => winReached postState pack win
      some (events ++ [finalWin], inner.traceNotes ++ notes)

def finalizeResolution (input : ResolutionInput F) (inner : InnerResolution F) :
    Except ResolveFailure (ResolutionOutput F) :=
  match finalEvents input inner with
  | none => .error .announcementMissing
  | some (events, notes) =>
    let applied := wrapResolution input events
    let trace := buildResolutionTrace applied notes
    match validateResolutionApplied applied resultVersion with
    | .error error => .error (.error (.generatedResolution error))
    | .ok () =>
      match validateResolutionTrace trace traceVersion with
      | .error error => .error (.error (.generatedTrace error))
      | .ok () => .ok { applied, trace, postState := applyEvents input.state events }

/-- `ResolutionInput::validate`. -/
def validateInput (input : ResolutionInput F) : Except ResolutionInputError Unit :=
  if input.phaseId != input.state.phaseId then
    .error (.phaseMismatch input.phaseId input.state.phaseId)
  else .ok ()

def resolve (input : ResolutionInput F) : Except ResolveFailure (ResolutionOutput F) :=
  match validateInput input with
  | .error error => .error (.error error)
  | .ok () => finalizeResolution input (resolveInner input)

def resolveInstant (input : ResolutionInput F) : Except ResolveFailure (ResolutionOutput F) :=
  match validateInput input with
  | .error error => .error (.error error)
  | .ok () =>
    let events := resolveInstantSelfDestructActions input []
    let events := events ++ belovedPrincessPrompts input events
    finalizeResolution input
      { events := events ++
          [.phaseAnnouncement (phaseAnnouncement input (deathsFromEvents events))] }

end Fmarch.Resolver
