import Fmarch.Resolver.VoteCount

/-!
# The day's vote

`resolver/outcome.rs`: the vote duel, the recorded ballots, the veto, the lynch and everything it
sets off, the day's announcement, and the wins a lynch alone decides. The announced deaths are kept
in a list of their own beside the kill events.
-/

namespace Fmarch.Resolver

open Fmarch.Domain Keyed StableSort

variable {F : Type} [Float64 F]

/-! ## Duels and vetoes of the vote -/

/-- `slots.iter().find(|slot| slot.slot_id == id && slot.is_alive())`. -/
def livingSlot? (state : StateSnapshot F) (slotId : SlotId) : Option SlotState :=
  state.slots.find? fun slot => slot.slotId == slotId && slot.isAlive

/-- The duel one submission declares, with its event. -/
def declareVoteDuel (input : ResolutionInput F) (voteState : StateSnapshot F) (sub : Submission) :
    Option (List SlotId × InnerEvent F) := do
  let target ← sub.targets.head?
  if target == sub.actor then none
  else
    let actorSlot ← livingSlot? voteState sub.actor
    let targetSlot ← livingSlot? voteState target
    some ([actorSlot.slotId, targetSlot.slotId],
      .voteDuelDeclared actorSlot.slotId targetSlot.slotId sub.actionId input.phaseId)

/-- `resolve_vote_duel_action`: the duel and the events it pushes. -/
def resolveVoteDuelAction (input : ResolutionInput F) (voteState : StateSnapshot F) :
    VoteDuel × List (InnerEvent F) :=
  if input.state.phaseId.kind != .day then (none, [])
  else
    let subs := sortBy submissionCmp ((templated input (·.hasAbility .voteDuel)).map (·.1))
    match subs.findSome? (declareVoteDuel input voteState) with
    | some (duel, event) => (some duel, [event])
    | none => (none, [])

/-- The loop of `resolve_vote_veto_action`: the slot vetoed and the events pushed. -/
def vetoLoop (input : ResolutionInput F) (voteState : StateSnapshot F) (winner : SlotId) :
    List (Submission × ActionTemplate F) → Option SlotId × List (InnerEvent F)
  | [] => (none, [])
  | (sub, template) :: rest =>
    let skip (events : List (InnerEvent F)) :=
      let (vetoed, later) := vetoLoop input voteState winner rest
      (vetoed, events ++ later)
    match livingSlot? voteState sub.actor with
    | none => skip []
    | some actorSlot =>
      match sub.targets with
      | [] => skip [.actionInterfered sub.actor "veto_missing_target"]
      | target :: _ =>
        if target != winner then skip [.actionInterfered sub.actor "veto_target_not_vote_winner"]
        else if limitExhausted input sub template then
          skip [.actionInterfered sub.actor "x_shot_exhausted"]
        else
          (some target, limitedUse input sub template ++
              [.voteVetoed actorSlot.slotId target sub.actionId input.phaseId])

/-- `resolve_vote_veto_action`: the slot vetoed and the events it pushes. -/
def resolveVoteVetoAction (input : ResolutionInput F) (voteState : StateSnapshot F)
    (outcome : DayVoteOutcome F) : Option SlotId × List (InnerEvent F) :=
  if input.state.phaseId.kind != .day then (none, [])
  else if outcome.status != .lynch && outcome.status != .hammer then (none, [])
  else
    match outcome.winner with
    | none => (none, [])
    | some winner => vetoLoop input voteState winner (dayActions input (openWith input .veto))

/-- `format!("{status:?}")`. -/
def statusName : VoteStatus → String
  | .lynch => "Lynch"
  | .noLynch => "NoLynch"
  | .noMajority => "NoMajority"
  | .tie => "Tie"
  | .hammer => "Hammer"

/-- `resolve_day_vote_prompts`: the events it pushes. -/
def dayVotePrompts (input : ResolutionInput F) (outcome : DayVoteOutcome F) : List (InnerEvent F) :=
  let name := statusName outcome.status
  (input.pack.document.dayVotePromptPolicies.filter fun policy =>
      policy.statuses.contains outcome.status).map fun policy =>
    .hostPromptIssued
      { promptId := input.phaseId.canonical ++ ":" ++ policy.promptKind ++ ":" ++ name
        kind := policy.promptKind
        subject := none
        reason := policy.promptReason
        phaseId := input.phaseId
        metadata :=
          { policy := some policy.id
            status := some name
            contenders := outcome.contenders
            tiebreak := outcome.tiebreak
            outcomeReason := outcome.reason } }

/-! ## The lynch -/

def idiotSurvivesLynch (input : ResolutionInput F) (slotId : SlotId) : Bool :=
  let policy := input.pack.document.idiotPolicy
  policy.enabled &&
    match input.state.slot? slotId with
    | some slot =>
      policy.eligibleRoles.contains slot.roleKey && !slot.effects.contains policy.voteLossEffect
    | none => false

/-- `saulus_conversion_on_lynch`: the slot converted, if any. -/
def saulusConversionOnLynch (input : ResolutionInput F) (voteState : StateSnapshot F)
    (slotId : SlotId) : Option SlotState :=
  let policy := input.pack.document.saulusPolicy
  if !policy.enabled then none
  else
    (voteState.slot? slotId).filter fun slot =>
      policy.eligibleRoles.contains slot.roleKey && slot.alignment != some policy.targetAlignment

/-- The voter named as the lynch's actor: the last one whose ballot for the slot still stands. -/
def executionActor (votes : BTreeMap SlotId SlotId) (ordered : List Submission) (lynched : SlotId) : SlotId :=
  match ordered.reverse.find? fun sub =>
      !sub.withdrawn && sub.targets.head? == some lynched && votes[sub.actor]? == some lynched with
  | some sub => sub.actor
  | none => lynched

def voteDuelInstigatorForTarget (events : List (InnerEvent F)) (killed : SlotId) : Option (SlotId × String) :=
  events.reverse.findSome? fun
    | .voteDuelDeclared challenger target sourceAction _ =>
      if challenger == killed || target == killed then some (challenger, sourceAction) else none
    | _ => none

/-- `resolve_last_words`: the events it pushes. -/
def lastWords (input : ResolutionInput F) (outcome : DayVoteOutcome F) (killed : SlotId)
    (events : List (InnerEvent F)) : List (InnerEvent F) :=
  let policy := input.pack.document.dayNotes.lastWords
  if !policy.dayDeaths || input.state.phaseId.kind != .day then []
  else
    let sequence := events.countP fun
      | .lastWordsRecorded _ => true
      | _ => false
    [.lastWordsRecorded
      { playerId := killed
        reason := "lynch"
        templateId := policy.templateId
        audience := policy.audience
        window := policy.window
        sequence
        day := input.state.phaseId.number
        phaseId := input.phaseId
        vote :=
          { status := outcome.status
            winner := outcome.winner
            tallies := outcome.tallies
            majority := outcome.majority
            totalWeight := outcome.totalWeight } }]

/-- `resolve_wolf_beauty_drag`: the slot dragged along, if any. -/
def wolfBeautyDragged (input : ResolutionInput F) (beauty : SlotId) (dayDeathCause : String)
    (events : List (InnerEvent F)) (deaths : List Death) : Option SlotId := do
  let policy := input.pack.document.wolfBeauty
  if !policy.enabled || !policy.deathCauses.contains dayDeathCause then none
  else
    let role ← slotRole input beauty
    if !policy.eligibleRoles.contains role then none
    else
      let mark ← input.state.wolfBeautyMarks.find? fun record =>
        record.beautyId == beauty && record.effect == policy.markEffect
      let targetSlot ← (applyEvents input.state events).slot? mark.targetId
      if !targetSlot.isAlive || deaths.any (·.slotId == mark.targetId) then none
      else some mark.targetId

/-- The local variables of `resolve_day_vote` once the vote is counted. -/
structure Lynch (F : Type) where
  events : List (InnerEvent F)
  deaths : List Death
  frontier : List TriggerObservation := []

/-- The observations of a lynch. -/
def lynchObservations (lynched actor : SlotId) : List TriggerObservation :=
  [{ on := .event .lynch, target := lynched, actor, cause := "lynch" },
    { on := .event .death, target := lynched, actor, cause := "lynch" }]

/-- The observation of the vote duel the lynched slot was in. -/
def voteDuelObservations (duel : VoteDuel) (events : List (InnerEvent F)) (lynched : SlotId) :
    List TriggerObservation :=
  match duel.bind fun _ => voteDuelInstigatorForTarget events lynched with
  | some (challenger, sourceAction) =>
    [{ on := .ability .voteDuel, target := lynched, actor := challenger, cause := sourceAction }]
  | none => []

/-- The lynched slot dies. -/
def lynchSlot (input : ResolutionInput F) (duel : VoteDuel) (outcome : DayVoteOutcome F)
    (lynched : SlotId) (lynch : Lynch F) : Lynch F :=
  let events := lynch.events ++
    [.playerKilled lynched "day_vote" [] true (deathRevealMode input lynched "day_vote")]
  let actor := executionActor outcome.votes (dayVotes input) lynched
  { events := events ++ lastWords input outcome lynched events
    deaths := lynch.deaths ++ [{ slotId := lynched, cause := "lynch" }]
    frontier := lynch.frontier ++ lynchObservations lynched actor ++
      voteDuelObservations duel events lynched }

/-- A lynched wolf beauty drags her mark along. -/
def dragAlong (input : ResolutionInput F) (lynched : SlotId) (lynch : Lynch F) : Lynch F :=
  let policy := input.pack.document.wolfBeauty
  match wolfBeautyDragged input lynched "lynch" lynch.events lynch.deaths with
  | none => lynch
  | some dragged =>
    { lynch with
      events := lynch.events ++
        [.wolfBeautyDragged lynched [dragged] policy.dragCause input.phaseId,
          .playerKilled dragged policy.dragCause [lynched] true
            (deathRevealMode input dragged policy.dragCause)]
      deaths := lynch.deaths ++ [{ slotId := dragged, cause := policy.dragCause }] }

/-- The lynched slot dies, and may drag another along. -/
def executeLynch (input : ResolutionInput F) (duel : VoteDuel) (outcome : DayVoteOutcome F)
    (lynched : SlotId) (lynch : Lynch F) : Lynch F :=
  dragAlong input lynched (lynchSlot input duel outcome lynched lynch)

/-- What becomes of the vote's winner. -/
def resolveWinner (input : ResolutionInput F) (voteState : StateSnapshot F) (duel : VoteDuel)
    (outcome : DayVoteOutcome F) (vetoed : Option SlotId) (winner : SlotId) (lynch : Lynch F) :
    Lynch F :=
  let pack := input.pack.document
  let push (events : List (InnerEvent F)) : Lynch F :=
    { lynch with events := lynch.events ++ events }
  if vetoed == some winner then lynch
  else if !(voteState.slots.any fun slot => slot.isAlive && slot.slotId == winner) then lynch
  else if idiotSurvivesLynch input winner then
    push [.playerSaved winner [pack.idiotPolicy.survivalReason] [winner],
      effectsMarked input pack pack.idiotPolicy.voteLossEffect winner winner "day_vote"
        .persistent]
  else
    match saulusConversionOnLynch input voteState winner with
    | some slot =>
      push [.playerSaved winner [pack.saulusPolicy.survivalReason] [winner],
        .playerConverted winner slot.roleKey (some pack.saulusPolicy.targetAlignment) slot.roleKey
          slot.alignment winner]
    | none => executeLynch input duel outcome winner lynch

/-! ## Wins of a lynch -/

def hasWinReached (events : List (InnerEvent F)) : Bool := events.any (·.isWinReached)

/-- `resolve_self_lynch_wins`: the event it pushes. -/
def selfLynchWin (input : ResolutionInput F) (lynched : SlotId) : Option (InnerEvent F) := do
  let slot ← input.state.slot? lynched
  let (_, policy) ← minIndexBy (fun policy => policy.eligibleRoles.contains slot.roleKey)
    (compareOn SelfLynchWinPolicy.id) input.pack.document.selfLynchWinPolicies
  some (.winReached policy.winner (policy.id ++ " " ++ lynched ++ " lynched")
    (some
      { policy := some policy.id
        target := some lynched
        role := some slot.roleKey
        sourceEvent := some (policy.sourceEvent.getD ("win." ++ policy.id)) }))

/-- The policy a target-lynch record wins by, when its owner is alive and eligible. -/
def targetLynchPolicy (input : ResolutionInput F) (record : TargetLynchWinTargetRecord) :
    Option TargetLynchWinPolicy := do
  let policy ← input.pack.document.targetLynchWinPolicies.find? fun policy =>
    policy.id == record.policy && policy.targetEffect == record.effect
  let owner ← input.state.slot? record.owner
  if owner.isAlive && policy.eligibleRoles.contains owner.roleKey then some policy else none

/-- The order of the matches of `resolve_target_lynch_wins`. -/
def targetLynchCmp : TargetLynchWinTargetRecord × TargetLynchWinPolicy →
    TargetLynchWinTargetRecord × TargetLynchWinPolicy → Ordering :=
  compareLex (compareOn (·.2.id))
    (compareLex (compareOn (·.1.owner)) (compareLex (compareOn (·.1.target)) (compareOn (·.1.sourceAction))))

/-- The records `resolve_target_lynch_wins` matches. -/
def targetLynchMatches (input : ResolutionInput F) (lynched : SlotId) :
    List (TargetLynchWinTargetRecord × TargetLynchWinPolicy) :=
  (input.state.targetLynchWinTargets.filter (·.target == lynched)).filterMap fun record =>
    (targetLynchPolicy input record).map fun policy => (record, policy)

/-- The win of one match. -/
def targetLynchWin (record : TargetLynchWinTargetRecord) (policy : TargetLynchWinPolicy) : InnerEvent F :=
  .winReached policy.winner
    (policy.id ++ " " ++ record.owner ++ " target " ++ record.target ++ " lynched")
    (some
      { policy := some policy.id
        owner := some record.owner
        target := some record.target
        effect := some record.effect
        sourceAction := some record.sourceAction
        targetPhaseId := some record.phaseId })

/-- `resolve_target_lynch_wins`: the events it pushes. -/
def targetLynchWins (input : ResolutionInput F) (lynched : SlotId) : List (InnerEvent F) :=
  (sortBy targetLynchCmp (targetLynchMatches input lynched)).map fun (record, policy) =>
    targetLynchWin record policy

/-- The wins pushed after the day's announcement. -/
def lynchWins (input : ResolutionInput F) (winner : SlotId) (events : List (InnerEvent F)) :
    List (InnerEvent F) :=
  let selfWin := (selfLynchWin input winner).toList
  if hasWinReached (events ++ selfWin) then selfWin else selfWin ++ targetLynchWins input winner

/-! ## The vote -/

/-- The announced deaths of kill records. -/
def deathsFromRecords (records : List KillRecord) : List Death :=
  records.map fun record => { slotId := record.target, cause := record.cause }

/-- The working state the cascades of a vote start from. -/
def lynchDeaths (lynch : Lynch F) : Deaths F where
  events := lynch.events
  killed := lynch.deaths.map (·.slotId)
  log := lynch.deaths.map fun death =>
    { target := death.slotId, attacker := death.slotId, cause := death.cause }

/-- The triggers after a vote: the working state, the kills they produced and the notes. -/
def voteTriggers (input : ResolutionInput F) (lynch : Lynch F) : Deaths F × List KillRecord × List String :=
  applyTriggerFixpoint input ∅ ∅ none
    (lynch.frontier ++ phaseEndObservations input (lynch.deaths.map (·.slotId)))
    (lynchDeaths lynch)

/-- The triggers, retaliations and suicides after a vote: the working state, the deaths announced
and the notes. -/
def voteCascades (input : ResolutionInput F) (lynch : Lynch F) : Deaths F × List Death × List String :=
  let (d, generated, notes) := voteTriggers input lynch
  let d := { d with log := d.log ++ generated }
  let retaliated := applyChosenRetaliations input ∅ d
  let (final, suicides) := applyLoverSuicides input retaliated
  (final, lynch.deaths ++ deathsFromRecords generated ++
      deathsFromRecords (retaliated.log.drop d.log.length) ++
      suicides.map fun slotId =>
        { slotId, cause := input.pack.document.loverPolicy.suicideCause },
    notes)

/-- The events recorded for the ballots. -/
def dayVoteRecorded (input : ResolutionInput F) : List (InnerEvent F) :=
  (dayVotes input).zipIdx.map fun (sub, index) =>
    .dayVoteRecorded sub.actor sub.targets.head? sub.withdrawn (index + 1)

/-- The vote is counted: the outcome, the duel it was held under, the slot vetoed, and the events
pushed until the lynch. -/
def holdVote (input : ResolutionInput F) (voteState : StateSnapshot F) (badges : List (BadgeRecord F)) :
    DayVoteOutcome F × VoteDuel × Option SlotId × List (InnerEvent F) :=
  let (duel, duelEvents) := resolveVoteDuelAction input voteState
  let outcome := countVotes input voteState badges duel
  let (vetoed, vetoEvents) := resolveVoteVetoAction input voteState outcome
  (outcome, duel, vetoed, duelEvents ++ dayVoteRecorded input ++ .dayVoteOutcome outcome :: vetoEvents ++
      dayVotePrompts input outcome)

/-- `resolve_day_vote` until its cascades: the outcome and the lynch. -/
def voteLynch (input : ResolutionInput F) (badges : List (BadgeRecord F))
    (events : List (InnerEvent F)) : DayVoteOutcome F × Lynch F :=
  let voteState := applyEvents input.state events
  let (outcome, duel, vetoed, voteEvents) := holdVote input voteState badges
  let lynch : Lynch F := { events := events ++ voteEvents, deaths := deathsFromEvents events }
  (outcome,
    match outcome.winner with
    | some winner => resolveWinner input voteState duel outcome vetoed winner lynch
    | none => lynch)

/-- The events of `resolve_day_vote` once the deaths are settled, up to the announcement. -/
def voteAftermath (input : ResolutionInput F) (d : Deaths F) : List (InnerEvent F) :=
  let events := d.events ++ effectSourceDeathReveals input d.killed d.events
  events ++ belovedPrincessPrompts input events

/-- `resolve_day_vote`: all events, after those of the caller, and the notes. -/
def resolveDayVote (input : ResolutionInput F) (badges : List (BadgeRecord F))
    (events : List (InnerEvent F)) : List (InnerEvent F) × List String :=
  let (outcome, lynch) := voteLynch input badges events
  let (d, deaths, notes) := voteCascades input lynch
  let events := voteAftermath input d ++ [.phaseAnnouncement (phaseAnnouncement input deaths)]
  (events ++
    match outcome.winner with
    | some winner => lynchWins input winner events
    | none => [],
    notes)

/-- `resolve_day` up to its duels. -/
def dayBeforeDuels (input : ResolutionInput F) : List (InnerEvent F) :=
  let events := dayAnnouncements input ++ revealTownEvents input ++ (resolveBadgeActions input).2
  let events := resolveSelfDestructActions input events
  let events := resolveDayKillActions input events
  resolveItaActions input events

def resolveDay (input : ResolutionInput F) : InnerResolution F :=
  let (events, duelNotes) := resolveDuelActions input (dayBeforeDuels input)
  let (events, voteNotes) := resolveDayVote input (resolveBadgeActions input).1 events
  { events, traceNotes := duelNotes ++ voteNotes }

def resolveTwilight (input : ResolutionInput F) : InnerResolution F :=
  let events := resolveSelfDestructActions input []
  let events := events ++ belovedPrincessPrompts input events
  { events := events ++ [.phaseAnnouncement (phaseAnnouncement input (deathsFromEvents events))] }

end Fmarch.Resolver
