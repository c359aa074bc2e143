import Fmarch.Resolver.Grants

/-!
# Night intake

`resolver/intake.rs`: submissions become actions, coordinated factions agree on one of theirs, and
the constraint pass admits or suppresses each action. A suppressed action keeps its place in the
list with `blocked` set; an admitted one may have recorded a use or a cooldown.
-/

namespace Fmarch.Resolver

open Fmarch.Domain Keyed StableSort

variable {F : Type} [Float64 F]

/-- `Action`: a submission paired with its template, with its live targets. -/
structure Action (F : Type) where
  sub : Submission
  template : ActionTemplate F
  targets : List SlotId
  blocked : Bool

def Action.hasAbility (action : Action F) (ability : IrAbility) : Bool :=
  action.template.hasAbility ability

/-- `actions[index].blocked = true`. -/
def setBlocked (actions : List (Action F)) (index : Nat) : List (Action F) :=
  actions.modify index fun action => { action with blocked := true }

/-! ## Target constraints -/

def hasHistorySensitiveModifier (action : Action F) : Bool :=
  action.template.hasModifier .nonConsecutive || action.template.hasModifier .indecisive ||
    action.template.hasModifier .roaming || action.template.hasModifier .compulsive

/-- The record check of `repeated_target_limiter_reason`. -/
def isRepeatedUse (input : ResolutionInput F) (action : Action F) (record : ActionUseRecord) : Bool :=
  let inScope := record.phaseId.kind == .night &&
    (action.template.hasModifier .roaming || record.phaseId.number + 1 == input.state.phaseId.number)
  record.actor == action.sub.actor && record.templateId == action.template.id && inScope &&
    record.status == "resolved" && action.targets.any (record.targets.contains ·)

def repeatedTargetLimiterReason (input : ResolutionInput F) (action : Action F) : Option String :=
  let repeated := input.state.actionHistory.any (isRepeatedUse input action)
  if action.template.hasModifier .nonConsecutive then
    if repeated then some "non_consecutive" else none
  else if action.template.hasModifier .indecisive then
    if repeated then some "indecisive" else none
  else if action.template.hasModifier .roaming then
    if repeated then some "roaming" else none
  else none

def targetShapeError (action : Action F) : Option String :=
  match action.template.targets with
  | .none => if action.targets.isEmpty then none else some "target_count"
  | .one => if action.targets.length = 1 then none else some "target_count"
  | .many | .group =>
    if action.targets.isEmpty ∨ action.template.constraints.maxTargets < action.targets.length
    then some "target_count" else none

def duplicateTargetError (action : Action F) : Bool :=
  action.template.constraints.uniqueTargets && !decide action.targets.Nodup

def selfTargetError (action : Action F) : Bool :=
  !action.template.constraints.selfAllowed && action.targets.any (· == action.sub.actor)

def personalTargetError (action : Action F) : Bool :=
  action.template.constraints.personalOnly && action.targets.any (· != action.sub.actor)

def targetRoleFilterError (input : ResolutionInput F) (action : Action F) : Bool :=
  match action.template.constraints.targetRoleFilter with
  | none => false
  | some filter =>
    let vanillaRoles := input.pack.document.investigationResults.roleSets.vanillaRoles
    vanillaRoles.isEmpty || action.targets.any fun target =>
      match slotRole input target with
      | none => true
      | some role =>
        match filter with
        | .powerRole => vanillaRoles.contains role
        | .vanilla => !vanillaRoles.contains role

def disloyalTargetError (input : ResolutionInput F) (action : Action F) : Bool :=
  action.template.hasModifier .disloyal &&
    match slotAlignment input action.sub.actor with
    | none => true
    | some actorAlignment =>
      action.targets.any fun target =>
        match slotAlignment input target with
        | none => true
        | some targetAlignment => targetAlignment == actorAlignment

/-! ## Faction coordination -/

/-- The tie order of `apply_faction_action_coordination`. -/
def factionVoteCmp : Action F → Action F → Ordering :=
  compareLex (compareOn (·.sub.submittedAt))
    (compareLex (compareOn (·.sub.actionId)) (compareOn (·.sub.actor)))

/-- The actions of one coordinated faction action, with their positions. -/
def factionCandidates (input : ResolutionInput F) (spec : FactionActionSpec)
    (actions : List (Action F)) : List (Nat × Action F) :=
  (actions.zipIdx.map fun (action, index) => (index, action)).filter fun (_, action) =>
    !action.blocked && action.template.id == spec.actionId && !action.targets.isEmpty &&
      match input.state.slot? action.sub.actor with
      | some slot => slot.alignment == some spec.alignment
      | none => false

/-- The candidates grouped by their first target, in target order. -/
def factionVotes (candidates : List (Nat × Action F)) : BTreeMap SlotId (List (Nat × Action F)) :=
  candidates.foldl
    (fun votes candidate =>
      match candidate.2.targets with
      | [] => votes
      | target :: _ => votes.insert target ((votes.getD target []) ++ [candidate]))
    ∅

/-- Suppress each listed action for `reason`. -/
def interfereAll (reason : String) (losers : List (Nat × Action F))
    (state : List (Action F) × List (InnerEvent F)) : List (Action F) × List (InnerEvent F) :=
  losers.foldl
    (fun (actions, events) (index, action) =>
      (setBlocked actions index, events ++ [.actionInterfered action.sub.actor reason]))
    state

/-- One iteration of `apply_faction_action_coordination`. -/
def coordinateFactionAction (input : ResolutionInput F)
    (state : List (Action F) × List (InnerEvent F)) (spec : FactionActionSpec) :
    List (Action F) × List (InnerEvent F) :=
  let candidates := factionCandidates input spec state.1
  if candidates.length ≤ spec.maxResolvedSubmissions then state
  else
    let votes := factionVotes candidates
    let maxVotes := (votes.values.map List.length).foldl max 0
    let tied := votes.toList.filter fun (_, voters) => voters.length == maxVotes
    if 1 < tied.length ∧ spec.targetTie = .blockAll then
      interfereAll "faction_vote_tie" votes.values.flatten state
    else
      match minIndexBy (fun _ => true) (fun a b => factionVoteCmp a.2 b.2)
          (tied.flatMap (·.2)) with
      | none => state
      | some (_, selected) =>
        interfereAll "faction_vote_superseded"
          (votes.values.flatten.filter fun voter => voter.1 != selected.1) state

def applyFactionActionCoordination (input : ResolutionInput F)
    (state : List (Action F) × List (InnerEvent F)) : List (Action F) × List (InnerEvent F) :=
  let policy := input.pack.document.factionActions
  if policy.enabled then policy.actions.foldl (coordinateFactionAction input) state else state

/-! ## Endgame and role constraints -/

def aliveNonTownCount (input : ResolutionInput F) : Nat :=
  input.state.slots.countP fun slot => slot.isAlive && slot.alignment != some "town"

def aliveSlotCount (input : ResolutionInput F) : Nat :=
  input.state.slots.countP (·.isAlive)

def lazyEndgameError (input : ResolutionInput F) (action : Action F) : Bool :=
  action.template.constraints.lazyRequiresMultipleNonTown && decide (aliveNonTownCount input ≤ 1)

def disabledEndgameError (input : ResolutionInput F) (action : Action F) : Bool :=
  match action.template.constraints.disabledAtOrBelowAlive with
  | some threshold => decide (aliveSlotCount input ≤ threshold)
  | none => false

def baseRoleSubmission (sub : Submission) : Bool := !sub.metadata.contains "grant_id"

def roleModifierTeamKillError (input : ResolutionInput F) (action : Action F) : Bool :=
  input.pack.document.nightResolution.teamKillActionIds.contains action.template.id &&
    match input.state.slot? action.sub.actor with
    | none => false
    | some actorSlot =>
      match input.pack.document.roles[actorSlot.roleKey]? with
      | none => false
      | some role =>
        let lost := role.hasModifier .lost
        let recluse := role.hasModifier .recluse
        let livingTeammates := input.state.slots.filter fun slot =>
          slot.slotId != actorSlot.slotId && slot.isAlive && slot.alignment == some "mafia"
        if !lost && !recluse then false
        else if actorSlot.alignment != some "mafia" then true
        else if lost then !livingTeammates.isEmpty
        else livingTeammates.any fun slot =>
          match input.pack.document.roles[slot.roleKey]? with
          | some role => !role.hasModifier .recluse
          | none => true

def roleModifierTeamKillReason (input : ResolutionInput F) (action : Action F) : String :=
  match (input.state.slot? action.sub.actor).bind fun slot =>
      input.pack.document.roles[slot.roleKey]? with
  | some role => if role.hasModifier .recluse then "recluse" else "lost"
  | none => "lost"

/-- One slot and template of `emit_missing_compulsive_actions`. -/
def missingCompulsiveAction (input : ResolutionInput F) (actions : List (Action F))
    (slot : SlotState) (template : ActionTemplate F) : List (InnerEvent F) :=
  if !template.hasModifier .compulsive || !template.window.isNightResolutionWindow then []
  else if actions.any fun action =>
      action.sub.actor == slot.slotId && action.template.id == template.id then []
  else
    [.actionInterfered slot.slotId "compulsive_missing",
      .actionRecorded slot.slotId template.id [] input.phaseId "missing"]

/-- `emit_missing_compulsive_actions`. -/
def missingCompulsiveActions (input : ResolutionInput F) (actions : List (Action F)) : List (InnerEvent F) :=
  (input.state.slots.filter (·.isAlive)).flatMap fun slot =>
    match input.pack.document.roles[slot.roleKey]? with
    | none => []
    | some role => role.actions.flatMap (missingCompulsiveAction input actions slot)

/-! ## Phase constraints -/

def phaseParityMatches (phaseNumber : Nat) (parity : PhaseParity) : Bool :=
  match parity with
  | .odd => phaseNumber % 2 == 1
  | .even => phaseNumber % 2 == 0

def activationGateReason (template : ActionTemplate F) (phaseKind : PhaseKind)
    (phaseNumber : Nat) : Option String :=
  match template.constraints.activeFrom with
  | none => none
  | some gate =>
    if gate.phaseKind = phaseKind ∧ gate.phaseNumber ≤ phaseNumber then none
    else
      match gate.reason with
      | .novice => some "novice_inactive"
      | .activated => some "activated_inactive"

/-- The `phase_parity` branch of `apply_action_constraints`. -/
def phaseParityReason (template : ActionTemplate F) (phaseNumber : Nat) : Option String :=
  match template.constraints.phaseParity with
  | none => none
  | some parity =>
    if phaseParityMatches phaseNumber parity then none
    else
      match parity with
      | .odd => some "odd_night"
      | .even => some "even_night"

/-- The `cycle_parity` branch of `apply_action_constraints`. -/
def cycleParityReason (template : ActionTemplate F) (phaseNumber : Nat) : Option String :=
  match template.constraints.cycleParity with
  | none => none
  | some parity =>
    if phaseParityMatches phaseNumber parity then none
    else
      match parity with
      | .odd => some "odd_cycle"
      | .even => some "even_cycle"

def cooldownCounterId (templateId : String) : Tag := "cooldown:" ++ templateId

def actionOnCooldown (input : ResolutionInput F) (actor : SlotId) (templateId : String)
    (cooldownCycles : Nat) : Bool :=
  input.state.useCounters.any fun counter =>
    counter.actor == actor && counter.counterId == cooldownCounterId templateId &&
      counter.phaseId.kind == input.state.phaseId.kind &&
      decide (input.state.phaseId.number ≤ saturatingAddU32 counter.phaseId.number cooldownCycles)

def cooldownUseCounted (input : ResolutionInput F) (actor : SlotId) (templateId actionId : String)
    (cooldownCycles : Nat) : InnerEvent F :=
  .actionUseCounted (cooldownCounterId templateId) actor templateId actionId "cooldown"
    "phase_kind" cooldownCycles 1 cooldownCycles input.phaseId

/-! ## The constraint pass -/

/-- The checks of `apply_action_constraints` before the use counters, in the order they run. -/
def constraintReason (input : ResolutionInput F) (action : Action F) : Option String :=
  targetShapeError action <|>
  (if duplicateTargetError action then some "duplicate_target" else none) <|>
  (if selfTargetError action then some "self_target" else none) <|>
  (if personalTargetError action then some "personal" else none) <|>
  (if targetRoleFilterError input action then some "invalid_target_role" else none) <|>
  (if disloyalTargetError input action then some "disloyal" else none) <|>
  (if lazyEndgameError input action then some "lazy" else none) <|>
  (if disabledEndgameError input action then some "disabled_endgame" else none) <|>
  (if roleModifierTeamKillError input action then
    some (roleModifierTeamKillReason input action) else none) <|>
  phaseParityReason action.template input.state.phaseId.number <|>
  cycleParityReason action.template input.state.phaseId.number <|>
  activationGateReason action.template input.state.phaseId.kind input.state.phaseId.number <|>
  repeatedTargetLimiterReason input action

/-- The use-limit branch of `apply_action_constraints`. -/
def xShotAdmission (input : ResolutionInput F) (action : Action F) : Option String × List (InnerEvent F) :=
  match action.template.constraints.xShots with
  | none => (none, [])
  | some limit =>
    if actionCounterExhausted input.state.useCounters action.sub.actor action.template.id limit then
      (some "x_shot_exhausted", [])
    else
      (none, [actionUseCounted input action.sub.actor action.template.id action.sub.actionId limit])

/-- What the counters say of an action that passed `constraintReason`: the reason to suppress it,
if any, and the uses recorded until then. -/
def counterAdmission (input : ResolutionInput F) (action : Action F) : Option String × List (InnerEvent F) :=
  match xShotAdmission input action with
  | (some reason, events) => (some reason, events)
  | (none, events) =>
    match action.template.constraints.cooldownCycles with
    | none => (none, events)
    | some cooldownCycles =>
      if actionOnCooldown input action.sub.actor action.template.id cooldownCycles then
        (some "cooldown", events)
      else (none, events ++ [cooldownUseCounted input action.sub.actor action.template.id
        action.sub.actionId cooldownCycles])

/-- The announcements an admitted action makes at intake. -/
def intakeAnnouncements (input : ResolutionInput F) (action : Action F) : List (InnerEvent F) :=
  (if action.template.hasModifier .loud then
    [.effectNotification "loud" action.template.id (aliveSlotIds input) none] else []) ++
  (if action.template.hasModifier .announcing then
    [.effectNotification "announcing" action.template.id (aliveSlotIds input) none] else [])

def suppress (action : Action F) (reason : String) : Action F × List (InnerEvent F) :=
  ({ action with blocked := true }, [.actionInterfered action.sub.actor reason])

/-- The loop body of `apply_action_constraints` after the duplicate-submission check. -/
def constrainAction (input : ResolutionInput F) (action : Action F) : Action F × List (InnerEvent F) :=
  match constraintReason input action with
  | some reason => suppress action reason
  | none =>
    match counterAdmission input action with
    | (some reason, events) =>
      let (action, suppressed) := suppress action reason
      (action, events ++ suppressed)
    | (none, events) => (action, events ++ intakeAnnouncements input action)

/-- `apply_action_constraints`. The pairs `seen` are `base_role_submissions_seen`. -/
def applyActionConstraints (input : ResolutionInput F) (seen : List (SlotId × String)) :
    List (Action F) → List (Action F) × List (InnerEvent F)
  | [] => ([], [])
  | action :: actions =>
    if action.blocked then
      let (rest, events) := applyActionConstraints input seen actions
      (action :: rest, events)
    else
      let key := (action.sub.actor, action.template.id)
      let tracked := baseRoleSubmission action.sub && !action.template.hasModifier .simultaneous
      if tracked && seen.contains key then
        let (action, suppressed) := suppress action "duplicate_submission"
        let (rest, events) := applyActionConstraints input seen actions
        (action :: rest, suppressed ++ events)
      else
        let (action, admitted) := constrainAction input action
        let (rest, events) :=
          applyActionConstraints input (if tracked then key :: seen else seen) actions
        (action :: rest, admitted ++ events)

/-! ## Preparation -/

/-- The submissions that reach night resolution, paired with their templates. -/
def submittedActions (input : ResolutionInput F) : List (Action F) :=
  (input.submissions.filter (!·.withdrawn)).filterMap fun sub => do
    let template ← lookupSubmissionTemplate input sub
    if phaseWindowMatches template.window input.state.phaseId.kind then
      some { sub, template, targets := sub.targets, blocked := false }
    else none

/-- `prepare_night_actions`: the actions and the prefix events. -/
def prepareNightActions (input : ResolutionInput F) : List (Action F) × List (InnerEvent F) :=
  let actions := submittedActions input
  let (actions, events) :=
    applyFactionActionCoordination input (actions, missingCompulsiveActions input actions)
  let (actions, constraintEvents) := applyActionConstraints input [] actions
  (actions, events ++ constraintEvents)

def historySensitiveActionEvents (input : ResolutionInput F) (actions : List (Action F)) :
    List (InnerEvent F) :=
  (actions.filter hasHistorySensitiveModifier).map fun action =>
    .actionRecorded action.sub.actor action.template.id action.targets input.phaseId
      (if action.blocked then "suppressed" else "resolved")

/-- The order of `ability_order`: descending priority, then submission order. -/
def actionPriorityCmp : Action F → Action F → Ordering :=
  compareLex (fun a b => compare b.template.constraints.priority a.template.constraints.priority)
    (compareLex (compareOn (·.sub.submittedAt)) (compareOn (·.sub.actionId)))

/-- `ability_order`: the actions with an ability, each with its position, in resolution order. -/
def abilityOrder (actions : List (Action F)) (ability : IrAbility) : List (Nat × Action F) :=
  sortBy (fun a b => actionPriorityCmp a.2 b.2)
    ((actions.zipIdx.filter fun (action, _) => action.hasAbility ability).map
      fun (action, index) => (index, action))

end Fmarch.Resolver
