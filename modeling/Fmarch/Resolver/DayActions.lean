import Fmarch.Resolver.Night

/-!
# Day actions

`resolver.rs`, `resolver/outcome.rs`: what happens on a day before its vote, in the order of
`resolve_day`: announcements, reveals, badges, self-destructs, day kills and duels (the ITA sessions
between the last two are in `Ita.lean`). The stages that kill keep a day state of their own, folded
from the events they commit.
-/

namespace Fmarch.Resolver

open Fmarch.Domain Keyed StableSort

variable {F : Type} [Float64 F]

/-! ## Submissions in resolution order -/

/-- The live ones among `subs` with a template that satisfies `p`. -/
def templatedOf (input : ResolutionInput F) (p : ActionTemplate F → Bool)
    (subs : List Submission) : List (Submission × ActionTemplate F) :=
  (subs.filter (!·.withdrawn)).filterMap fun sub => do
    let template ← lookupSubmissionTemplate input sub
    if p template then some (sub, template) else none

/-- The live submissions with a template that satisfies `p`. -/
def templated (input : ResolutionInput F) (p : ActionTemplate F → Bool) :
    List (Submission × ActionTemplate F) :=
  templatedOf input p input.submissions

/-- Descending priority, then submission order. -/
def dayPriorityCmp : Submission × ActionTemplate F → Submission × ActionTemplate F → Ordering :=
  compareLex (fun a b => compare b.2.constraints.priority a.2.constraints.priority)
    (fun a b => submissionCmp a.1 b.1)

/-- The templated submissions in the order of the day stages that honour priority. -/
def dayActions (input : ResolutionInput F) (p : ActionTemplate F → Bool) :
    List (Submission × ActionTemplate F) :=
  sortBy dayPriorityCmp (templated input p)

/-- The template's window is open and it has the ability. -/
def openWith (input : ResolutionInput F) (ability : IrAbility) (template : ActionTemplate F) : Bool :=
  phaseWindowMatches template.window input.state.phaseId.kind && template.hasAbility ability

/-! ## Working state -/

/-- The events of the day so far, and a stage's own `day_state`. -/
structure Day (F : Type) where
  events : List (InnerEvent F)
  state : StateSnapshot F

namespace Day

variable {F : Type}

/-- Push one event. -/
def emit (day : Day F) (event : InnerEvent F) : Day F :=
  { day with events := day.events ++ [event] }

/-- Push events and fold them into the day state. -/
def commit (day : Day F) (events : List (InnerEvent F)) : Day F :=
  { events := day.events ++ events, state := applyEvents day.state events }

end Day

/-- A living actor and a living first target, or the reason the stage `label` gives. -/
def livingPair (label : String) (state : StateSnapshot F) (sub : Submission) :
    Except String (SlotState × SlotState) :=
  match sub.targets with
  | [] => .error (label ++ "_missing_target")
  | target :: _ =>
    match state.slot? sub.actor with
    | none => .error (label ++ "_actor_unknown")
    | some actorSlot =>
      if !actorSlot.isAlive then .error (label ++ "_actor_dead")
      else
        match state.slot? target with
        | none => .error (label ++ "_target_unknown")
        | some targetSlot =>
          if !targetSlot.isAlive then .error (label ++ "_target_dead")
          else .ok (actorSlot, targetSlot)

/-! ## Announcements and reveals -/

def dayAnnouncementRolePayload (policy : DayAnnouncementPolicy) : Option DayNoteRolePayload :=
  if policy.templateId.isSome || policy.audience.isSome || policy.rolePayload != .roleKey then
    some policy.rolePayload
  else none

/-- The announcement of one night victim. -/
def dayAnnouncement (input : ResolutionInput F) (sequence : Nat)
    (victim : DayAnnouncementInput) : InnerEvent F :=
  let policy := input.pack.document.dayNotes.announcements
  let day := input.state.phaseId.number
  .dayAnnouncement
    { playerId := victim.playerId
      cause := victim.cause
      templateId := policy.templateId
      audience := policy.audience
      sourceActionId := victim.sourceActionId
      attackers := victim.attackers
      unstoppable := victim.unstoppable
      roleKey := match policy.rolePayload with
        | .hidden => none
        | .roleKey => victim.roleKey
      rolePayload := dayAnnouncementRolePayload policy
      recordedAt := victim.recordedAt
      sequence
      day
      night := day - 1
      phaseId := input.phaseId }

/-- `resolve_day_announcements`: the events it pushes. -/
def dayAnnouncements (input : ResolutionInput F) : List (InnerEvent F) :=
  let policy := input.pack.document.dayNotes.announcements
  let day := input.state.phaseId.number
  let victims := input.dayPhaseInputs.nightVictims
  if !policy.enabled || input.state.phaseId.kind != .day then []
  else if (day == 1 && !policy.nightDeathsN1) || (decide (1 < day) && !policy.nightDeathsAfterN1)
  then []
  else
    let selected :=
      if 1 < day ∧ 1 < victims.length ∧ policy.multipleNightDeathsN2Plus = false then
        victims.take 1
      else victims
    (selected.zipIdx.filter fun (victim, _) => victim.playerId != "").map
      fun (victim, sequence) => dayAnnouncement input sequence victim

/-- The loop of `resolve_reveal_town_actions`; `revealed` is the set of actors already seen. -/
def revealTown (input : ResolutionInput F) : List SlotId → List Submission → List (InnerEvent F)
  | _, [] => []
  | revealed, sub :: subs =>
    if revealed.contains sub.actor then revealTown input revealed subs
    else
      let rest := revealTown input (sub.actor :: revealed) subs
      match input.state.slots.find? fun slot => slot.slotId == sub.actor && slot.isAlive with
      | none => rest
      | some slot =>
        match slot.alignment with
        | none => rest
        | some alignment =>
          .alignmentRevealed sub.actor alignment sub.actionId input.phaseId :: rest

/-- `resolve_reveal_town_actions`: the events it pushes. -/
def revealTownEvents (input : ResolutionInput F) : List (InnerEvent F) :=
  if input.state.phaseId.kind != .day then []
  else
    revealTown input []
      (sortBy submissionCmp ((templated input (·.hasAbility .revealTown)).map (·.1)))

/-! ## Badges -/

/-- The change one badge action makes, given the badges so far. -/
def badgeChange (input : ResolutionInput F) (badges : BTreeMap Tag (BadgeRecord F))
    (sub : Submission) (badge : BadgeSpec F) : Option (BadgeRecord F) :=
  let inherited :=
    (badge.voteWeight <|> (badges[badge.badgeId]?).bind (·.voteWeight)).getD Float64.one
  let owned (target : SlotId) (reason : String) : BadgeRecord F :=
    { badgeId := badge.badgeId, owner := some target, voteWeight := some inherited,
      actor := sub.actor, sourceAction := sub.actionId, reason, destroyed := false,
      phaseId := input.phaseId }
  match badge.operation with
  | .elect => sub.targets.head?.map fun target => owned target "elected"
  | .pass => sub.targets.head?.map fun target => owned target "voluntary"
  | .destroy =>
    some { badgeId := badge.badgeId, owner := none, voteWeight := none, actor := sub.actor,
           sourceAction := sub.actionId, reason := "destroyed", destroyed := true,
           phaseId := input.phaseId }

/-- One action of `resolve_badge_actions`: the badges and the events so far. -/
def badgeAction (input : ResolutionInput F) (state : BTreeMap Tag (BadgeRecord F) × List (InnerEvent F))
    (entry : Submission × ActionTemplate F) :
    BTreeMap Tag (BadgeRecord F) × List (InnerEvent F) :=
  let (badges, events) := state
  let (sub, template) := entry
  match template.badge with
  | none => state
  | some badge =>
    match badgeChange input badges sub badge with
    | none => state
    | some record =>
      (badges.insert record.badgeId record, events ++ [.badgeChanged record.badgeId record.owner
          ((badges[record.badgeId]?).bind (·.owner)) record.voteWeight record.actor
          record.sourceAction record.reason record.destroyed input.phaseId])

/-- `resolve_badge_actions`: the badges and the events pushed. -/
def resolveBadgeActions (input : ResolutionInput F) : List (BadgeRecord F) × List (InnerEvent F) :=
  let badges : BTreeMap Tag (BadgeRecord F) :=
    (∅ : BTreeMap Tag (BadgeRecord F)).insertMany
      (input.state.badges.map fun record => (record.badgeId, record))
  let actions := sortBy (fun a b => submissionCmp a.1 b.1) (templated input (openWith input .badge))
  let (badges, events) := actions.foldl (badgeAction input) (badges, [])
  (badges.values, events)

/-! ## Self-destruct -/

/-- The events one self-destruct commits. -/
def selfDestructEvents (input : ResolutionInput F) (sub : Submission) (spec : SelfDestructSpec)
    (actorRole : RoleKey) (target : SlotId) : List (InnerEvent F) :=
  let carry := input.pack.document.wolfCarry
  let killed (slot : SlotId) : InnerEvent F :=
    .playerKilled slot spec.cause [sub.actor] spec.unstoppable
      (deathRevealMode input slot spec.cause)
  let sacrifice :=
    if carry.enabled && carry.eligibleRoles.contains actorRole then
      [killed sub.actor, .wolfCarryQueued sub.actor carry.tokenId carry.cause actorRole input.phaseId]
    else [killed sub.actor]
  .wolfSelfDestructed sub.actor target spec.cause spec.unstoppable sub.actionId input.phaseId ::
    ((if spec.killTarget then [killed target] else []) ++ (if spec.sacrificeActor then sacrifice else []))

/-- One action of `resolve_self_destruct_actions_matching`. -/
def selfDestruct (input : ResolutionInput F) (day : Day F) (entry : Submission × ActionTemplate F) : Day F :=
  let (sub, template) := entry
  match template.selfDestruct with
  | none => day
  | some spec =>
    match livingPair "self_destruct" day.state sub with
    | .error reason => day.emit (.actionInterfered sub.actor reason)
    | .ok (actorSlot, targetSlot) =>
      day.commit (selfDestructEvents input sub spec actorSlot.roleKey targetSlot.slotId)

/-- `resolve_self_destruct_actions_matching`: the events after those of the caller. -/
def resolveSelfDestructActionsMatching (input : ResolutionInput F)
    (matchesWindow : ActionTemplate F → Bool) (events : List (InnerEvent F)) :
    List (InnerEvent F) :=
  ((dayActions input fun template =>
      matchesWindow template && template.hasAbility .selfDestruct).foldl (selfDestruct input)
    { events, state := applyEvents input.state events }).events

def resolveSelfDestructActions (input : ResolutionInput F) (events : List (InnerEvent F)) :
    List (InnerEvent F) :=
  resolveSelfDestructActionsMatching input
    (fun template => phaseWindowMatches template.window input.state.phaseId.kind) events

def resolveInstantSelfDestructActions (input : ResolutionInput F)
    (events : List (InnerEvent F)) : List (InnerEvent F) :=
  resolveSelfDestructActionsMatching input (fun template => template.window == .instant) events

/-! ## Day kills -/

/-- The use a limited action records. -/
def limitedUse (input : ResolutionInput F) (sub : Submission) (template : ActionTemplate F) :
    List (InnerEvent F) :=
  match template.constraints.xShots with
  | some limit => [actionUseCounted input sub.actor template.id sub.actionId limit]
  | none => []

/-- The action has a use limit and its counter in the snapshot has reached it. -/
def limitExhausted (input : ResolutionInput F) (sub : Submission) (template : ActionTemplate F) : Bool :=
  match template.constraints.xShots with
  | some limit => actionCounterExhausted input.state.useCounters sub.actor template.id limit
  | none => false

/-- The kill of a day action past its checks. -/
def dayKillEvents (input : ResolutionInput F) (sub : Submission) (template : ActionTemplate F)
    (victim : SlotId) : List (InnerEvent F) :=
  limitedUse input sub template ++
    [.playerKilled victim template.id [sub.actor] (template.hasModifier .strongman)
      (deathRevealMode input victim template.id)]

/-- One action of `resolve_day_kill_actions`. -/
def dayKill (input : ResolutionInput F) (day : Day F) (entry : Submission × ActionTemplate F) : Day F :=
  let (sub, template) := entry
  match livingPair "day_kill" day.state sub with
  | .error reason => day.emit (.actionInterfered sub.actor reason)
  | .ok (_, targetSlot) =>
    if limitExhausted input sub template then
      day.emit (.actionInterfered sub.actor "x_shot_exhausted")
    else
      let (victim, failback) :=
        alignmentFailbackVictim input template sub.actor targetSlot.slotId
      if !failback && (targetStateGateReason input.pack.document (targetTags input ∅ victim)
          .kill).isSome then day
      else day.commit (dayKillEvents input sub template victim)

/-- `resolve_day_kill_actions`: the events after those of the caller. -/
def resolveDayKillActions (input : ResolutionInput F) (events : List (InnerEvent F)) : List (InnerEvent F) :=
  if input.state.phaseId.kind != .day then events
  else
    ((dayActions input fun template =>
        openWith input .kill template && template.window == .day).foldl (dayKill input)
      { events, state := applyEvents input.state events }).events

/-! ## Duels -/

/-- The outcome of a duel past its checks: the result and who dies. -/
def duelResult (duel : DuelSpec) (actor : SlotId) (targetSlot : SlotState) : DuelResult × SlotId :=
  let success :=
    match targetSlot.alignment with
    | some alignment => duel.hostileAlignments.contains alignment
    | none => false
  if success then (.success, targetSlot.slotId) else (.failure, actor)

/-- The events of one duel, with its triggers, and the notes of their fixpoint. -/
def duelEvents (input : ResolutionInput F) (sub : Submission) (template : ActionTemplate F)
    (duel : DuelSpec) (targetSlot : SlotState) : List (InnerEvent F) × List String :=
  let (result, killed) := duelResult duel sub.actor targetSlot
  let start := limitedUse input sub template ++
    [.duelResolved sub.actor targetSlot.slotId result killed sub.actionId input.phaseId,
      .playerKilled killed template.id [sub.actor] true (deathRevealMode input killed template.id)]
  let (d, _, notes) := applyTriggerFixpoint input ∅ ∅ none
    [{ on := .ability .duel, target := killed, actor := sub.actor, cause := template.id }]
    { events := start, killed := [killed] }
  (d.events, notes)

/-- One action of `resolve_duel_actions`; the pair carries the notes. -/
def duelAction (input : ResolutionInput F) (state : Day F × List String)
    (entry : Submission × ActionTemplate F) : Day F × List String :=
  let (day, notes) := state
  let (sub, template) := entry
  match template.duel with
  | none => state
  | some duel =>
    match livingPair "duel" day.state sub with
    | .error _ => state
    | .ok (_, targetSlot) =>
      if limitExhausted input sub template then
        (day.emit (.actionInterfered sub.actor "x_shot_exhausted"), notes)
      else
        let (events, duelNotes) := duelEvents input sub template duel targetSlot
        (day.commit events, notes ++ duelNotes)

/-- `resolve_duel_actions`: the events after those of the caller, and the notes. The duels' day
state starts from the snapshot, not from the events of the day so far. -/
def resolveDuelActions (input : ResolutionInput F) (events : List (InnerEvent F)) :
    List (InnerEvent F) × List String :=
  let (day, notes) := (dayActions input (openWith input .duel)).foldl (duelAction input)
    ({ events, state := input.state }, [])
  (day.events, notes)

end Fmarch.Resolver
