import Fmarch.Domain.Phase
import Fmarch.Lib.KeyedPatch
import Fmarch.Platform.Values

/-!
# The host console on the wire (`wire/src/lib.rs`)

The state of a host's console, and `host_console_patches`, which compares two states of a game part by
part: a part that is sent whole where it has changed, or the changed and removed rows of one with keys.
`D` is what a day event's definition has that the console does not read.
-/

namespace Fmarch.Wire

open Domain Platform

/-! ## Authority and phase -/

inductive HostConsoleAuthorityKind where
  | hostOf | cohostOf | globalOperator
  deriving DecidableEq

inductive CohostPermissionClass where
  | setup | phaseResolve | hostPromptResolve | lifecycle | replacement | deadline | narrative
  | itaControl | effectSpec | dayEventOps | dayEventResolve | programAttach
  deriving DecidableEq

/-- The text of a permission class. -/
def CohostPermissionClass.code : CohostPermissionClass → String
  | setup => "setup"
  | phaseResolve => "phase_resolve"
  | hostPromptResolve => "host_prompt_resolve"
  | lifecycle => "lifecycle"
  | replacement => "replacement"
  | deadline => "deadline"
  | narrative => "narrative"
  | itaControl => "ita_control"
  | effectSpec => "effect_spec"
  | dayEventOps => "day_event_ops"
  | dayEventResolve => "day_event_resolve"
  | programAttach => "program_attach"

structure HostConsoleAuthorityDelta where
  principalId : Uuid
  capability : HostConsoleAuthorityKind
  allowedClasses : List CohostPermissionClass
  deniedClasses : List CohostPermissionClass
  deriving DecidableEq

structure HostConsolePhaseStateDelta where
  phaseId : PhaseId
  locked : Bool
  deadline : Option Int
  deriving DecidableEq

/-! ## Rows -/

structure HostConsoleSlotOccupancyDelta where
  slotId : String
  occupancyId : String
  personaId : String
  publicName : String
  assignedPrincipalId : Uuid
  alive : Bool
  status : String
  statusTags : List String
  roleKey : Option String
  alignment : Option String
  roleRevealed : Bool
  alignmentRevealed : Bool
  deriving DecidableEq

inductive GameThreadAuthor where
  | slot (slotId : String)
  | hostNarrator
  | system
  deriving DecidableEq

inductive PostKind where
  | discussionPost
  | gamePost
  deriving DecidableEq

structure PostRef where
  kind : PostKind
  scopeId : Uuid
  sourceSeq : Int
  deriving DecidableEq

structure Quotation where
  target : PostRef
  excerpt : String
  deriving DecidableEq

structure HostConsoleThreadPostDelta where
  streamSeq : Int
  author : GameThreadAuthor
  phaseId : Option PhaseId
  body : String
  quotations : List Quotation
  deriving DecidableEq

structure GameRosterName where
  effectiveSeq : Int
  publicName : String
  deriving DecidableEq

structure GameRosterOccupancy where
  beganSeq : Int
  endedSeq : Option Int
  names : List GameRosterName
  deriving DecidableEq

structure GameRosterSeat where
  slotId : String
  alive : Bool
  status : String
  occupancies : List GameRosterOccupancy
  deriving DecidableEq

structure DayEventSchedulerDelta where
  pending : Bool
  nextDueAt : Option Int
  autoResolvePending : Bool
  narrativePending : Bool
  wakeSeq : Int
  lastObservedWakeSeq : Int
  leaseUntil : Option Int
  retryNotBefore : Option Int
  lastAttemptAt : Option Int
  lastSuccessAt : Option Int
  lastFailureAt : Option Int
  consecutiveFailures : Int
  totalAttempts : Int
  totalSuccesses : Int
  lastError : Option String
  deriving DecidableEq

/-! ## Day events -/

inductive ParticipantFilter where
  | aliveSlots | allOccupied | hostInvited | channelMembers
  deriving DecidableEq

inductive ParticipationMode where
  | optIn | submitChoice | submitFreeformRef | voteAmongOptions
  deriving DecidableEq

inductive EventChannelMembership where
  | eligibleSlots | participants
  deriving DecidableEq

inductive NarrativeLifecycle where
  | opened | locked | resolved | cancelled
  deriving DecidableEq

inductive AutoResolvePolicy where
  | firstN (winners : Nat)
  | seededRandom (winners : Nat)
  deriving DecidableEq

/-- `DayEventResolutionEvidence`; a `DayEventAuditSeed` is its number. -/
inductive DayEventResolutionEvidence where
  | hostDecision (participantSlots : List String)
  | auto (policy : AutoResolvePolicy) (seed : Option Nat) (participantSlots : List String)
  deriving DecidableEq

structure RewardBinding (D : Type) where
  rewardKey : String
  displayNameThemeKey : String
  effects : List D
  deriving DecidableEq

/-- `DayEvent`. -/
structure DayEventDefinition (D : Type) where
  templateKey : String
  who : ParticipantFilter
  mode : ParticipationMode
  minimum : Nat
  maximum : Option Nat
  rewards : List (RewardBinding D)
  rest : List D
  deriving DecidableEq

structure DayEventRoomDelta where
  eventId : String
  channelId : String
  templateKey : String
  state : String
  membership : EventChannelMembership
  memberCount : Nat
  postingAllowed : Bool
  deriving DecidableEq

structure DayEventNarrativeDelta where
  lifecycle : NarrativeLifecycle
  templateKey : String
  templateHash : String
  channelId : String
  status : String
  body : Option String
  sourceSeq : Option Int
  publishedSeq : Option Int
  deriving DecidableEq

structure HostDayEventDelta (D : Type) where
  eventId : String
  state : String
  phaseId : Option PhaseId
  definition : DayEventDefinition D
  room : Option DayEventRoomDelta
  participantSlots : List String
  openDueAt : Option Int
  openObservedAt : Option Int
  lockDueAt : Option Int
  lockObservedAt : Option Int
  autoSeed : Option Nat
  resolutionEvidence : Option DayEventResolutionEvidence
  winnerSlots : List String
  rewardKeysApplied : List String
  narratives : List DayEventNarrativeDelta
  deriving DecidableEq

/-! ## Tasks -/

inductive HostTaskKind where
  | engineHostPrompt | dayEventResolve
  deriving DecidableEq

inductive HostTaskState where
  | ready | blocked
  deriving DecidableEq

inductive HostTaskCommandKind where
  | resolveHostPrompt | resolveDayEvent
  deriving DecidableEq

structure HostTaskAllowedCommand where
  kind : HostTaskCommandKind
  permissionClass : CohostPermissionClass
  deriving DecidableEq

/-- `HostTaskDelta`; its urgency is always attention. -/
structure HostTaskDelta where
  id : String
  kind : HostTaskKind
  state : HostTaskState
  intent : String
  consequence : String
  phaseId : Option PhaseId
  subjectSlot : Option String
  sourceId : String
  allowedCommands : List HostTaskAllowedCommand
  blockedReason : Option String
  deriving DecidableEq

/-! ## The console and its patches -/

structure HostConsoleStateDelta (D : Type) where
  game : Uuid
  authority : HostConsoleAuthorityDelta
  completed : Bool
  phase : Option HostConsolePhaseStateDelta
  slots : List HostConsoleSlotOccupancyDelta
  threadPosts : List HostConsoleThreadPostDelta
  roster : List GameRosterSeat
  dayEventScheduler : Option DayEventSchedulerDelta
  dayEvents : List (HostDayEventDelta D)
  tasks : List HostTaskDelta

/-- The `ProjectionDelta`s of a host's console, less the game each names. -/
inductive HostConsoleDelta (D : Type) where
  | stateChanged (state : HostConsoleStateDelta D)
  | headerChanged (authority : HostConsoleAuthorityDelta) (completed : Bool)
      (phase : Option HostConsolePhaseStateDelta)
  | slotsChanged (slots : List HostConsoleSlotOccupancyDelta) (removedSlotIds : List String)
  | rosterChanged (roster : List GameRosterSeat)
  | threadPostsChanged (posts : List HostConsoleThreadPostDelta)
  | threadPostRemoved (streamSeq : Int)
  | dayEventsChanged (dayEvents : List (HostDayEventDelta D)) (removedEventIds : List String)
  | schedulerChanged (dayEventScheduler : Option DayEventSchedulerDelta)
  | tasksChanged (tasks : List HostTaskDelta)

section Patches

variable {D : Type} [DecidableEq D]

/-- One delta, if there is something to tell. -/
def deltaIf (tell : Bool) (delta : HostConsoleDelta D) : List (HostConsoleDelta D) :=
  if tell then [delta] else []

def hostConsolePatches (previous : Option (HostConsoleStateDelta D)) (current : HostConsoleStateDelta D) :
    List (HostConsoleDelta D) :=
  match previous.filter (·.game = current.game) with
  | none => [.stateChanged current]
  | some previous =>
    let changedSlots := KeyedPatch.changed (·.slotId) previous.slots current.slots
    let removedSlotIds := KeyedPatch.removed (·.slotId) previous.slots current.slots
    let changedPosts := KeyedPatch.changed (·.streamSeq) previous.threadPosts current.threadPosts
    let changedEvents := KeyedPatch.changed (·.eventId) previous.dayEvents current.dayEvents
    let removedEventIds := KeyedPatch.removed (·.eventId) previous.dayEvents current.dayEvents
    deltaIf (previous.authority ≠ current.authority || previous.completed ≠ current.completed ||
        previous.phase ≠ current.phase)
      (.headerChanged current.authority current.completed current.phase) ++
    deltaIf (!changedSlots.isEmpty || !removedSlotIds.isEmpty)
      (.slotsChanged changedSlots removedSlotIds) ++
    deltaIf (previous.roster ≠ current.roster) (.rosterChanged current.roster) ++
    deltaIf (!changedPosts.isEmpty) (.threadPostsChanged changedPosts) ++
    (KeyedPatch.removed (·.streamSeq) previous.threadPosts current.threadPosts).map
      .threadPostRemoved ++
    deltaIf (previous.dayEventScheduler ≠ current.dayEventScheduler)
      (.schedulerChanged current.dayEventScheduler) ++
    deltaIf (!changedEvents.isEmpty || !removedEventIds.isEmpty)
      (.dayEventsChanged changedEvents removedEventIds) ++
    deltaIf (previous.tasks ≠ current.tasks) (.tasksChanged current.tasks)

end Patches

end Fmarch.Wire
