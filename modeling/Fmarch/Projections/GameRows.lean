import Fmarch.Commands.Submissions
import Fmarch.Domain.Liveness
import Fmarch.Projections.Tables

/-!
# What resolutions leave in the tables (`fold_inner`)

The events of a game are folded twice: into the snapshot the resolver starts from (`current_snapshot`,
`apply_events`), and into tables, from which the commands decide what may be submitted. Each table has a
primary key and is written by upserts; the snapshot keeps lists.

The columns that are read off others (a phase's kind and number) and the sealing of private columns are
left out, and so are the tables no submission is decided from. `other` is every other event, with the
slots whose rows it makes sure of.
-/

namespace Fmarch.Projections

open Domain Keyed StableSort Commands.ActionSubmission

variable {F : Type}

/-! ## The tables -/

/-- A row of `vote_ballot`. -/
structure BallotRow where
  phaseId : PhaseId
  actorSlot : SlotId
  target : String

/-- A row of `action_counter`. -/
structure CounterRow where
  slotId : SlotId
  counterId : Tag
  templateId : String
  consumedAction : String
  cadencePolicy : String
  phaseScope : String
  limitCount : Int
  usedCount : Int
  remainingCount : Int
  phaseId : PhaseId

/-- A row of `action_grant`. -/
structure GrantRow (F : Type) where
  slotId : SlotId
  grantId : Tag
  grantOption : Option Tag
  kind : GrantKind
  sourceSlot : SlotId
  sourceAction : String
  phaseId : PhaseId
  uses : Int
  voteWeight : Option F

/-- The tables of one game that its resolutions and its votes write. The rows of the memories, the queue
and the visits are what the snapshot records. -/
structure GameRows (F : Type) where
  slotState : List SlotStateRow := []
  voteBallot : List BallotRow := []
  actionHistory : List ActionHistoryRow := []
  actionCounter : List CounterRow := []
  actionGrant : List (GrantRow F) := []
  investigationMemory : List InvestigationMemoryRecord := []
  delayedDeathQueue : List DelayedDeathRecord := []
  visitHistory : List VisitRecord := []

/-- `n as i32`, of a `u32`. -/
def asI32 (n : Nat) : Int := Int.bmod n (2 ^ 32)

namespace GameRows

def ensureSlot (rows : GameRows F) (slotId : SlotId) : GameRows F :=
  { rows with slotState := pushNew (·.slotId == slotId) { slotId } rows.slotState }

/-- `UPDATE slot_state … WHERE slot_id = $2`. -/
def updateSlotState (rows : GameRows F) (slotId : SlotId) (f : SlotStateRow → SlotStateRow) : GameRows F :=
  { rows with
    slotState := rows.slotState.map fun row => if row.slotId = slotId then f row else row }

def clearBallotsForDeadSlot (rows : GameRows F) (slotId : SlotId) : GameRows F :=
  { rows with
    voteBallot := rows.voteBallot.filter fun row =>
      !(row.actorSlot == slotId || row.target == slotId) }

def setSlotStatus (rows : GameRows F) (slotId : SlotId) (status : SlotLifecycle) : GameRows F :=
  let alive := status == .alive
  let rows := rows.updateSlotState slotId fun row => { row with alive }
  if alive then rows else rows.clearBallotsForDeadSlot slotId

def setSlotPrivate (rows : GameRows F) (slotId : SlotId) (roleKey : RoleKey)
    (alignment : Option AlignmentKey) : GameRows F :=
  rows.updateSlotState slotId fun row => { row with roleKey := some roleKey, alignment }

def updateSlotPrivate (rows : GameRows F) (slotId : SlotId) (roleKey : Option RoleKey)
    (alignment : Option (Option AlignmentKey)) : GameRows F :=
  rows.updateSlotState slotId fun row =>
    { row with
      roleKey := roleKey.or row.roleKey
      alignment := alignment.getD row.alignment }

def upsertBallot (rows : GameRows F) (phaseId : PhaseId) (actorSlot : SlotId) (target : String) :
    GameRows F :=
  { rows with
    voteBallot := upsert (fun row => row.phaseId == phaseId && row.actorSlot == actorSlot)
      { phaseId, actorSlot, target } rows.voteBallot }

def deleteBallot (rows : GameRows F) (phaseId : PhaseId) (actorSlot : SlotId) : GameRows F :=
  { rows with
    voteBallot := rows.voteBallot.filter fun row =>
      !(row.phaseId == phaseId && row.actorSlot == actorSlot) }

/-! ## The fold -/

/-- The slots whose rows `fold_inner` makes sure of. -/
def ensuredSlots : InnerEvent F → List SlotId
  | .playerKilled slotId .. | .slotStatusTagged slotId .. | .playerSaved slotId ..
  | .alignmentRevealed slotId .. | .roleRevealed slotId .. => [slotId]
  | .playerConverted target .. => [target]
  | .effectsMarked _ target _ _ _ duration _ => if duration = .persistent then [target] else []
  | .effectNotification _ _ audience _ => audience
  | .actionRecorded actor .. => [actor]
  | .actionUseCounted _ actor .. => [actor]
  | .investigationResult _ investigator target _ => [investigator, target]
  | .infoResult actor target _ audience .. => actor :: target :: audience
  | .investigationMemoryRecorded investigator target .. => [investigator, target]
  | .delayedDeathQueued _ target _ _ source .. => [target, source]
  | .visitRecorded actor target .. => [actor, target]
  | .actionGranted _ _ _ _ target .. => [target]
  | .actionGrantConsumed _ actor .. => [actor]
  | .hostPromptIssued prompt => prompt.subject.toList
  | _ => []

/-- What `fold_inner` writes once the rows of its slots are there. -/
def write (rows : GameRows F) : InnerEvent F → GameRows F
  | .playerKilled slotId .. => rows.setSlotStatus slotId .dead
  | .playerConverted target newRole newAlignment .. =>
    rows.setSlotPrivate target newRole newAlignment
  | .alignmentRevealed slotId alignment .. =>
    rows.updateSlotPrivate slotId none (some (some alignment))
  | .roleRevealed slotId roleKey .. => rows.updateSlotPrivate slotId (some roleKey) none
  | .actionRecorded actor templateId targets phaseId status =>
    { rows with
      actionHistory := upsert
        (fun row => row.slotId == actor && row.templateId == templateId && row.phaseId == phaseId)
        { slotId := actor, templateId, phaseId, targets, status } rows.actionHistory }
  | .actionUseCounted counterId actor templateId consumedAction cadencePolicy phaseScope limit used
      remaining phaseId =>
    { rows with
      actionCounter := upsert (fun row => row.slotId == actor && row.counterId == counterId)
        { slotId := actor, counterId, templateId, consumedAction, cadencePolicy, phaseScope
          limitCount := asI32 limit, usedCount := asI32 used, remainingCount := asI32 remaining
          phaseId } rows.actionCounter }
  | .investigationMemoryRecorded investigator target mode scope result sourceAction templateId
      phaseId =>
    let kept :=
      if scope = .investigator then
        rows.investigationMemory.filter fun row =>
          !(row.investigator == investigator && row.mode == mode)
      else rows.investigationMemory
    { rows with
      investigationMemory := upsert
        (fun row => row.investigator == investigator && row.target == target && row.mode == mode)
        { investigator, target, mode, scope, result, sourceAction, templateId, phaseId } kept }
  | .delayedDeathQueued queueId target cause effect source sourceAction phaseId =>
    { rows with
      delayedDeathQueue := upsert (·.queueId == queueId)
        { queueId, target, cause, effect, source, sourceAction, phaseId } rows.delayedDeathQueue }
  | .delayedDeathResolved queueId .. =>
    { rows with
      delayedDeathQueue := rows.delayedDeathQueue.filter fun row => row.queueId != queueId }
  | .visitRecorded actor target templateId sourceAction phaseId visible =>
    { rows with
      visitHistory := upsert
        (fun row => row.sourceAction == sourceAction && row.actor == actor && row.target == target)
        { actor, target, templateId, sourceAction, phaseId, visible } rows.visitHistory }
  | .actionGranted grantId grantOption kind actor target sourceAction uses voteWeight phaseId =>
    { rows with
      actionGrant := upsert
        (fun row => row.slotId == target && row.grantId == grantId && row.sourceSlot == actor &&
          row.sourceAction == sourceAction && row.phaseId == phaseId)
        { slotId := target, grantId, grantOption, kind, sourceSlot := actor, sourceAction, phaseId
          uses := asI32 uses, voteWeight } rows.actionGrant }
  | .actionGrantConsumed grantId actor _ sourceAction .. =>
    { rows with
      actionGrant := rows.actionGrant.map fun row =>
        if row.slotId = actor ∧ row.grantId = grantId ∧ row.sourceAction = sourceAction ∧
            0 < row.uses then { row with uses := max (row.uses - 1) 0 } else row }
  | _ => rows

def foldInner (rows : GameRows F) (event : InnerEvent F) : GameRows F :=
  write ((ensuredSlots event).foldl ensureSlot rows) event

end GameRows

/-! ## The stream -/

/-- The events of a game's stream. -/
inductive GameEvent (F : Type) where
  | slotAdded (slotId : SlotId)
  | roleAssigned (slotId : SlotId) (roleKey : RoleKey) (alignment : Option AlignmentKey)
  | slotStatusChanged (slotId : SlotId) (status : SlotLifecycle)
  | slotStatusTagged (slotId : SlotId) (tag : Tag)
  | slotStatusUntagged (slotId : SlotId) (tag : Tag)
  /-- An inner event that stands in the stream by itself. -/
  | standalone (event : InnerEvent F)
  | resolutionApplied (events : List (InnerEvent F))
  /-- A vote or an action submitted or withdrawn. -/
  | submission (event : Event)
  | other (slots : List SlotId)

/-- The kinds of inner events that stand by themselves. -/
def isStandalone : InnerEvent F → Bool
  | .effectsMarked .. | .effectsCleared .. | .effectNotification .. | .actionGranted .. => true
  | _ => false

/-- The fold of one event into the tables. -/
def GameRows.fold (rows : GameRows F) : GameEvent F → GameRows F
  | .slotAdded slotId => rows.ensureSlot slotId
  | .roleAssigned slotId roleKey alignment =>
    (rows.ensureSlot slotId).setSlotPrivate slotId roleKey alignment
  | .slotStatusChanged slotId status => (rows.ensureSlot slotId).setSlotStatus slotId status
  | .slotStatusTagged slotId _ => rows.ensureSlot slotId
  | .slotStatusUntagged .. => rows
  | .standalone event => if isStandalone event then rows.foldInner event else rows
  | .resolutionApplied events => events.foldl foldInner rows
  | .submission (.voteSubmitted actor target phaseId) => rows.upsertBallot phaseId actor target
  | .submission (.voteWithdrawn actor phaseId) => rows.deleteBallot phaseId actor
  | .submission _ => rows
  | .other slots => slots.foldl ensureSlot rows

/-- The tables after a stream. -/
def gameRows (stream : List (GameEvent F)) : GameRows F := stream.foldl GameRows.fold {}

/-! ## The snapshot -/

/-- `slots.entry(slot_id).or_insert(…)`, in the order of the slots' ids. -/
def orInsertSlot (state : StateSnapshot F) (slotId : SlotId) : StateSnapshot F :=
  { state with
    slots :=
      if state.slots.any (·.slotId == slotId) then state.slots
      else sortBy (compareOn Domain.SlotState.slotId) (state.slots ++ [{ slotId, roleKey := "" }]) }

/-- One effect of a role that is assigned. -/
def assignEffect (slotId : SlotId) (state : StateSnapshot F) (effect : Tag) : StateSnapshot F :=
  { state with
    slots := updateSlot state.slots slotId (addEffect effect)
    effectRecords := upsert (fun record => record.effect == effect && record.target == slotId)
      { effect, target := slotId, source := slotId, sourceAction := some "role-assignment" }
      state.effectRecords }

/-- A lasting effect makes sure of its target. -/
def insertMarked (state : StateSnapshot F) : InnerEvent F → StateSnapshot F
  | .effectsMarked _ target _ _ _ .persistent _ => orInsertSlot state target
  | _ => state

/-- One event of the loop of `current_snapshot`; it fails on a role the pack lacks. -/
def snapshotStep [Float64 F] (pack : Pack F) (state : StateSnapshot F) :
    GameEvent F → Option (StateSnapshot F)
  | .slotAdded slotId => some (orInsertSlot state slotId)
  | .roleAssigned slotId roleKey _ =>
    (pack.roles[roleKey]?).map fun role =>
      let state := orInsertSlot state slotId
      role.effects.foldl (assignEffect slotId)
        { state with
          slots := updateSlot state.slots slotId fun slot =>
            { slot with roleKey, alignment := role.alignment } }
  | .slotStatusChanged slotId status =>
    let state := orInsertSlot state slotId
    some { state with slots := updateSlot state.slots slotId fun slot => { slot with status } }
  | .slotStatusTagged slotId tag =>
    let state := orInsertSlot state slotId
    some { state with slots := updateSlot state.slots slotId (addStatusTag tag) }
  | .slotStatusUntagged slotId tag =>
    some
      { state with
        slots := updateSlot state.slots slotId fun slot =>
          { slot with statusTags := slot.statusTags.filter (· != tag) } }
  | .standalone event =>
    some (if isStandalone event then applyEvent (insertMarked state event) event else state)
  | .resolutionApplied events => some (applyEvents state events)
  | .submission _ | .other _ => some state

/-- The snapshot before the first event. -/
def emptySnapshot (phaseId : PhaseId) : StateSnapshot F := { phaseId, slots := [] }

/-- The loop of `current_snapshot`, from the stream's first event. -/
def currentSnapshot [Float64 F] (pack : Pack F) (phaseId : PhaseId) (stream : List (GameEvent F)) :
    Option (StateSnapshot F) :=
  stream.foldlM (snapshotStep pack) (emptySnapshot phaseId)

end Fmarch.Projections
