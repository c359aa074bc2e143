import Fmarch.Commands.Phases
import Fmarch.Lib.StableSort

/-!
# Submitting and withdrawing an action (`action_submission`)

A player submits an action of the pack under an id of the client's choice, and may withdraw it. Both are
decided from the projections: the slots, the use counters, the history and the grants the resolutions
left, and the actor's active submissions of the phase, which must leave room for one more.

The projections are read as lists of rows, in the order of the query where it has one. Who may issue a
command is decided before and can only refuse it; it is not modelled.
-/

namespace Fmarch.Commands.ActionSubmission

open Domain StableSort Fallible

variable {F : Type} [Float64 F]

/-! ## What the commands read -/

/-- The fields of `SlotStateRow` the commands read. -/
structure SlotStateRow where
  slotId : SlotId
  alive : Bool := true
  roleKey : Option RoleKey := none
  alignment : Option AlignmentKey := none

/-- The fields of `ActionCounterRow` the commands read. -/
structure ActionCounterRow where
  slotId : SlotId
  counterId : Tag
  remaining : Int
  phaseId : PhaseId

structure ActionHistoryRow where
  slotId : SlotId
  templateId : String
  phaseId : PhaseId
  targets : List SlotId
  status : String

/-- The fields of `ActionGrantRow` the commands read. -/
structure ActionGrantRow where
  slotId : SlotId
  grantId : Tag
  kind : String
  phaseId : PhaseId
  uses : Int

/-- The columns of `action_submission`, within one game. -/
structure SubmissionRow where
  phaseId : PhaseId
  actorSlot : SlotId
  actionId : String
  templateId : String
  grantId : Option Tag
  targets : List SlotId
  instantResolved : Bool

structure ActionSubmissionRow where
  actionId : String
  templateId : String
  grantId : Option Tag
  targets : List SlotId

/-- The columns of a query on `action_submission`. -/
def SubmissionRow.selected (row : SubmissionRow) : ActionSubmissionRow :=
  { actionId := row.actionId, templateId := row.templateId, grantId := row.grantId
    targets := row.targets }

/-- The pack of a game, and the projections that its resolutions and its host write. -/
structure View (F : Type) [Float64 F] where
  packName : String
  pack : Pack F
  phase : Option PhaseStateRow := none
  prompts : List HostPromptRow := []
  slots : List SlotStateRow := []
  actionCounters : List ActionCounterRow := []
  actionHistory : List ActionHistoryRow := []
  actionGrants : List ActionGrantRow := []

/-- The rejections of the commands. -/
inductive Reject where
  | invalidTarget
  | unknownSlot
  | slotNotAlive
  | phaseLocked
  | actionAlreadySubmitted
  | internal (message : String)
  deriving DecidableEq

structure ActionSubmissionRequest where
  actionId : String
  actorSlot : SlotId
  templateId : String
  targets : List SlotId
  grantId : Option Tag := none

inductive ActionSource where
  | role
  | itemGrant
  deriving DecidableEq

/-- `ActiveAction`, under its id. -/
structure ActiveAction where
  actionId : String
  templateId : String
  grantId : Option Tag
  targets : List SlotId

/-! ## The projections' queries -/

def slotAlive (view : View F) (slot : SlotId) : Option Bool :=
  (view.slots.find? (·.slotId == slot)).map (·.alive)

def requireSlotAlive (view : View F) (slot : SlotId) : Except Reject Unit :=
  match slotAlive view slot with
  | some true => .ok ()
  | some false => .error .slotNotAlive
  | none => .error .unknownSlot

def requireOpenPhase (view : View F) : Except Reject PhaseId :=
  match view.phase with
  | some phase =>
    if phase.locked then .error .phaseLocked
    else if view.prompts.any fun prompt => prompt.phaseId = phase.phaseId ∧ prompt.pending then
      .error .phaseLocked
    else .ok phase.phaseId
  | none => .error .phaseLocked

/-- The row is an active submission of the actor in the phase. -/
def SubmissionRow.isActive (phaseId : PhaseId) (actorSlot : SlotId) (row : SubmissionRow) : Bool :=
  row.phaseId == phaseId && row.actorSlot == actorSlot && !row.instantResolved

def activeActionSubmissions (rows : List SubmissionRow) (phaseId : PhaseId) (actorSlot : SlotId) :
    List ActionSubmissionRow :=
  sortBy (compareOn (·.actionId))
    ((rows.filter (SubmissionRow.isActive phaseId actorSlot)).map SubmissionRow.selected)

def actionSubmissionIsActive (rows : List SubmissionRow) (phaseId : PhaseId) (actorSlot : SlotId)
    (actionId : String) : Bool :=
  rows.any fun row => row.isActive phaseId actorSlot && row.actionId == actionId

/-- `active_actions_from_rows`. The rows come from one table, whose key is the id, so collecting them
into a map loses none. -/
def activeActionsFromRows (rows : List ActionSubmissionRow) : List ActiveAction :=
  rows.map fun row =>
    { actionId := row.actionId, templateId := row.templateId, grantId := row.grantId
      targets := row.targets }

/-! ## Ids and phases -/

def actionCounterId (templateId : String) : Tag := "x_shot:" ++ templateId

def cooldownCounterId (templateId : String) : Tag := "cooldown:" ++ templateId

def daySessionCounterId (sessionId templateId : String) : Tag :=
  "day_session:" ++ sessionId ++ ":" ++ templateId

def inventoryCounterId (grantId : Tag) : Tag := "inventory:" ++ grantId

def itaSessionForPhase (pack : Pack F) (phaseNumber : Nat) : Option (ItaSessionSpec F) :=
  pack.ita.sessions.find? fun session => session.day.all (· == phaseNumber)

def activationGateReason (template : ActionTemplate F) (phaseKind : PhaseKind) (phaseNumber : Nat) :
    Option String :=
  template.constraints.activeFrom.bind fun gate =>
    if gate.phaseKind = phaseKind ∧ gate.phaseNumber ≤ phaseNumber then none
    else
      match gate.reason with
      | .novice => some "novice_inactive"
      | .activated => some "activated_inactive"

/-- The parity checks of `validate_action_submission`. -/
def parityMatches (phaseNumber : Nat) : PhaseParity → Bool
  | .odd => phaseNumber % 2 != 0
  | .even => phaseNumber % 2 == 0

def phaseIsOnCooldown (currentPhaseNumber recordedPhaseNumber cycles : Nat) : Bool :=
  decide (currentPhaseNumber ≤ saturatingAddU32 recordedPhaseNumber cycles)

def isImmediatelyFollowingPhase (currentPhaseNumber recordedPhaseNumber : Nat) : Bool :=
  currentPhaseNumber == saturatingAddU32 recordedPhaseNumber 1

/-! ## The checks of a submission -/

def submissionTemplate (pack : Pack F) (role : Role F) (templateId : String) (grantId : Option Tag) :
    Except Reject (ActionTemplate F × ActionSource) :=
  match role.actions.find? (·.id == templateId) with
  | some template => .ok (template, .role)
  | none =>
    match grantId.bind (pack.itemActions[·]?) with
    | some template =>
      if template.id ≠ templateId then .error .invalidTarget else .ok (template, .itemGrant)
    | none => .error .invalidTarget

def selectedGrantOption (template : ActionTemplate F) (grantId : Tag) : Option (GrantSpec F) :=
  template.grantOptions.find? (·.grantId == grantId)

/-- The match on `template.targets`. -/
def targetCountRejected (template : ActionTemplate F) (targets : List SlotId) : Bool :=
  match template.targets with
  | .none => !targets.isEmpty
  | .one => targets.length != 1
  | .many | .group => targets.isEmpty || decide (template.constraints.maxTargets < targets.length)

def targetRoleFilterRejected (pack : Pack F) (template : ActionTemplate F) (targets : List SlotId)
    (slots : List SlotStateRow) : Bool :=
  match template.constraints.targetRoleFilter with
  | none => false
  | some filter =>
    let vanillaRoles := pack.investigationResults.roleSets.vanillaRoles
    vanillaRoles.isEmpty || targets.any fun target =>
      match (slots.find? (·.slotId == target)).bind (·.roleKey) with
      | none => true
      | some roleKey =>
        match filter with
        | .powerRole => vanillaRoles.contains roleKey
        | .vanilla => !vanillaRoles.contains roleKey

def roleModifierTeamKillRejected (pack : Pack F) (role : Role F) (template : ActionTemplate F)
    (actor : SlotStateRow) (slots : List SlotStateRow) : Bool :=
  let lost := role.hasModifier .lost
  let recluse := role.hasModifier .recluse
  if (!lost && !recluse) || !pack.nightResolution.teamKillActionIds.contains template.id then false
  else if actor.alignment ≠ some "mafia" then true
  else
    let livingTeammates := slots.filter fun slot =>
      slot.slotId != actor.slotId && slot.alive && slot.alignment == some "mafia"
    if lost then !livingTeammates.isEmpty
    else livingTeammates.any fun slot =>
      match slot.roleKey.bind (pack.roles[·]?) with
      | some role => !role.hasModifier .recluse
      | none => true

/-- A use counter of the actor has run out. -/
def counterExhausted (view : View F) (actorSlot : SlotId) (counterId : Tag) : Bool :=
  view.actionCounters.any fun counter =>
    counter.slotId == actorSlot && counter.counterId == counterId && counter.remaining == 0

/-- The cooldown check of `validate_action_submission`. -/
def onCooldown (view : View F) (phaseId : PhaseId) (actorSlot : SlotId) (templateId : String)
    (cycles : Nat) : Bool :=
  view.actionCounters.any fun counter =>
    counter.slotId == actorSlot && counter.counterId == cooldownCounterId templateId &&
      counter.phaseId.kind == phaseId.kind &&
      phaseIsOnCooldown phaseId.number counter.phaseId.number cycles

/-- The history check of `validate_action_submission`. -/
def targetRepeated (view : View F) (phaseId : PhaseId) (template : ActionTemplate F)
    (request : ActionSubmissionRequest) : Bool :=
  view.actionHistory.any fun record =>
    let inScope :=
      if template.hasModifier .roaming then record.phaseId.kind == .night
      else record.phaseId.kind == .night && isImmediatelyFollowingPhase phaseId.number record.phaseId.number
    record.slotId == request.actorSlot && record.templateId == template.id && inScope &&
      record.status == "resolved" && request.targets.any (record.targets.contains ·)

def grantKindName : GrantKind → String
  | .extraAction => "ExtraAction"
  | .item => "Item"
  | .voteWeight => "VoteWeight"

/-- The uses an actor was granted before the phase. -/
def grantedUses (view : View F) (phaseId : PhaseId) (actorSlot : SlotId) (grantId : Tag)
    (kind : GrantKind) : Nat :=
  ((view.actionGrants.filter fun grant =>
    grant.slotId == actorSlot && grant.grantId == grantId && grant.kind == grantKindName kind &&
      decide (grant.phaseId.number < phaseId.number)).map fun grant => grant.uses.toNat).sum

/-- `validate_action_slot_capacity`, given the actor's active actions. -/
def validateActionSlotCapacity (view : View F) (phaseId : PhaseId) (actorSlot : SlotId)
    (template : ActionTemplate F) (templateId : String) (grantId : Option Tag)
    (source : ActionSource) (active : List ActiveAction) : Except Reject Unit :=
  let usesGrantOption :=
    source == .role && (grantId.bind (selectedGrantOption template)).isSome
  match source, grantId with
  | .role, none =>
    if (active.any fun action => action.grantId.isNone && action.templateId == templateId) ∧
        ¬ template.hasModifier .simultaneous then .error .actionAlreadySubmitted
    else .ok ()
  | .itemGrant, none => .error .invalidTarget
  | source, some grantId =>
    if usesGrantOption then
      if (active.any fun action => action.templateId == templateId) ∧
          ¬ template.hasModifier .simultaneous then .error .actionAlreadySubmitted
      else .ok ()
    else
      let requiredKind := if source = .role then GrantKind.extraAction else .item
      let granted := grantedUses view phaseId actorSlot grantId requiredKind
      if granted = 0 ∨ granted ≤ active.countP fun action => action.grantId == some grantId then
        .error .invalidTarget
      else .ok ()

/-- The target state loop of `validate_action_submission`. -/
def validateTargetStates (view : View F) (state : TargetState) (targets : List SlotId) : Except Reject Unit :=
  targets.forM fun target =>
    match slotAlive view target, state with
    | none, _ => .error .invalidTarget
    | some _, .any => .ok ()
    | some alive, .alive => if alive then .ok () else .error .invalidTarget
    | some alive, .dead => if alive then .error .invalidTarget else .ok ()

def validateActionSubmission (view : View F) (rows : List SubmissionRow) (phaseId : PhaseId)
    (request : ActionSubmissionRequest) : Except Reject Window := do
  let some actor := view.slots.find? (·.slotId == request.actorSlot) | .error .unknownSlot
  let some roleKey := actor.roleKey | .error .invalidTarget
  let some role := view.pack.roles[roleKey]?
    | .error (.internal ("role \x60" ++ roleKey ++ "\x60 is missing from pack " ++ view.packName))
  let (template, source) ← submissionTemplate view.pack role request.templateId request.grantId
  if source = .role ∧ template.hasAbility .grant ∧ template.grantOptions ≠ [] ∧
      (request.grantId.bind (selectedGrantOption template)).isNone then
    throw .invalidTarget
  if !template.window.matchesPhaseKind phaseId.kind then throw .phaseLocked
  if template.constraints.phaseParity.any (!parityMatches phaseId.number ·) then
    throw .invalidTarget
  if template.constraints.cycleParity.any (!parityMatches phaseId.number ·) then
    throw .invalidTarget
  if (activationGateReason template phaseId.kind phaseId.number).isSome then throw .invalidTarget
  if targetCountRejected template request.targets then throw .invalidTarget
  if template.ability = .link ∧ request.targets.length < 2 then throw .invalidTarget
  if !template.constraints.selfAllowed && request.targets.any (· == request.actorSlot) then
    throw .invalidTarget
  if template.constraints.personalOnly && request.targets.any (· != request.actorSlot) then
    throw .invalidTarget
  if template.constraints.lazyRequiresMultipleNonTown ∧
      (view.slots.countP fun slot => slot.alive && slot.alignment != some "town") ≤ 1 then
    throw .invalidTarget
  if template.constraints.disabledAtOrBelowAlive.any (view.slots.countP (·.alive) ≤ ·) then
    throw .invalidTarget
  if roleModifierTeamKillRejected view.pack role template actor view.slots then
    throw .invalidTarget
  if template.constraints.uniqueTargets ∧ ¬ request.targets.Nodup then throw .invalidTarget
  if targetRoleFilterRejected view.pack template request.targets view.slots then
    throw .invalidTarget
  if template.constraints.xShots.isSome ∧
      counterExhausted view request.actorSlot (actionCounterId template.id) then
    throw .invalidTarget
  if template.constraints.cooldownCycles.any
      (onCooldown view phaseId request.actorSlot template.id) then
    throw .invalidTarget
  if template.hasAbility .itaShot then
    let some session := itaSessionForPhase view.pack phaseId.number | throw .invalidTarget
    if session.shotLimit.isSome ∧ counterExhausted view request.actorSlot
          (daySessionCounterId session.sessionId template.id) then
      throw .invalidTarget
  if source = .itemGrant then
    let some grantId := request.grantId | throw .invalidTarget
    if counterExhausted view request.actorSlot (inventoryCounterId grantId) then
      throw .invalidTarget
  if (template.hasModifier .nonConsecutive || template.hasModifier .indecisive ||
      template.hasModifier .roaming) && targetRepeated view phaseId template request then
    throw .invalidTarget
  validateActionSlotCapacity view phaseId request.actorSlot template request.templateId
    request.grantId source
    (activeActionsFromRows (activeActionSubmissions rows phaseId request.actorSlot))
  validateTargetStates view (template.constraints.targetState.getD .alive) request.targets
  return template.window

/-! ## The commands -/

/-- The payload of `ActionSubmitted`. -/
structure ActionSubmitted where
  actionId : String
  templateId : String
  actor : SlotId
  targets : List SlotId
  phaseId : PhaseId
  instantResolved : Bool
  grantId : Option Tag
  deriving DecidableEq

/-- The payload of `ActionWithdrawn`. -/
structure ActionWithdrawn where
  actionId : String
  actor : SlotId
  phaseId : PhaseId
  deriving DecidableEq

/-- `submit_action` up to the resolution of an instant action. -/
def submitAction (view : View F) (rows : List SubmissionRow) (request : ActionSubmissionRequest) :
    Except Reject ActionSubmitted := do
  refuseIf (isBlank request.actionId ∨ isBlank request.templateId) .invalidTarget
  refuseIf (request.grantId.any isBlank) .invalidTarget
  let phaseId ← requireOpenPhase view
  requireSlotAlive view request.actorSlot
  let window ← validateActionSubmission view rows phaseId request
  return { actionId := request.actionId, templateId := request.templateId
           actor := request.actorSlot, targets := request.targets, phaseId
           instantResolved := window = .instant, grantId := request.grantId }

def withdrawAction (view : View F) (rows : List SubmissionRow) (actionId : String)
    (actorSlot : SlotId) : Except Reject ActionWithdrawn := do
  refuseIf (isBlank actionId) .invalidTarget
  let phaseId ← requireOpenPhase view
  requireSlotAlive view actorSlot
  refuseIf (¬ actionSubmissionIsActive rows phaseId actorSlot actionId) .invalidTarget
  return { actionId, actor := actorSlot, phaseId }

section Decisions

variable {view : View F} {rows : List SubmissionRow}

/-- What is submitted is what was asked for, under an id that is not blank. -/
theorem submitAction_ok {request : ActionSubmissionRequest} {payload : ActionSubmitted}
    (h : submitAction view rows request = .ok payload) :
    payload.actionId = request.actionId ∧ isBlank payload.actionId = false := by
  obtain ⟨_, hblank, h⟩ := bind_eq_ok.1 h
  obtain ⟨_, -, h⟩ := bind_eq_ok.1 h
  obtain ⟨_, -, h⟩ := bind_eq_ok.1 h
  obtain ⟨_, -, h⟩ := bind_eq_ok.1 h
  obtain ⟨_, -, h⟩ := bind_eq_ok.1 h
  obtain rfl := Except.ok.inj h
  have := refuseIf_eq_ok.1 hblank
  exact ⟨rfl, by simpa using fun hid => this (.inl hid)⟩

/-- Withdrawing is refused only when nothing can be done, and of what is not active. -/
theorem withdrawAction_iff {actionId : String} {actorSlot : SlotId} {payload : ActionWithdrawn} :
    withdrawAction view rows actionId actorSlot = .ok payload ↔
      ∃ phaseId, isBlank actionId = false ∧ requireOpenPhase view = .ok phaseId ∧
        requireSlotAlive view actorSlot = .ok () ∧
        actionSubmissionIsActive rows phaseId actorSlot actionId = true ∧
        payload = { actionId, actor := actorSlot, phaseId } := by
  simp only [withdrawAction, bind_eq_ok, refuseIf_eq_ok]
  constructor
  · rintro ⟨_, hblank, phaseId, hphase, _, halive, _, hactive, h⟩
    exact ⟨phaseId, by simpa using hblank, hphase, halive, not_not.1 hactive, (Except.ok.inj h).symm⟩
  · rintro ⟨phaseId, hblank, hphase, halive, hactive, rfl⟩
    exact ⟨(), by simp [hblank], phaseId, hphase, (), halive, (), not_not.2 hactive, rfl⟩

end Decisions

end Fmarch.Commands.ActionSubmission
