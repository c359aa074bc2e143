import Fmarch.Resolver.Trigger

/-!
# After the deaths

`resolver.rs`: what the deaths of a resolution bring about besides more kills by triggers: the wolf
beauty's drag, due poison, inherited roles, reveals, host prompts and the closing announcement.
-/

namespace Fmarch.Resolver

open Fmarch.Domain Keyed StableSort

variable {F : Type} [Float64 F]

/-! ## Wolf beauty -/

/-- One record of `apply_wolf_beauty_drag_triggers`; the list is `processed_beauties`. -/
def wolfBeautyDragTrigger (input : ResolutionInput F) (state : Deaths F × List SlotId)
    (record : KillRecord) : Deaths F × List SlotId :=
  let policy := input.pack.document.wolfBeauty
  let (d, processed) := state
  if !policy.deathCauses.contains record.cause || processed.contains record.target then state
  else
    let processed := record.target :: processed
    match slotRole input record.target with
    | none => (d, processed)
    | some role =>
      if !policy.eligibleRoles.contains role then (d, processed)
      else
        match input.state.wolfBeautyMarks.find? fun mark =>
            mark.beautyId == record.target && mark.effect == policy.markEffect with
        | none => (d, processed)
        | some mark =>
          if !aliveInState input mark.targetId then (d, processed)
          else
            let d := d.emit (.wolfBeautyDragged record.target [mark.targetId] policy.dragCause input.phaseId)
            if d.killed.contains mark.targetId then
              ((mergeStackedKillAttribution mark.targetId record.target policy.dragCause true d).1, processed)
            else
              (d.kill mark.targetId policy.dragCause [record.target] true
                (deathRevealMode input mark.targetId policy.dragCause)
                [{ target := mark.targetId, attacker := record.target,
                   cause := policy.dragCause }],
                processed)

def applyWolfBeautyDragTriggers (input : ResolutionInput F) (d : Deaths F) : Deaths F :=
  if !input.pack.document.wolfBeauty.enabled then d
  else (d.log.foldl (wolfBeautyDragTrigger input) (d, [])).1

/-! ## Poison -/

def activePendingDeath (input : ResolutionInput F) (clearedEffects : List (SlotId × Tag))
    (target : SlotId) : Option DelayedDeathRecord := do
  let slot ← input.state.slot? target
  if !slot.isAlive then none
  else
    input.state.delayedDeaths.find? fun record =>
      record.target == target && record.effect == "poisoned" &&
        slot.effects.contains record.effect &&
        !clearedEffects.contains (target, record.effect)

/-- `DelayedDeathResolved` of one queued death. -/
def delayedDeathResolved (input : ResolutionInput F) (queued : DelayedDeathRecord)
    (outcome : String) : InnerEvent F :=
  .delayedDeathResolved queued.queueId queued.target queued.cause queued.effect outcome
    input.phaseId

/-- One queued death of `apply_pending_poison`. -/
def pendingPoison (input : ResolutionInput F) (clearedEffects : List (SlotId × Tag))
    (d : Deaths F) (queued : DelayedDeathRecord) : Deaths F :=
  match input.state.slot? queued.target with
  | none => d
  | some slot =>
    if !slot.isAlive || d.killed.contains slot.slotId then
      d.emit (delayedDeathResolved input queued "target_already_dead")
    else if clearedEffects.contains (slot.slotId, "poisoned") ||
        !slot.effects.contains "poisoned" then
      d.emit (delayedDeathResolved input queued "preempted_by_clear")
    else
      (d.emit (delayedDeathResolved input queued "applied")).kill slot.slotId queued.cause [] true
        (deathRevealMode input slot.slotId queued.cause) []

def applyPendingPoison (input : ResolutionInput F) (clearedEffects : List (SlotId × Tag))
    (d : Deaths F) : Deaths F :=
  (input.state.delayedDeaths.filter (·.effect == "poisoned")).foldl
    (pendingPoison input clearedEffects) d

/-! ## Backups -/

/-- The slots killed, with their roles. -/
def killedRoles (input : ResolutionInput F) (killed : List SlotId) : List (SlotId × RoleKey) :=
  killed.filterMap fun slotId =>
    (input.state.slot? slotId).map fun slot => (slotId, slot.roleKey)

/-- The backup targets once this resolution's own `BackupTargeted` events are counted. -/
def backupTargetsAfter (input : ResolutionInput F) (events : List (InnerEvent F)) : List BackupTargetRecord :=
  events.foldl
    (fun targets event =>
      match event with
      | .backupTargeted backup sourceTarget sourceRole sourceAction phaseId =>
        upsert (fun record => record.backup == backup)
          { backup, sourceTarget, sourceRole, sourceAction, phaseId } targets
      | _ => targets)
    input.state.backupTargets

/-- The killed slot and role a backup inherits from. The validator requires a priority with an
enabled policy; without one, where the source panics, nothing is inherited here. -/
def inheritedRole (input : ResolutionInput F) (roles : List (SlotId × RoleKey))
    (targets : List BackupTargetRecord) (backup : SlotState) : Option (SlotId × RoleKey) :=
  let policy := input.pack.document.backupPolicy
  let targeted := (targets.find? (·.backup == backup.slotId)).bind fun record =>
    roles.find? (·.1 == record.sourceTarget)
  let passive := backup.effects.findSome? fun effect =>
    (backupRole policy effect).bind fun role => roles.find? (·.2 == role)
  match policy.priority with
  | some .targetedThenPassive => targeted <|> passive
  | some .passiveThenTargeted => passive <|> targeted
  | none => none

/-- `apply_backup_inheritance`: the events it pushes. -/
def backupInheritance (input : ResolutionInput F) (killed : List SlotId)
    (events : List (InnerEvent F)) : List (InnerEvent F) :=
  if !input.pack.document.backupPolicy.enabled then []
  else
    let roles := killedRoles input killed
    let targets := backupTargetsAfter input events
    (input.state.slots.filter fun slot => slot.isAlive && !killed.contains slot.slotId).filterMap
      fun backup =>
        match inheritedRole input roles targets backup with
        | none => none
        | some (source, role) =>
          if backup.roleKey == role then none
          else
            some (.playerConverted backup.slotId role
              ((input.pack.document.roles[role]?).bind (·.alignment)) backup.roleKey
              backup.alignment source)

/-! ## Reveals -/

/-- The order of the matches of `apply_effect_source_death_reveals`. -/
def deathRevealCmp : EffectRecord × EffectSourceDeathRevealPolicy →
    EffectRecord × EffectSourceDeathRevealPolicy → Ordering :=
  compareLex (compareOn (·.2.id))
    (compareLex (compareOn (·.1.source)) (compareLex (compareOn (·.1.target))
        (compareLex (compareOn (·.1.effect)) (compareOn (·.1.sourceAction)))))

/-- The reveals the events already made. -/
def revealsMade (events : List (InnerEvent F)) : List (SlotId × EffectSourceDeathRevealKind) :=
  events.filterMap fun
    | .alignmentRevealed slotId .. => some (slotId, .alignment)
    | .roleRevealed slotId .. => some (slotId, .role)
    | _ => none

/-- The event one match reveals, if its target still hides it. -/
def sourceDeathReveal (input : ResolutionInput F) (state : StateSnapshot F)
    (record : EffectRecord) (policy : EffectSourceDeathRevealPolicy) : Option (InnerEvent F) := do
  let target ← state.slot? record.target
  let sourceAction := record.sourceAction.getD policy.id
  match policy.reveal with
  | .alignment =>
    if target.alignmentReveal = .publicState then none
    else
      let alignment ← target.alignment
      some (.alignmentRevealed record.target alignment sourceAction input.phaseId)
  | .role =>
    if target.roleReveal = .publicState then none
    else some (.roleRevealed record.target target.roleKey sourceAction input.phaseId)

/-- The loop of `apply_effect_source_death_reveals`; `revealed` is `already_revealed`. -/
def sourceDeathReveals (input : ResolutionInput F) (state : StateSnapshot F) :
    List (SlotId × EffectSourceDeathRevealKind) →
    List (EffectRecord × EffectSourceDeathRevealPolicy) → List (InnerEvent F)
  | _, [] => []
  | revealed, (record, policy) :: rest =>
    if revealed.contains (record.target, policy.reveal) then
      sourceDeathReveals input state revealed rest
    else
      (sourceDeathReveal input state record policy).toList ++
        sourceDeathReveals input state ((record.target, policy.reveal) :: revealed) rest

/-- `apply_effect_source_death_reveals`: the events it pushes. Of two policies for one effect the
later one stands. -/
def effectSourceDeathReveals (input : ResolutionInput F) (killed : List SlotId)
    (events : List (InnerEvent F)) : List (InnerEvent F) :=
  let policies := input.pack.document.effectSourceDeathReveals
  if policies.isEmpty || killed.isEmpty then []
  else
    let found := (input.state.effectRecords.filter fun record =>
        killed.contains record.source).filterMap fun record =>
      (policies.reverse.find? (·.effect == record.effect)).map fun policy => (record, policy)
    sourceDeathReveals input (applyEvents input.state events) (revealsMade events)
      (sortBy deathRevealCmp found)

/-! ## Host prompts -/

def belovedPrincessDeathCause (input : ResolutionInput F) (cause : String) : String :=
  if input.state.phaseId.kind == .day && cause == "day_vote" then "lynch" else cause

def belovedPrincessPolicyMatchesCause (policy : BelovedPrincessPolicy) (cause : String) : Bool :=
  policy.allDeathCauses || policy.deathCauses.contains cause

/-- `resolve_beloved_princess_prompt`: the event it pushes. -/
def belovedPrincessPrompt (input : ResolutionInput F) (slotId : SlotId) (cause : String) :
    Option (InnerEvent F) :=
  let policy := input.pack.document.belovedPrincessPolicy
  if !policy.enabled || !belovedPrincessPolicyMatchesCause policy cause then none
  else do
    let slot ← input.state.slot? slotId
    if !policy.eligibleRoles.contains slot.roleKey then none
    else
      some (.hostPromptIssued
        { promptId := input.phaseId.canonical ++ ":" ++ policy.promptKind ++ ":" ++ slotId
          kind := policy.promptKind
          subject := some slotId
          reason := policy.promptReason
          phaseId := input.phaseId
          metadata :=
            { policy := some "beloved_princess"
              deathCause := some cause
              role := some slot.roleKey } })

/-- The first kill event of each slot, as the slot and the cause the prompts read. -/
def promptedDeaths (input : ResolutionInput F) : List SlotId → List (InnerEvent F) → List (SlotId × String)
  | _, [] => []
  | seen, .playerKilled slotId cause _ _ _ :: events =>
    if seen.contains slotId then promptedDeaths input seen events
    else
      (slotId, belovedPrincessDeathCause input cause) :: promptedDeaths input (slotId :: seen) events
  | seen, _ :: events => promptedDeaths input seen events

/-- `resolve_beloved_princess_prompts`: the events it pushes. -/
def belovedPrincessPrompts (input : ResolutionInput F) (events : List (InnerEvent F)) : List (InnerEvent F) :=
  if !input.pack.document.belovedPrincessPolicy.enabled then []
  else
    (promptedDeaths input [] events).filterMap fun (slotId, cause) =>
      belovedPrincessPrompt input slotId cause

/-! ## The announcement -/

def deathsFromEvents (events : List (InnerEvent F)) : List Death :=
  events.filterMap fun
    | .playerKilled slotId cause .. => some { slotId, cause }
    | _ => none

def phaseAnnouncement (input : ResolutionInput F) (deaths : List Death) : PhaseAnnouncement :=
  let (templateId, audience, deaths) :=
    dayDeathAnnouncementMetadata input.pack.document input.state.phaseId.kind deaths
  { phaseId := input.phaseId, templateId, audience, deaths }

end Fmarch.Resolver
