import Fmarch.Domain.Events
import Fmarch.Lib.StableSort

/-!
# The resolution state and its fold

`state.rs`: the snapshot a resolution reads, and `apply_events`, the one way a resolution's inner
events carry forward to the next snapshot: a left fold whose step is `applyEvent`.
-/

namespace Fmarch.Domain

open Keyed StableSort

inductive SlotLifecycle where
  | alive | dead | modkilled
  deriving DecidableEq

inductive RevealState where
  | privateState | publicState
  deriving DecidableEq

def deathRevealStates : DeathRevealMode → RevealState × RevealState
  | .full => (.publicState, .publicState)
  | .alignmentOnly => (.privateState, .publicState)
  | .concealed => (.privateState, .privateState)

structure SlotState where
  slotId : SlotId
  roleKey : RoleKey
  alignment : Option AlignmentKey := none
  roleReveal : RevealState := .privateState
  alignmentReveal : RevealState := .privateState
  status : SlotLifecycle := .alive
  statusTags : List Tag := []
  effects : List Tag := []

def SlotState.isAlive (slot : SlotState) : Bool := slot.status == .alive

/-! ## Records -/

structure PrivateChannelRecord where
  channelId : String
  kind : String
  slotId : SlotId
  roleKey : RoleKey
  revealsAlignment : String
  source : String

structure ActionUseRecord where
  actor : SlotId
  templateId : String
  targets : List SlotId := []
  phaseId : PhaseId
  status : String

structure ActionCounterRecord where
  counterId : Tag
  actor : SlotId
  templateId : String
  consumedAction : String
  cadencePolicy : String
  phaseScope : String
  limit : Nat
  used : Nat
  remaining : Nat
  phaseId : PhaseId

structure BufferedItaShotRecord where
  sessionId : String
  actionId : String
  templateId : String
  actor : SlotId
  targets : List SlotId
  submittedAt : Nat
  releaseAt : Nat
  delayMs : Nat

structure InvestigationMemoryRecord where
  investigator : SlotId
  target : SlotId
  mode : InvestigateMode
  scope : ResultMemoryScope
  result : InvestigationResultBody
  sourceAction : String
  templateId : String
  phaseId : PhaseId

structure DelayedDeathRecord where
  queueId : String
  target : SlotId
  cause : String
  effect : Tag
  source : SlotId
  sourceAction : String
  phaseId : PhaseId

structure VisitRecord where
  actor : SlotId
  target : SlotId
  templateId : String
  sourceAction : String
  phaseId : PhaseId
  visible : Bool
  deriving DecidableEq

structure ActionGrantRecord (F : Type) where
  grantId : Tag
  grantOption : Option Tag := none
  kind : GrantKind
  actor : SlotId
  target : SlotId
  sourceAction : String
  uses : Nat
  voteWeight : Option F := none
  phaseId : PhaseId

structure ConversionOriginRecord where
  target : SlotId
  originalRole : RoleKey
  originalAlignment : Option AlignmentKey
  source : SlotId

structure LinkRecord where
  linkId : String
  slots : List SlotId
  source : SlotId

structure RetaliationRecord where
  retaliationId : String
  actor : SlotId
  target : SlotId
  sourceAction : String

structure BackupTargetRecord where
  backup : SlotId
  sourceTarget : SlotId
  sourceRole : RoleKey
  sourceAction : String
  phaseId : PhaseId

structure TargetLynchWinTargetRecord where
  policy : String
  owner : SlotId
  target : SlotId
  effect : Tag
  sourceAction : String
  phaseId : PhaseId

structure WolfCarryTokenRecord where
  ownerId : SlotId
  tokenId : Tag
  cause : String
  roleKey : RoleKey
  phaseId : PhaseId

structure WolfBeautyMarkRecord where
  beautyId : SlotId
  targetId : SlotId
  effect : Tag
  sourceAction : String
  phaseId : PhaseId

structure BadgeRecord (F : Type) where
  badgeId : Tag
  owner : Option SlotId
  voteWeight : Option F
  actor : SlotId
  sourceAction : String
  reason : String
  destroyed : Bool
  phaseId : PhaseId

structure EffectRecord where
  effect : Tag
  target : SlotId
  source : SlotId
  sourceAction : Option String := none
  phaseId : Option PhaseId := none
  duration : EffectDuration := .persistent
  visibility : EffectVisibility := .hidden

structure StateSnapshot (F : Type) where
  phaseId : PhaseId
  phaseDeadline : Option Int := none
  phasePolicy : PhasePolicy := {}
  slots : List SlotState
  privateChannels : List PrivateChannelRecord := []
  effectRecords : List EffectRecord := []
  actionHistory : List ActionUseRecord := []
  useCounters : List ActionCounterRecord := []
  investigationMemory : List InvestigationMemoryRecord := []
  delayedDeaths : List DelayedDeathRecord := []
  visitHistory : List VisitRecord := []
  actionGrants : List (ActionGrantRecord F) := []
  conversionOrigins : List ConversionOriginRecord := []
  linkedSlots : List LinkRecord := []
  retaliations : List RetaliationRecord := []
  backupTargets : List BackupTargetRecord := []
  targetLynchWinTargets : List TargetLynchWinTargetRecord := []
  wolfCarryTokens : List WolfCarryTokenRecord := []
  wolfBeautyMarks : List WolfBeautyMarkRecord := []
  badges : List (BadgeRecord F) := []
  bufferedItaShots : List BufferedItaShotRecord := []

structure Submission where
  actionId : String
  actor : SlotId
  templateId : String
  targets : List SlotId := []
  phaseId : PhaseId
  submittedAt : Nat
  withdrawn : Bool := false
  metadata : BTreeMap String Json := ∅

/-! ## The fold -/

section Fold

variable {F : Type}

/-- `state.slots.iter().find(|slot| slot.slot_id == slot_id)`. -/
def StateSnapshot.slot? (state : StateSnapshot F) (slotId : SlotId) : Option SlotState :=
  state.slots.find? fun slot => slot.slotId == slotId

/-- `slots.iter_mut().find(|s| &s.slot_id == slot_id)`, then rewritten by `f`. -/
def updateSlot (slots : List SlotState) (slotId : SlotId) (f : SlotState → SlotState) : List SlotState :=
  updateFirst (fun slot => slot.slotId == slotId) f slots

/-- The order in which `ActionGrantConsumed` looks for the grant to decrement. -/
def grantAgeCmp : ActionGrantRecord F → ActionGrantRecord F → Ordering :=
  compareLex (compareOn (·.phaseId.number))
    (compareLex (compareOn (·.phaseId.canonical)) (compareOn (·.actor)))

/-- The records `ActionGrantConsumed` may decrement. -/
def consumableGrant (grantId : Tag) (actor : SlotId) (sourceAction : String)
    (grant : ActionGrantRecord F) : Bool :=
  grant.target == actor && grant.grantId == grantId && grant.sourceAction == sourceAction &&
    decide (0 < grant.uses)

/-- `grant.uses = grant.uses.saturating_sub(1)`. -/
def decrementUses (grant : ActionGrantRecord F) : ActionGrantRecord F :=
  { grant with uses := grant.uses - 1 }

/-- The `ActionGrantConsumed` branch of `apply_events`. -/
def consumeGrant (grants : List (ActionGrantRecord F)) (grantId : Tag) (actor : SlotId)
    (sourceAction : String) : List (ActionGrantRecord F) :=
  match minIndexBy (consumableGrant grantId actor sourceAction) grantAgeCmp grants with
  | some (i, _) => grants.modify i decrementUses
  | none => grants

/-- The `SlotStatusTagged` branch of `apply_events`. -/
def addStatusTag (tag : Tag) (slot : SlotState) : SlotState :=
  if slot.statusTags.contains tag then slot
  else { slot with statusTags := sortBy compare (slot.statusTags ++ [tag]) }

/-- The tag half of the `EffectsMarked` branch of `apply_events`. -/
def addEffect (effect : Tag) (slot : SlotState) : SlotState :=
  if slot.effects.contains effect then slot
  else { slot with effects := slot.effects ++ [effect] }

/-- The tag half of the `EffectsCleared` branch of `apply_events`. -/
def removeEffect (effect : Tag) (slot : SlotState) : SlotState :=
  { slot with effects := slot.effects.filter (· != effect) }

/-- The `PlayerKilled` branch of `apply_events`. -/
def killSlot (deathReveal : DeathRevealMode) (slot : SlotState) : SlotState :=
  let (roleReveal, alignmentReveal) := deathRevealStates deathReveal
  { slot with status := .dead, roleReveal, alignmentReveal }

/-- One arm of the `match` in `apply_events`, in the order of the Rust arms. -/
def applyEvent (next : StateSnapshot F) : InnerEvent F → StateSnapshot F
  | .playerKilled slotId _ _ _ deathReveal =>
    { next with slots := updateSlot next.slots slotId (killSlot deathReveal) }
  | .slotStatusTagged slotId tag _ =>
    { next with slots := updateSlot next.slots slotId (addStatusTag tag) }
  | .winReached _ _ _ =>
    { next with
      slots := next.slots.map fun slot =>
        { slot with roleReveal := .publicState, alignmentReveal := .publicState } }
  | .alignmentRevealed slotId alignment _ _ =>
    { next with
      slots := updateSlot next.slots slotId fun slot =>
        { slot with alignment := some alignment, alignmentReveal := .publicState } }
  | .roleRevealed slotId roleKey _ _ =>
    { next with
      slots := updateSlot next.slots slotId fun slot =>
        { slot with roleKey, roleReveal := .publicState } }
  | .effectsMarked effect target actor sourceAction phaseId duration visibility =>
    if duration = .persistent then
      { next with
        slots := updateSlot next.slots target (addEffect effect)
        effectRecords := upsert (fun record => record.effect == effect && record.target == target)
          { effect, target, source := actor, sourceAction, phaseId, duration, visibility }
          next.effectRecords }
    else next
  | .effectsCleared effect targets _ _ _ =>
    { next with
      slots := targets.foldl (fun slots target => updateSlot slots target (removeEffect effect))
        next.slots
      effectRecords := next.effectRecords.filter fun record =>
        record.effect != effect || !targets.any (· == record.target) }
  | .playerConverted target newRole newAlignment originalRole originalAlignment source =>
    { next with
      slots := updateSlot next.slots target fun slot =>
        { slot with roleKey := newRole, alignment := newAlignment }
      conversionOrigins := pushNew (fun origin => origin.target == target)
        { target, originalRole, originalAlignment, source } next.conversionOrigins }
  | .actionRecorded actor templateId targets phaseId status =>
    { next with
      actionHistory := next.actionHistory ++ [{ actor, templateId, targets, phaseId, status }] }
  | .actionUseCounted counterId actor templateId consumedAction cadencePolicy phaseScope limit
      used remaining phaseId =>
    { next with
      useCounters := upsert (fun record => record.actor == actor && record.counterId == counterId)
        { counterId, actor, templateId, consumedAction, cadencePolicy, phaseScope, limit, used,
          remaining, phaseId }
        next.useCounters }
  | .investigationMemoryRecorded investigator target mode scope result sourceAction templateId
      phaseId =>
    { next with
      investigationMemory := upsert
        (fun record =>
          record.investigator == investigator && record.mode == mode &&
            (scope == .investigator || record.target == target))
        { investigator, target, mode, scope, result, sourceAction, templateId, phaseId }
        next.investigationMemory }
  | .delayedDeathQueued queueId target cause effect source sourceAction phaseId =>
    { next with
      delayedDeaths := upsert (fun record => record.target == target && record.effect == effect)
        { queueId, target, cause, effect, source, sourceAction, phaseId } next.delayedDeaths }
  | .delayedDeathResolved queueId _ _ _ _ _ =>
    { next with
      delayedDeaths := next.delayedDeaths.filter fun record => record.queueId != queueId }
  | .visitRecorded actor target templateId sourceAction phaseId visible =>
    { next with
      visitHistory := pushNew
        (fun record => record.actor == actor && record.target == target &&
          record.sourceAction == sourceAction)
        { actor, target, templateId, sourceAction, phaseId, visible } next.visitHistory }
  | .actionGranted grantId grantOption kind actor target sourceAction uses voteWeight phaseId =>
    { next with
      actionGrants := next.actionGrants ++
        [{ grantId, grantOption, kind, actor, target, sourceAction, uses, voteWeight, phaseId }] }
  | .actionGrantConsumed grantId actor _ sourceAction _ _ =>
    { next with actionGrants := consumeGrant next.actionGrants grantId actor sourceAction }
  | .playersLinked linkId slots source =>
    { next with
      linkedSlots := pushNew (fun link => link.linkId == linkId) { linkId, slots, source }
        next.linkedSlots }
  | .retaliationArmed retaliationId actor target sourceAction =>
    { next with
      retaliations := upsert (fun record => record.retaliationId == retaliationId)
        { retaliationId, actor, target, sourceAction } next.retaliations }
  | .backupTargeted backup sourceTarget sourceRole sourceAction phaseId =>
    { next with
      backupTargets := upsert (fun record => record.backup == backup)
        { backup, sourceTarget, sourceRole, sourceAction, phaseId } next.backupTargets }
  | .targetLynchWinTargeted policy owner target effect sourceAction phaseId =>
    { next with
      targetLynchWinTargets := upsert
        (fun record => record.policy == policy && record.owner == owner)
        { policy, owner, target, effect, sourceAction, phaseId } next.targetLynchWinTargets }
  | .wolfCarryQueued ownerId tokenId cause roleKey phaseId =>
    { next with
      wolfCarryTokens := upsert (fun record => record.ownerId == ownerId)
        { ownerId, tokenId, cause, roleKey, phaseId } next.wolfCarryTokens }
  | .wolfCarryUsed ownerId _ _ _ _ _ =>
    { next with
      wolfCarryTokens := next.wolfCarryTokens.filter fun record => record.ownerId != ownerId }
  | .wolfBeautyMarked beautyId targetId effect sourceAction phaseId =>
    { next with
      wolfBeautyMarks := upsert (fun record => record.beautyId == beautyId)
        { beautyId, targetId, effect, sourceAction, phaseId } next.wolfBeautyMarks }
  | .badgeChanged badgeId owner _ voteWeight actor sourceAction reason destroyed phaseId =>
    { next with
      badges := upsert (fun record => record.badgeId == badgeId)
        { badgeId, owner, voteWeight, actor, sourceAction, reason, destroyed, phaseId }
        next.badges }
  | .itaShotBuffered sessionId actionId templateId actorId targets submittedAt releaseAt delayMs =>
    { next with
      bufferedItaShots := upsert (fun record => record.actionId == actionId)
        { sessionId, actionId, templateId, actor := actorId, targets, submittedAt, releaseAt,
          delayMs }
        next.bufferedItaShots }
  | .itaShotQueued _ actionId .. | .itaShotResolved _ actionId .. | .itaShotRefunded _ actionId ..
  | .itaShotInvalidated _ actionId .. =>
    { next with
      bufferedItaShots := next.bufferedItaShots.filter fun record => record.actionId != actionId }
  | _ => next

/-- `apply_events`: the left fold of a resolution's inner events onto a state. -/
def applyEvents (state : StateSnapshot F) (events : List (InnerEvent F)) : StateSnapshot F :=
  events.foldl applyEvent state

@[simp] theorem applyEvents_cons (state : StateSnapshot F) (event : InnerEvent F)
    (events : List (InnerEvent F)) :
    applyEvents state (event :: events) = applyEvents (applyEvent state event) events := rfl

theorem applyEvents_append (state : StateSnapshot F) (xs ys : List (InnerEvent F)) :
    applyEvents state (xs ++ ys) = applyEvents (applyEvents state xs) ys :=
  List.foldl_append ..

theorem applyEvents_induction {motive : StateSnapshot F → Prop}
    (step : ∀ state event, motive state → motive (applyEvent state event))
    {state : StateSnapshot F} (h : motive state) (events : List (InnerEvent F)) :
    motive (applyEvents state events) := by
  induction events generalizing state with
  | nil => exact h
  | cons event events ih => exact ih (step state event h)

end Fold

end Fmarch.Domain
