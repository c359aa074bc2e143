import Fmarch.Resolver.Aftermath
import Fmarch.Resolver.Investigation

/-!
# Night resolution

`resolve_night`: the prepared actions go through the stages of the pack's night order, each stage a
fold over the unblocked actions that have its ability, in resolution order; the cascades, the
trigger fixpoint and the closing announcement follow.
-/

namespace Fmarch.Resolver

open Fmarch.Domain Keyed StableSort

variable {F : Type} [Float64 F]

/-! ## Working state -/

/-- The local variables of `resolve_night`. -/
structure Night (F : Type) where
  actions : List (Action F)
  deaths : Deaths F
  protections : Protections := ∅
  guardDependencies : List DeathDependency := []
  hideDependencies : List DeathDependency := []
  transientEffects : BTreeMap SlotId (BTreeSet String) := ∅
  effectMarked : List TriggerObservation := []
  clearedEffects : List (SlotId × Tag) := []
  wolfCarryTokens : List WolfCarryTokenRecord := []
  empowered : BTreeSet SlotId := ∅
  rng : DetRng
  notes : List String := []

namespace Night

variable {F : Type}

/-- Push one event. -/
def emit (night : Night F) (event : InnerEvent F) : Night F :=
  { night with deaths := night.deaths.emit event }

/-- Push several events. -/
def emitAll (night : Night F) (events : List (InnerEvent F)) : Night F :=
  { night with deaths := night.deaths.emitAll events }

/-- `transient_effects.entry(slot).or_default().insert(effect)`. -/
def addTransient (night : Night F) (slot : SlotId) (effect : Tag) : Night F :=
  { night with
    transientEffects := night.transientEffects.insert slot
      ((night.transientEffects.getD slot ∅).insert effect) }

/-- `transient_effects.get_mut(slot)`, then `remove(effect)`. -/
def removeTransient (night : Night F) (effect : Tag) (slot : SlotId) : Night F :=
  match night.transientEffects[slot]? with
  | some effects =>
    { night with transientEffects := night.transientEffects.insert slot (effects.erase effect) }
  | none => night

end Night

/-- The unblocked actions with an ability, each with its position, in resolution order. -/
def stageActions (actions : List (Action F)) (ability : IrAbility) : List (Nat × Action F) :=
  (abilityOrder actions ability).filter fun entry => !entry.2.blocked

def targetStateInterferenceReason (reason : String) : String :=
  if reason == "commuted" || reason == "untargetable" then "untargetable" else reason

/-- `emit_action_interfered_by_target_state`: the event it pushes. -/
def actionInterferedByTargetState (action : Action F) (reason : String) : InnerEvent F :=
  .actionInterfered action.sub.actor (targetStateInterferenceReason reason)

/-! ## Causes and participation -/

def protectBeatsKillUnlessStrongman (pack : Pack F) : Bool :=
  if pack.nightResolution.isExplicit then pack.nightResolution.strongmanBypassesProtect
  else
    pack.precedence.any fun rule =>
      rule.when.effect == .protect && rule.beats.contains .kill && rule.unlessModifiers.contains .strongman

/-- `night_resolution_protect_participates`. -/
def protectParticipates (pack : Pack F) (template : ActionTemplate F) : Bool :=
  let night := pack.nightResolution
  !night.isExplicit || (night.protectActionIds ++ night.bodyguardActionIds ++ night.martyrActionIds ++
      night.cprActionIds ++ night.jailkeepActionIds).contains template.id

/-- The shape of the `night_resolution_*_cause` lookups: the pack's table in explicit mode, else a
default. -/
def modeCause (pack : Pack F) (table : BTreeMap String String) (default : Option String)
    (template : ActionTemplate F) : Option String :=
  if pack.nightResolution.isExplicit then table[template.id]? else default

/-- `night_resolution_cpr_harm_cause`. -/
def cprHarmCause (pack : Pack F) (template : ActionTemplate F) : Option String :=
  modeCause pack pack.nightResolution.cprHarmCausePolicy
    (if template.hasModifier .cpr then some template.id else none) template

/-- `night_resolution_guard_dependency_cause`. -/
def guardDependencyCause (pack : Pack F) (template : ActionTemplate F) : Option String :=
  modeCause pack pack.nightResolution.guardDependencyCausePolicy
    (if template.hasModifier .babysitter then some template.id else none) template

/-- `night_resolution_hide_dependency_cause`. -/
def hideDependencyCause (pack : Pack F) (template : ActionTemplate F) : Option String :=
  modeCause pack pack.nightResolution.hideDependencyCausePolicy
    (if template.hasModifier .hider then some template.id else none) template

/-- `night_resolution_intercept_cause`. -/
def interceptCause (pack : Pack F) (template : ActionTemplate F) : Option String :=
  modeCause pack pack.nightResolution.interceptCausePolicy
    (if template.hasModifier .bodyguard then some "bodyguard_intercept"
      else if template.hasModifier .martyr then some "martyr_intercept" else none)
    template

/-- `night_resolution_guard_retaliation_cause`. -/
def guardRetaliationCause (pack : Pack F) (template : ActionTemplate F) : Option String :=
  modeCause pack pack.nightResolution.guardRetaliationCausePolicy none template

/-- `night_resolution_strongman_bypasses`. -/
def strongmanBypasses (pack : Pack F) (template : ActionTemplate F) : Bool :=
  if pack.nightResolution.isExplicit then
    pack.nightResolution.strongmanActionIds.contains template.id
  else template.hasModifier .strongman

/-- `night_resolution_kill_participates`. -/
def killParticipates (pack : Pack F) (template : ActionTemplate F) : Bool :=
  let night := pack.nightResolution
  !night.isExplicit || (night.killActionIds ++ night.strongmanActionIds).contains template.id

/-! ## Mark -/

def delayedDeathCauseForEffect (effect : Tag) : Option String :=
  if effect == "poisoned" then some "poison" else none

def delayedDeathQueueId (effect : Tag) (target : SlotId) (sourceAction : String) : String :=
  effect ++ ":" ++ target ++ ":" ++ sourceAction

def isWolfBeautyMark (input : ResolutionInput F) (actor : SlotId) (effect : Tag) : Bool :=
  let policy := input.pack.document.wolfBeauty
  policy.enabled && effect == policy.markEffect &&
    match slotRole input actor with
    | some role => policy.eligibleRoles.contains role
    | none => false

/-- The hider's half of a Mark: who dies with whom, and the cover a hider finds. -/
def hideBehind (input : ResolutionInput F) (action : Action F) (target : SlotId)
    (night : Night F) : Night F :=
  match hideDependencyCause input.pack.document action.template with
  | none => night
  | some cause =>
    let night := { night with
      hideDependencies := night.hideDependencies ++
        [{ host := target, dependent := action.sub.actor, cause }] }
    match slotAlignment input target with
    | some alignment =>
      if alignment != "mafia" then night.addTransient action.sub.actor "untargetable" else night
    | none => night

/-- A wolf beauty's new mark clears her previous one. -/
def clearPreviousBeautyMark (action : Action F) (effect : Tag) (target : SlotId)
    (marks : List WolfBeautyMarkRecord) (night : Night F) : Night F :=
  match marks.find? (·.beautyId == action.sub.actor) with
  | none => night
  | some previous =>
    if previous.targetId == target then night
    else
      let night := night.emit
        (.effectsCleared effect [previous.targetId] action.sub.actor none none)
      { night with clearedEffects := night.clearedEffects ++ [(previous.targetId, effect)] }

/-- The record `WolfBeautyMarked` carries. -/
def wolfBeautyMark (input : ResolutionInput F) (action : Action F) (effect : Tag)
    (target : SlotId) : WolfBeautyMarkRecord :=
  { beautyId := action.sub.actor, targetId := target, effect,
    sourceAction := action.sub.actionId, phaseId := input.phaseId }

/-- The events of a mark that outlives the resolution. -/
def persistentMarkEvents (input : ResolutionInput F) (action : Action F) (effect : Tag)
    (target : SlotId) : List (InnerEvent F) :=
  let pack := input.pack.document
  let actor := action.sub.actor
  let actionId := action.sub.actionId
  let marked := effectsMarked input pack effect target actor actionId
    (effectDuration pack action.template effect)
  let delayed :=
    match delayedDeathCauseForEffect effect with
    | some cause =>
      [.delayedDeathQueued (delayedDeathQueueId effect target actionId) target cause effect actor
        actionId input.phaseId]
    | none => []
  let beauty :=
    if isWolfBeautyMark input actor effect then
      [.wolfBeautyMarked actor target effect actionId input.phaseId]
    else []
  let backup :=
    if pack.backupPolicy.enabled && effect == pack.backupPolicy.targetedEffect then
      match input.state.slot? target with
      | some source => [.backupTargeted actor target source.roleKey actionId input.phaseId]
      | none => []
    else []
  marked :: (delayed ++ beauty ++ backup)

/-- The target-lynch goals a mark sets. -/
def targetLynchWinTargeted (input : ResolutionInput F) (action : Action F) (effect : Tag)
    (target : SlotId) : List (InnerEvent F) :=
  match slotRole input action.sub.actor with
  | none => []
  | some role =>
    (input.pack.document.targetLynchWinPolicies.filter fun policy =>
      effect == policy.targetEffect && policy.eligibleRoles.contains role).map fun policy =>
        .targetLynchWinTargeted policy.id action.sub.actor target effect action.sub.actionId
          input.phaseId

/-- A mark lands: a hider's cover, the effect for the rest of the resolution, its notice, and the
end of a wolf beauty's previous mark. -/
def landMark (input : ResolutionInput F) (action : Action F) (effect : Tag)
    (marks : List WolfBeautyMarkRecord) (target : SlotId) (night : Night F) : Night F :=
  let night := (hideBehind input action target night).addTransient target effect
  let night := night.emitAll
    (effectNotification input input.pack.document effect "marked" action.sub.actor target)
  if isWolfBeautyMark input action.sub.actor effect then
    clearPreviousBeautyMark action effect target marks night
  else night

/-- A mark that outlives the resolution is recorded. -/
def persistMark (input : ResolutionInput F) (action : Action F) (effect : Tag) (target : SlotId)
    (marks : List WolfBeautyMarkRecord) (night : Night F) : Night F × List WolfBeautyMarkRecord :=
  let night := night.emitAll (persistentMarkEvents input action effect target)
  let night := { night with
    effectMarked := night.effectMarked ++
      [effectMarkedObservation target action.sub.actor effect action.sub.actionId] }
  if isWolfBeautyMark input action.sub.actor effect then
    (night, upsert (fun record => record.beautyId == action.sub.actor)
      (wolfBeautyMark input action effect target) marks)
  else (night, marks)

/-- One target of the Mark stage; the list is the stage's own copy of the wolf-beauty marks. -/
def markTarget (input : ResolutionInput F) (action : Action F) (effect : Tag)
    (state : Night F × List WolfBeautyMarkRecord) (target : SlotId) :
    Night F × List WolfBeautyMarkRecord :=
  let pack := input.pack.document
  let (night, marks) := state
  match targetStateGateReason pack (targetTags input night.transientEffects target) .mark with
  | some reason => (night.emit (actionInterferedByTargetState action reason), marks)
  | none =>
    let night := landMark input action effect marks target night
    let (night, marks) :=
      if effectDuration pack action.template effect = .resolution then (night, marks)
      else persistMark input action effect target marks night
    (night.emitAll (targetLynchWinTargeted input action effect target), marks)

/-- One action of the Mark stage. -/
def markAction (input : ResolutionInput F) (state : Night F × List WolfBeautyMarkRecord)
    (action : Action F) : Night F × List WolfBeautyMarkRecord :=
  match action.template.effect with
  | none => state
  | some effect => action.targets.foldl (markTarget input action effect) state

/-- The Mark stage. -/
def markStage (input : ResolutionInput F) (night : Night F) : Night F :=
  (((stageActions night.actions .mark).map (·.2)).foldl (markAction input)
    (night, input.state.wolfBeautyMarks)).1

/-! ## Stages that only push events or effects -/

/-- One action of the Clear stage. -/
def clearAction (input : ResolutionInput F) (night : Night F) (action : Action F) : Night F :=
  match action.template.effect with
  | none => night
  | some effect =>
    if action.targets.isEmpty then night
    else
      let night := night.emitAll (action.targets.flatMap fun target =>
        effectNotification input input.pack.document effect "cleared" action.sub.actor target)
      let night := night.emit (.effectsCleared effect action.targets action.sub.actor none none)
      let night := { night with
        clearedEffects := night.clearedEffects ++ action.targets.map fun target =>
          (target, effect) }
      action.targets.foldl (fun night target => night.removeTransient effect target) night

/-- One action of the Grant stage. -/
def grantEvents (input : ResolutionInput F) (action : Action F) : List (InnerEvent F) :=
  match selectedGrantForSubmission action.template action.sub with
  | none => []
  | some (grant, grantOption) =>
    action.targets.flatMap fun target =>
      .actionGranted grant.grantId grantOption grant.kind action.sub.actor target
          action.sub.actionId grant.uses grant.voteWeight input.phaseId ::
        grantNotification input grant.grantId grant.visibility action.sub.actor target

/-- One action of the Link stage. -/
def linkEvents (input : ResolutionInput F) (action : Action F) : List (InnerEvent F) :=
  let policy := input.pack.document.loverPolicy
  let slots := ((∅ : BTreeSet SlotId).insertMany action.targets).toList
  if slots.length < 2 then []
  else
    let linked := .playersLinked action.sub.actionId slots action.sub.actor
    if policy.enabled && policy.loversKnownToEachOther &&
        action.template.effect == some policy.linkEffect then
      [linked, .effectNotification policy.linkEffect action.sub.actionId slots none]
    else [linked]

/-- One action of the Retaliate stage. -/
def retaliateEvents (action : Action F) : List (InnerEvent F) :=
  match action.targets with
  | [] => []
  | target :: _ =>
    [.retaliationArmed action.sub.actionId action.sub.actor target action.template.id]

/-- One action of the Visit stage. -/
def visitEvents (input : ResolutionInput F) (action : Action F) : List (InnerEvent F) :=
  action.targets.map fun target =>
    .visitRecorded action.sub.actor target action.template.id action.sub.actionId input.phaseId
      (visibleVisit action input.pack.document)

def infoAudience (audience : InfoAudience) (actor target : SlotId) : List SlotId :=
  match audience with
  | .actor => [actor]
  | .target => [target]
  | .actorAndTarget => if actor = target then [actor] else [actor, target]

/-- The payload of an `InfoResult`. -/
def infoPayload (info : InfoSpec) (target : SlotId) (sourceAction : String) : Json :=
  let entries : BTreeMap String Json := (∅ : BTreeMap String Json)
    |>.insert "kind" (.string info.kind)
    |>.insert "target" (.string target)
    |>.insert "source_action" (.string sourceAction)
  .object (entries.insertMany info.payload.toList).toList

/-- One action of the Info stage. -/
def infoEvents (input : ResolutionInput F) (action : Action F) : List (InnerEvent F) :=
  match action.template.info with
  | none => []
  | some info =>
    action.targets.map fun target =>
      .infoResult action.sub.actor target info.kind
        (infoAudience info.audience action.sub.actor target)
        (infoPayload info target action.sub.actionId) action.sub.actionId action.template.id
        input.phaseId

/-- A stage whose actions push events that depend on the input and the action alone. -/
def eventStage (ability : IrAbility) (events : Action F → List (InnerEvent F)) (night : Night F) : Night F :=
  night.emitAll ((stageActions night.actions ability).flatMap fun entry => events entry.2)

/-! ## Protect -/

/-- `action_chance_allows`, with the generator it leaves. -/
def actionChanceAllows (pack : Pack F) (action : Action F) (rng : DetRng) : Bool × DetRng :=
  match pack.nightResolution.actionChance[action.template.id]? with
  | none => (true, rng)
  | some policy =>
    let (roll, rng) := (rng.nextF64 : F × DetRng)
    (Float64.le roll policy.chance, rng)

/-- The protection an action gives. -/
def protectionSource (pack : Pack F) (action : Action F) : ProtectionSource where
  protector := action.sub.actor
  actionId := action.sub.actionId
  templateId := action.template.id
  interceptCause := interceptCause pack action.template
  guardRetaliationCause := guardRetaliationCause pack action.template
  cprHarmCause := cprHarmCause pack action.template

/-- One target of the Protect stage. -/
def protectTarget (input : ResolutionInput F) (action : Action F) (night : Night F)
    (target : SlotId) : Night F :=
  let pack := input.pack.document
  let tags := targetTags input night.transientEffects target
  match targetStateGateReason pack tags .protect with
  | some reason => night.emit (actionInterferedByTargetState action reason)
  | none =>
    if tags.contains "macho" then night
    else
      let (allowed, rng) := actionChanceAllows pack action night.rng
      let night := { night with rng }
      if !allowed then night
      else
        { night with
          protections := night.protections.insert target
            ((night.protections.getD target []) ++ [protectionSource pack action])
          guardDependencies := night.guardDependencies ++
            match guardDependencyCause pack action.template with
            | some cause => [{ host := action.sub.actor, dependent := target, cause }]
            | none => [] }

/-- One action of the Protect stage. -/
def protectAction (input : ResolutionInput F) (night : Night F) (action : Action F) : Night F :=
  if !protectParticipates input.pack.document action.template then night
  else action.targets.foldl (protectTarget input action) night

/-- The Protect stage. -/
def protectStage (input : ResolutionInput F) (night : Night F) : Night F :=
  let night := ((stageActions night.actions .protect).map (·.2)).foldl (protectAction input) night
  { night with deaths := applyGuardWitchSameTargetPolicy input night.protections night.deaths }

/-! ## Kill -/

/-- `alignment_failback_victim`: the victim, and whether the kill fell back on its actor. -/
def alignmentFailbackVictim (input : ResolutionInput F) (template : ActionTemplate F)
    (actor submittedTarget : SlotId) : SlotId × Bool :=
  match template.alignmentFailback with
  | none => (submittedTarget, false)
  | some failback =>
    let hostile :=
      match slotAlignment input submittedTarget with
      | some alignment => failback.hostileAlignments.contains alignment
      | none => false
    if hostile then (submittedTarget, false) else (actor, true)

/-- The targets of a Kill: its own, or every living slot with the effect it reads. -/
def killTargets (input : ResolutionInput F) (clearedEffects : List (SlotId × Tag))
    (action : Action F) : List SlotId :=
  match action.template.readsEffect with
  | none => action.targets
  | some tag =>
    (input.state.slots.filter fun slot =>
      slot.isAlive && slot.effects.contains tag && !clearedEffects.contains (slot.slotId, tag)).map (·.slotId)

/-- Every target of a Kill but the first needs a carry token of an eligible role. -/
def canCarry (input : ResolutionInput F) (action : Action F) (targets : List SlotId) : Bool :=
  let policy := input.pack.document.wolfCarry
  action.template.readsEffect.isNone && policy.enabled && decide (1 < targets.length) &&
    match slotRole input action.sub.actor with
    | some role => policy.wolfKillRoles.contains role
    | none => false

/-- Spend one token on each further target: the carries, the tokens left and the events pushed. -/
def carryTargets (policy : WolfCarryPolicy) (actor : SlotId) : List WolfCarryTokenRecord → List SlotId →
    List (WolfCarryTokenRecord × SlotId) × List WolfCarryTokenRecord × List (InnerEvent F)
  | tokens, [] => ([], tokens, [])
  | tokens, target :: targets =>
    match tokens.find? fun token => policy.eligibleRoles.contains token.roleKey with
    | none =>
      let (carries, tokens, events) := carryTargets policy actor tokens targets
      (carries, tokens, .actionInterfered actor "wolf_carry_token_missing" :: events)
    | some token =>
      let rest := tokens.eraseP fun token => policy.eligibleRoles.contains token.roleKey
      let (carries, tokens, events) := carryTargets policy actor rest targets
      ((token, target) :: carries, tokens, events)

/-- One carried kill. -/
def carryKill (input : ResolutionInput F) (night : Night F) (action : Action F)
    (unstoppable : Bool) (d : Deaths F)
    (carry : (WolfCarryTokenRecord × SlotId) × Nat) : Deaths F :=
  let cause := input.pack.document.wolfCarry.cause
  let ((token, target), index) := carry
  let sourceAction := action.sub.actionId ++ ":wolf_carry:" ++ toString (index + 1)
  let d := d.emit (.wolfCarryUsed token.ownerId target sourceAction
    (token.tokenId ++ ":" ++ sourceAction) token.roleKey input.phaseId)
  strike input night.protections night.transientEffects token.ownerId cause unstoppable target d

/-- The kills of one action, once its targets and carries are chosen. -/
def killAll (input : ResolutionInput F) (night : Night F) (action : Action F)
    (targets : List SlotId) (carries : List (WolfCarryTokenRecord × SlotId)) (d : Deaths F) :
    Deaths F :=
  let pack := input.pack.document
  let unstoppable :=
    strongmanBypasses pack action.template && protectBeatsKillUnlessStrongman pack
  let d := targets.foldl
    (fun d target =>
      strike input night.protections night.transientEffects action.sub.actor action.template.id
        unstoppable (alignmentFailbackVictim input action.template action.sub.actor target).1 d)
    d
  carries.zipIdx.foldl (carryKill input night action unstoppable) d

/-- One action of the Kill stage. -/
def killAction (input : ResolutionInput F) (night : Night F) (action : Action F) : Night F :=
  let pack := input.pack.document
  if (cprHarmCause pack action.template).isSome || !killParticipates pack action.template then
    night
  else
    let targets := killTargets input night.clearedEffects action
    if canCarry input action targets then
      let (carries, tokens, events) :=
        carryTargets pack.wolfCarry action.sub.actor night.wolfCarryTokens targets.tail
      let night := { night.emitAll events with wolfCarryTokens := tokens }
      { night with
        deaths := killAll input night action (targets.take 1) carries night.deaths }
    else { night with deaths := killAll input night action targets [] night.deaths }

/-- The Kill stage. -/
def killStage (input : ResolutionInput F) (night : Night F) : Night F :=
  ((stageActions night.actions .kill).map (·.2)).foldl (killAction input) night

/-! ## Convert -/

def conversionDestination (input : ResolutionInput F) (action : Action F) (target : SlotId) :
    Except String (RoleKey × Option AlignmentKey) :=
  let assign (role : Option RoleKey) : Except String (RoleKey × Option AlignmentKey) :=
    match role with
    | some role => .ok (role, (input.pack.document.roles[role]?).bind (·.alignment))
    | none => .error "invalid_conversion"
  match action.template.conversion with
  | some conversion =>
    match conversion.mode with
    | .assignRole => assign conversion.role
    | .restoreOriginal =>
      match input.state.conversionOrigins.find? (·.target == target) with
      | some origin => .ok (origin.originalRole, origin.originalAlignment)
      | none => .error "no_original_role"
  | none => assign action.template.effect

def conversionBlocked (target : SlotId) (reason : String) : InnerEvent F :=
  .conversionBlocked target "blocked" reason

/-- One target of the Convert stage. The validator requires both conversion policies with any
Convert action; without one, where the source panics, no event is pushed here. -/
def convertTarget (input : ResolutionInput F) (night : Night F) (action : Action F)
    (target : SlotId) : List (InnerEvent F) :=
  let pack := input.pack.document
  match input.state.slot? target with
  | none => []
  | some slot =>
    match targetStateGateReason pack (targetTags input night.transientEffects target)
        .convert with
    | some reason => [conversionBlocked target reason]
    | none =>
      if night.deaths.killed.contains target then
        if pack.conversionPolicy.onDeadTarget = some .block then
          [conversionBlocked target "dead_target"]
        else []
      else if (activePendingDeath input night.clearedEffects target).isSome then
        if pack.conversionPolicy.onPendingDeath = some .block then
          [conversionBlocked target "pending_death"]
        else []
      else if conversionImmune input slot.roleKey then [conversionBlocked target "loyal"]
      else
        match conversionDestination input action target with
        | .error reason => [conversionBlocked target reason]
        | .ok (newRole, newAlignment) =>
          [.playerConverted target newRole newAlignment slot.roleKey slot.alignment action.sub.actor]

/-- The Convert stage. -/
def convertStage (input : ResolutionInput F) (night : Night F) : Night F :=
  night.emitAll ((stageActions night.actions .convert).flatMap fun entry =>
    entry.2.targets.flatMap (convertTarget input night entry.2))

/-! ## Investigate -/

/-- One action of the Investigate stage. -/
def investigateAction (input : ResolutionInput F) (night : Night F) (entry : Nat × Action F)
    (d : Deaths F) : Deaths F :=
  let (index, action) := entry
  match action.template.mode with
  | none => d
  | some mode =>
    action.targets.foldl
      (fun d target =>
        match targetStateGateReason input.pack.document
            (targetTags input night.transientEffects target) .investigate with
        | some reason => d.emit (actionInterferedByTargetState action reason)
        | none =>
          investigateTarget input night.actions night.transientEffects index action mode target d)
      d

/-- The Investigate stage. -/
def investigateStage (input : ResolutionInput F) (night : Night F) : Night F :=
  { night with
    deaths := (stageActions night.actions .investigate).foldl
      (fun d entry => investigateAction input night entry d) night.deaths }

/-! ## Suppression and redirects -/

/-- The Block stage. -/
def blockStage (input : ResolutionInput F) (night : Night F) : Night F :=
  let (actions, events, empowered) := resolveSuppression input.pack.document night.actions
  { night.emitAll events with actions, empowered }

/-- The Redirect stage. -/
def redirectStage (input : ResolutionInput F) (night : Night F) : Night F :=
  let pack := input.pack.document
  let empowered :=
    if night.empowered.isEmpty then
      discoverEmpoweredSlots night.actions pack
        (((indexed night.actions).filter (·.2.blocked)).map (·.1))
    else night.empowered
  let (actions, notes) := resolveRedirects pack empowered night.actions
  { night with actions, empowered, notes := night.notes ++ notes }

/-! ## The phase -/

/-- One stage of the loop of `resolve_night`. -/
def nightStage (input : ResolutionInput F) (night : Night F) : IrAbility → Night F
  | .block => blockStage input night
  | .redirect => redirectStage input night
  | .mark => markStage input night
  | .clear => ((stageActions night.actions .clear).map (·.2)).foldl (clearAction input) night
  | .grant => eventStage .grant (grantEvents input) night
  | .link => eventStage .link (linkEvents input) night
  | .retaliate => eventStage .retaliate retaliateEvents night
  | .visit => eventStage .visit (visitEvents input) night
  | .info => eventStage .info (infoEvents input) night
  | .protect => protectStage input night
  | .kill => killStage input night
  | .convert => convertStage input night
  | .investigate => investigateStage input night
  | .revealTown | .voteDuel | .veto | .badge | .duel | .itaShot | .selfDestruct => night

/-- `resolve_night` up to its stages. -/
def nightStart (input : ResolutionInput F) : Night F :=
  let (actions, events) := prepareNightActions input
  { actions
    deaths := { events }
    wolfCarryTokens := input.state.wolfCarryTokens
    rng := ⟨input.seed ^^^ 0x4e494748545f4348⟩ }

/-- `resolve_night` up to its cascades. -/
def nightStages (input : ResolutionInput F) : Night F :=
  input.pack.nightStageOrder.foldl (nightStage input) (nightStart input)

/-- The deaths that follow the stages and precede the triggers. -/
def nightCascades (input : ResolutionInput F) (night : Night F) : Deaths F :=
  let d := applyPendingPoison input night.clearedEffects night.deaths
  let d := applyChosenRetaliations input night.protections d
  let d := (applyGuardDependencyDeaths input night.guardDependencies d).1
  let d := (applyHideDependencyDeaths input night.hideDependencies d).1
  applyWolfBeautyDragTriggers input d

/-- The trigger fixpoint of the night: the state and the notes. -/
def nightTriggers (input : ResolutionInput F) (night : Night F) (d : Deaths F) : Deaths F × List String :=
  let (d, _, notes) :=
    applyTriggerFixpoint input night.protections night.transientEffects
      (some (night.guardDependencies, night.hideDependencies))
      (collectNightObservations input night.actions d.log night.effectMarked d.killed) d
  (d, notes)

/-- The events between the last death and the announcement. -/
def nightAftermath (input : ResolutionInput F) (actions : List (Action F)) (d : Deaths F) :
    List (InnerEvent F) :=
  let events := d.events ++ backupInheritance input d.killed d.events
  let events := events ++ effectSourceDeathReveals input d.killed events
  let events := events ++ historySensitiveActionEvents input actions
  events ++ belovedPrincessPrompts input events

/-- The deaths of the night, from the end of its stages to its announcement, and the notes. -/
def nightDeaths (input : ResolutionInput F) (night : Night F) : Deaths F × List String :=
  let (d, notes) := nightTriggers input night (nightCascades input night)
  ((applyLoverSuicides input (applyCprHarms input night.protections d)).1, notes)

def resolveNight (input : ResolutionInput F) : InnerResolution F :=
  let night := nightStages input
  let (d, notes) := nightDeaths input night
  let events := nightAftermath input night.actions d
  { events := events ++ [.phaseAnnouncement (phaseAnnouncement input (deathsFromEvents events))]
    traceNotes := night.notes ++ notes }

end Fmarch.Resolver
