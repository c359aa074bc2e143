import Fmarch.Domain.State

/-!
# Resolver input

`resolver.rs`: what one resolution reads, the seeded generator behind pack-declared randomness, and
the small readers every stage shares: slots, roles, tags, use counters, submitted templates.

A `ValidatedPack` is a pack document with its precomputed night stage order and `Accepted`, the
facts of `validate_pack` the resolver relies on. Every accepted pack satisfies them, so a theorem
over `ValidatedPack` holds of every pack the validator accepts.
-/

namespace Fmarch.Resolver

open Fmarch.Domain Keyed

variable {F : Type} [Float64 F]

/-! ## Packs the validator accepts -/

/-- A text the validator requires to be present and not blank when it is given. -/
def NotBlank (text : Option String) : Prop := ∀ value ∈ text, isBlank value = false

/-- Facts of `validate_pack` the resolver relies on: the `expect`s of the resolver, and the texts
its announcements copy from the pack. -/
structure Accepted (pack : Pack F) (nightStageOrder : List IrAbility) : Prop where
  stageOrder_nodup : nightStageOrder.Nodup
  backupPriority : pack.backupPolicy.enabled = true → pack.backupPolicy.priority.isSome = true
  dayDeathTemplate : NotBlank pack.dayNotes.dayDeaths.templateId
  dayDeathAudience : NotBlank pack.dayNotes.dayDeaths.audience
  dayDeathCauseTemplates : ∀ (cause : String) (template : DayDeathCauseTemplate),
    pack.dayNotes.dayDeaths.causeTemplates[cause]? = some template →
      isBlank template.templateId = false ∧ NotBlank template.audience

structure ValidatedPack (F : Type) [Float64 F] where
  document : Pack F
  nightStageOrder : List IrAbility
  accepted : Accepted document nightStageOrder

/-! ## Inputs and outputs -/

structure DayAnnouncementInput where
  playerId : SlotId
  cause : String
  sourceActionId : Option String := none
  attackers : List SlotId := []
  unstoppable : Bool := false
  roleKey : Option String := none
  recordedAt : Option Nat := none

structure ItaSessionControlInput where
  sessionId : String
  control : ItaSessionControlKind
  message : Option String := none
  recordedAt : Nat

structure DayPhaseInputs where
  nightVictims : List DayAnnouncementInput := []
  itaSessionControls : List ItaSessionControlInput := []

structure ResolutionInput (F : Type) [Float64 F] where
  gameId : String
  phaseId : PhaseId
  runId : String
  state : StateSnapshot F
  submissions : List Submission
  dayPhaseInputs : DayPhaseInputs := {}
  pack : ValidatedPack F
  seed : UInt64
  logicalTime : Nat

/-- `InnerResolution`: the events a phase produced and its determinism notes. -/
structure InnerResolution (F : Type) where
  events : List (InnerEvent F) := []
  traceNotes : List String := []

/-! ## The seeded generator -/

/-- `DetRng`: SplitMix64. -/
structure DetRng where
  state : UInt64

namespace DetRng

/-- `DetRng::next_u64`. -/
def nextU64 (rng : DetRng) : UInt64 × DetRng :=
  let state := rng.state + 0x9E3779B97F4A7C15
  let z := (state ^^^ (state >>> 30)) * 0xBF58476D1CE4E5B9
  let z := (z ^^^ (z >>> 27)) * 0x94D049BB133111EB
  (z ^^^ (z >>> 31), ⟨state⟩)

/-- `DetRng::next_f64`. -/
def nextF64 (rng : DetRng) : F × DetRng :=
  let (bits, rng) := rng.nextU64
  let scale : F := Float64.div Float64.one (Float64.ofNat (2 ^ 53))
  (Float64.mul (Float64.ofNat (bits >>> 11).toNat) scale, rng)

end DetRng

/-! ## Slots -/

def slotAlignment (input : ResolutionInput F) (slotId : SlotId) : Option AlignmentKey :=
  (input.state.slot? slotId).bind (·.alignment)

def slotRole (input : ResolutionInput F) (slotId : SlotId) : Option RoleKey :=
  (input.state.slot? slotId).map (·.roleKey)

def aliveSlotIds (input : ResolutionInput F) : List SlotId :=
  (input.state.slots.filter (·.isAlive)).map (·.slotId)

def conversionImmune (input : ResolutionInput F) (roleKey : RoleKey) : Bool :=
  match input.pack.document.roles[roleKey]? with
  | none => false
  | some role =>
    role.effects.any (· == "loyal") || role.actions.any (·.hasModifier .loyal)

/-- `text.strip_prefix(prefix)`. -/
def stripPrefix (lead text : String) : Option String :=
  if lead.toList.isPrefixOf text.toList then
    some (String.ofList (text.toList.drop lead.toList.length))
  else none

def backupRole (policy : BackupPolicy) (effect : Tag) : Option RoleKey :=
  stripPrefix policy.passiveEffectPrefix effect

def targetTags (input : ResolutionInput F) (transientEffects : BTreeMap SlotId (BTreeSet String))
    (target : SlotId) : BTreeSet String :=
  match input.state.slot? target with
  | none => ∅
  | some slot =>
    let tags := (∅ : BTreeSet String).insertMany slot.effects
    let tags :=
      match input.pack.document.roles[slot.roleKey]? with
      | some role => tags.insertMany role.effects
      | none => tags
    match transientEffects[target]? with
    | some transient => tags.insertMany transient.toList
    | none => tags

def targetStateGateReason (pack : Pack F) (tags : BTreeSet String) (ability : IrAbility) : Option String :=
  let night := pack.nightResolution
  if night.isExplicit then
    tags.toList.find? fun tag =>
      night.targetStateGateTags.contains tag &&
        match night.targetStateGatePolicy[tag]? with
        | some policy => policy.blocks.contains ability
        | none => false
  else if tags.contains "commuted" then some "commuted"
  else if tags.contains "untargetable" then some "untargetable"
  else none

def bulletproofReason (tags : BTreeSet String) : Option String :=
  if tags.contains "bulletproof" then some "bulletproof"
  else if tags.contains "bulletproof_vest" then some "bulletproof_vest"
  else none

/-! ## Use counters -/

def actionCounterId (templateId : String) : Tag := "x_shot:" ++ templateId

def daySessionCounterId (sessionId templateId : String) : Tag :=
  "day_session:" ++ sessionId ++ ":" ++ templateId

def inventoryCounterId (grantId : Tag) : Tag := "inventory:" ++ grantId

/-- `use_counters.iter().find(|c| c.actor == actor && c.counter_id == counter_id)`. -/
def findCounter (counters : List ActionCounterRecord) (actor : SlotId) (counterId : Tag) :
    Option ActionCounterRecord :=
  counters.find? fun counter => counter.actor == actor && counter.counterId == counterId

def actionCounterUsedCount (counters : List ActionCounterRecord) (actor : SlotId)
    (templateId : String) : Nat :=
  match findCounter counters actor (actionCounterId templateId) with
  | some counter => max counter.used (counter.limit - counter.remaining)
  | none => 0

def actionCounterExhausted (counters : List ActionCounterRecord) (actor : SlotId)
    (templateId : String) (limit : Nat) : Bool :=
  counters.any fun counter =>
    counter.actor == actor && counter.counterId == actionCounterId templateId &&
      (counter.remaining == 0 || decide (limit ≤ actionCounterUsedCount counters actor templateId))

def inventoryCounterExhausted (counters : List ActionCounterRecord) (actor : SlotId) (grantId : Tag) : Bool :=
  counters.any fun counter =>
    counter.actor == actor && counter.counterId == inventoryCounterId grantId && counter.remaining == 0

def daySessionCounterUsed (counters : List ActionCounterRecord) (actor : SlotId)
    (sessionId templateId : String) : Nat :=
  match findCounter counters actor (daySessionCounterId sessionId templateId) with
  | some counter => counter.used
  | none => 0

def counterUseCounted (phaseId : PhaseId) (counterId : Tag) (actor : SlotId)
    (templateId consumedAction cadencePolicy phaseScope : String) (limit used : Nat) :
    InnerEvent F :=
  .actionUseCounted counterId actor templateId consumedAction cadencePolicy phaseScope limit used
    (limit - used) phaseId

def actionUseCounted (input : ResolutionInput F) (actor : SlotId) (templateId actionId : String)
    (limit : Nat) : InnerEvent F :=
  let used := min
    (saturatingAddU16 (actionCounterUsedCount input.state.useCounters actor templateId) 1) limit
  counterUseCounted input.phaseId (actionCounterId templateId) actor templateId actionId "x_shot"
    "game" limit used

def daySessionUseCounted (input : ResolutionInput F) (actor : SlotId)
    (sessionId templateId actionId : String) (limit used : Nat) : InnerEvent F :=
  .actionUseCounted (daySessionCounterId sessionId templateId) actor templateId actionId
    "day_session" "session" limit used (limit - used) input.phaseId

def inventoryUseCounted (input : ResolutionInput F) (actor : SlotId) (grantId : Tag)
    (templateId actionId : String) (limit remaining : Nat) : InnerEvent F :=
  .actionUseCounted (inventoryCounterId grantId) actor templateId actionId "inventory" "grant"
    limit (limit - remaining) remaining input.phaseId

/-! ## Effects and notifications -/

def effectDuration (pack : Pack F) (template : ActionTemplate F) (effect : Tag) : EffectDuration :=
  (template.effectDuration <|> (pack.effects[effect]?).map (·.duration)).getD .persistent

def effectVisibility (pack : Pack F) (effect : Tag) : EffectVisibility :=
  ((pack.effects[effect]?).map (·.visibility)).getD .hidden

def effectAudience (input : ResolutionInput F) (visibility : EffectVisibility)
    (actor target : SlotId) : List SlotId :=
  match visibility with
  | .hidden => []
  | .publicView => aliveSlotIds input
  | .actor => [actor]
  | .target => [target]
  | .actorAndTarget => if actor != target then [actor, target] else [actor]

def effectsMarked (input : ResolutionInput F) (pack : Pack F) (effect : Tag)
    (target actor : SlotId) (sourceAction : String) (duration : EffectDuration) : InnerEvent F :=
  .effectsMarked effect target actor (some sourceAction) (some input.phaseId) duration
    (effectVisibility pack effect)

/-- `emit_effect_notification`: the events it pushes. -/
def effectNotification (input : ResolutionInput F) (pack : Pack F) (effect : Tag)
    (status : String) (actor target : SlotId) : List (InnerEvent F) :=
  let visibility := effectVisibility pack effect
  if visibility = .hidden then []
  else [.effectNotification effect status (effectAudience input visibility actor target) none]

/-- `emit_grant_notification`: the events it pushes. -/
def grantNotification (input : ResolutionInput F) (grantId : Tag) (visibility : EffectVisibility)
    (actor target : SlotId) : List (InnerEvent F) :=
  if visibility = .hidden then []
  else [.effectNotification "grant" grantId (effectAudience input visibility actor target) none]

/-! ## Windows and submitted templates -/

def phaseWindowMatches (window : Window) (phaseKind : PhaseKind) : Bool :=
  match window with
  | .any => true
  | .day => phaseKind == .day
  | .night => phaseKind == .night
  | .twilight => phaseKind == .twilight
  | .instant => false

def phaseWindowMismatchReason (window : Window) (phaseKind : PhaseKind) : Option String :=
  if phaseWindowMatches window phaseKind then none
  else
    match window with
    | .any => none
    | .day => some "day_specific"
    | .night => some "night_specific"
    | .twilight => some "twilight_specific"
    | .instant => some "instant_specific"

def lookupTemplate (input : ResolutionInput F) (actor : SlotId) (templateId : String) :
    Option (ActionTemplate F) := do
  let slot ← input.state.slot? actor
  let role ← input.pack.document.roles[slot.roleKey]?
  role.actions.find? (·.id == templateId)

/-- `sub.metadata.get("grant_id")?.as_str()?`. -/
def submittedGrantId (sub : Submission) : Option Tag := do
  (← sub.metadata["grant_id"]?).asStr

/-- The predicate of the `find` in `lookup_item_template`. -/
def isLiveItemGrant (actor : SlotId) (grantId : Tag) (grant : ActionGrantRecord F) : Bool :=
  grant.target == actor && grant.grantId == grantId && grant.kind == .item && decide (0 < grant.uses)

def lookupItemTemplate (input : ResolutionInput F) (sub : Submission) : Option (ActionTemplate F) := do
  let grantId ← submittedGrantId sub
  if inventoryCounterExhausted input.state.useCounters sub.actor grantId then none
  else
    let grant ← input.state.actionGrants.find? (isLiveItemGrant sub.actor grantId)
    let template ← input.pack.document.itemActions[grant.grantId]?
    if template.id == sub.templateId then some template else none

def lookupSubmissionTemplate (input : ResolutionInput F) (sub : Submission) : Option (ActionTemplate F) :=
  lookupTemplate input sub.actor sub.templateId <|> lookupItemTemplate input sub

def selectedGrantForSubmission (template : ActionTemplate F) (sub : Submission) :
    Option (GrantSpec F × Option Tag) :=
  if template.grantOptions.isEmpty then template.grant.map fun grant => (grant, none)
  else do
    let grantId ← submittedGrantId sub
    let grant ← template.grantOptions.find? (·.grantId == grantId)
    some (grant, some grantId)

def submissionItemGrantId (input : ResolutionInput F) (sub : Submission) : Option Tag := do
  let grantId ← submittedGrantId sub
  let template ← input.pack.document.itemActions[grantId]?
  if template.id == sub.templateId then some grantId else none

def submissionConsumedGrantId (input : ResolutionInput F) (sub : Submission) : Option Tag := do
  let grantId ← submittedGrantId sub
  let isGrantAction :=
    match lookupTemplate input sub.actor sub.templateId with
    | some template =>
      template.hasAbility .grant && (selectedGrantForSubmission template sub).isSome
    | none => false
  if isGrantAction then none
  else
    match submissionItemGrantId input sub with
    | some itemGrantId => some itemGrantId
    | none =>
      if input.state.actionGrants.any fun grant =>
          grant.target == sub.actor && grant.grantId == grantId && grant.kind == .extraAction &&
            decide (0 < grant.uses)
      then some grantId else none

def submissionHasExhaustedItemGrant (input : ResolutionInput F) (sub : Submission) : Bool :=
  match submissionItemGrantId input sub with
  | none => false
  | some grantId =>
    input.state.actionGrants.any (isLiveItemGrant sub.actor grantId) &&
      inventoryCounterExhausted input.state.useCounters sub.actor grantId

end Fmarch.Resolver
