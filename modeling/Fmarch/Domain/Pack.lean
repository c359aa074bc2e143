import Fmarch.Domain.Ir
import Fmarch.Domain.Phase
import Fmarch.Domain.Values

/-!
# The pack model

`pack/model.rs`: declarative tables over the ability vocabulary. The field defaults are the serde
defaults of the Rust structures. Fields no modelled function reads (presentation labels, version
stamps, linter families) are left out.
-/

namespace Fmarch.Domain

abbrev RoleKey := String
abbrev AlignmentKey := String
abbrev Tag := String
abbrev SlotId := String

/-! ## Enumerations -/

inductive RoleModifier where
  | lost | recluse
  deriving DecidableEq

inductive Window where
  | day | night | twilight | instant | any
  deriving DecidableEq

namespace Window

/-- `Window::required_phase_kind`. -/
def requiredPhaseKind : Window → Option PhaseKind
  | day => some .day
  | night => some .night
  | twilight => some .twilight
  | instant => none
  | any => none

/-- `Window::matches_phase_kind`. -/
def matchesPhaseKind (window : Window) (phaseKind : PhaseKind) : Bool :=
  match window.requiredPhaseKind with
  | none => true
  | some required => required == phaseKind

/-- `Window::is_night_resolution_window`. -/
def isNightResolutionWindow : Window → Bool
  | night => true
  | any => true
  | _ => false

end Window

inductive TargetSpec where
  | none | one | many | group

inductive TargetState where
  | any | alive | dead

inductive TargetRoleFilter where
  | powerRole | vanilla

inductive RedirectKind where
  | swap | rotate | pull | retarget
  deriving DecidableEq

inductive EffectDuration where
  | persistent | resolution
  deriving DecidableEq

inductive EffectVisibility where
  | hidden | publicView | actor | target | actorAndTarget
  deriving DecidableEq

inductive EffectSourceDeathRevealKind where
  | alignment | role
  deriving DecidableEq

inductive GrantKind where
  | extraAction | item | voteWeight
  deriving DecidableEq

inductive BadgeOperation where
  | elect | pass | destroy

inductive GuardWitchSameTargetPolicy where
  | noDeath | killTarget
  deriving DecidableEq

inductive FactionVoteTieBreaker where
  | blockAll | earliestSubmitted
  deriving DecidableEq

inductive NightResolutionMode where
  | generic | explicit
  deriving DecidableEq

inductive NightResolutionConflictFamily where
  | blockSuppressesActions | protectBlocksKills | strongmanBypassesProtect | killStacking
  | interceptProtection | guardRetaliation | cprProtection | guardDependency | hideDependency
  | chosenRetaliation | generatedKillReentry | targetStateSave | targetStateGate | actionChance

inductive TriggerEvent where
  | visit | lynch | death | effectMarked | phaseEnd | win
  deriving DecidableEq

inductive TriggerOn where
  | ability (ability : IrAbility)
  | event (event : TriggerEvent)
  deriving DecidableEq

inductive ActorRef where
  | actor | target | targetGuard | other

inductive TargetRef where
  | actor | target | killer | other

inductive TriggerLoopCapPolicy where
  | redirectLoopCap

inductive SuppressionScope where
  | firstMatchingAction | allMatchingActions
  deriving DecidableEq

inductive KillStackingPolicy where
  | aggregateAttackers
  deriving DecidableEq

inductive DeathRevealMode where
  | full | alignmentOnly | concealed
  deriving DecidableEq

inductive DeathRetaliationTiming where
  | immediateBeforePhaseAnnouncement

inductive BackupPriorityPolicy where
  | targetedThenPassive | passiveThenTargeted

inductive VoteStatus where
  | lynch | noLynch | noMajority | tie | hammer
  deriving DecidableEq

inductive ItaVoteConflictPolicy where
  | resolveShotsBeforeVote

inductive ItaTargetAlreadyDeadPolicy where
  | consumeShot | refundShot | skipWithWarning
  deriving DecidableEq

inductive ItaSessionControlKind where
  | opened | pause | cancel | update | close
  deriving DecidableEq

inductive DayNoteRolePayload where
  | hidden | roleKey
  deriving DecidableEq

inductive ConversionMode where
  | assignRole | restoreOriginal

inductive ConversionDeadTargetPolicy where
  | block
  deriving DecidableEq

inductive ConversionPendingDeathPolicy where
  | block
  deriving DecidableEq

inductive PhaseParity where
  | odd | even

inductive InfoAudience where
  | actor | target | actorAndTarget

inductive ActivationGateReason where
  | novice | activated

inductive VisField where
  | actorId | targetId | actionType | result | visTag

inductive TieBreaker where
  | stable | random | first

inductive VoteTieBreaker where
  | noElimination | random | hostDecides | earliestReached

inductive VoteDuelTieBreaker where
  | random

inductive ResultMemoryScope where
  | target | investigator
  deriving DecidableEq

inductive ResultMemoryOutput where
  | previousCurrentChanged | sameDifferent
  deriving DecidableEq

/-! ## Action templates -/

structure GrantSpec (F : Type) where
  grantId : Tag
  kind : GrantKind
  uses : Nat := 1
  voteWeight : Option F := none
  visibility : EffectVisibility := .target

structure BadgeSpec (F : Type) where
  badgeId : Tag
  operation : BadgeOperation
  voteWeight : Option F := none

structure DuelSpec where
  hostileAlignments : List AlignmentKey

structure AlignmentFailbackSpec where
  hostileAlignments : List AlignmentKey

structure SelfDestructSpec where
  cause : String := "self_destruct"
  killTarget : Bool := true
  sacrificeActor : Bool := true
  unstoppable : Bool := true

structure ConversionSpec where
  mode : ConversionMode
  role : Option RoleKey := none

structure InfoSpec where
  kind : String
  audience : InfoAudience := .actor
  payload : BTreeMap String Json := ∅

structure ResultMemorySpec where
  record : Bool := false
  comparePrevious : Bool := false
  scope : ResultMemoryScope := .target
  output : ResultMemoryOutput := .previousCurrentChanged

structure ActivationGate where
  phaseKind : PhaseKind
  phaseNumber : Nat
  reason : ActivationGateReason

structure Constraints where
  maxTargets : Nat
  selfAllowed : Bool
  personalOnly : Bool := false
  uniqueTargets : Bool
  lazyRequiresMultipleNonTown : Bool := false
  disabledAtOrBelowAlive : Option Nat := none
  uncooperativeResult : Option String := none
  targetState : Option TargetState := none
  targetRoleFilter : Option TargetRoleFilter := none
  roleblockable : Bool
  priority : Int
  xShots : Option Nat := none
  cooldownCycles : Option Nat := none
  activeFrom : Option ActivationGate := none
  phaseParity : Option PhaseParity := none
  cycleParity : Option PhaseParity := none

structure ActionTemplate (F : Type) where
  id : String
  ability : IrAbility
  additionalAbilities : List IrAbility := []
  window : Window
  targets : TargetSpec
  modifiers : List Modifier := []
  constraints : Constraints
  mode : Option InvestigateMode := none
  resultMemory : Option ResultMemorySpec := none
  info : Option InfoSpec := none
  effect : Option Tag := none
  readsEffect : Option Tag := none
  redirect : Option RedirectKind := none
  effectDuration : Option EffectDuration := none
  grant : Option (GrantSpec F) := none
  grantOptions : List (GrantSpec F) := []
  badge : Option (BadgeSpec F) := none
  duel : Option DuelSpec := none
  alignmentFailback : Option AlignmentFailbackSpec := none
  selfDestruct : Option SelfDestructSpec := none
  conversion : Option ConversionSpec := none

namespace ActionTemplate

variable {F : Type}

/-- `ActionTemplate::has_modifier`. -/
def hasModifier (template : ActionTemplate F) (m : Modifier) : Bool :=
  template.modifiers.contains m

/-- `ActionTemplate::has_ability`. -/
def hasAbility (template : ActionTemplate F) (ability : IrAbility) : Bool :=
  template.ability == ability || template.additionalAbilities.contains ability

/-- `ActionTemplate::abilities`. -/
def abilities (template : ActionTemplate F) : List IrAbility :=
  template.ability :: template.additionalAbilities

end ActionTemplate

structure Role (F : Type) where
  alignment : Option AlignmentKey := none
  modifiers : List RoleModifier := []
  actions : List (ActionTemplate F) := []
  effects : List Tag := []

def Role.hasModifier {F : Type} (role : Role F) (m : RoleModifier) : Bool :=
  role.modifiers.contains m

/-! ## Policies -/

structure PrecedenceWhen where
  effect : IrAbility
  targetState : Option String := none

structure PrecedenceRule where
  id : String
  when : PrecedenceWhen
  beats : List IrAbility := []
  blockedBy : List IrAbility := []
  unlessModifiers : List Modifier := []

structure VisibilityRule where
  sees : List VisField := []
  unlessModifiers : List Modifier := []

structure RedirectPolicy where
  order : List IrAbility := []
  loopCap : Nat
  tieBreaker : TieBreaker

structure TriggerProduction where
  ability : IrAbility
  actor : ActorRef
  target : TargetRef
  modifiers : List Modifier := []

structure TriggerRule where
  id : String
  on : TriggerOn
  ifTargetHas : List Tag := []
  ifActorHas : List Tag := []
  produces : TriggerProduction

inductive VoteMethod where
  | plurality
  | majority
  | supermajority (num den : Nat)

structure DynamicVoteWeightRule (F : Type) where
  effect : Tag
  weight : F
  priority : Int

structure DynamicVoteWeightGrantRule where
  grantId : Tag
  priority : Int

structure DynamicVoteWeightPolicy (F : Type) where
  base : F
  effectRules : List (DynamicVoteWeightRule F) := []
  grantRules : List DynamicVoteWeightGrantRule := []

inductive WeightPolicy (F : Type) where
  | equal
  | perRole (weights : BTreeMap RoleKey F)
  | dynamic (policy : DynamicVoteWeightPolicy F)

structure VotePolicy (F : Type) where
  method : VoteMethod
  noLynchAllowed : Bool
  selfVoteAllowed : Bool
  hammer : Bool
  weights : WeightPolicy F
  thresholdAdjustments : BTreeMap RoleKey F := ∅
  tiebreakerRoles : List RoleKey := []
  tieBreaker : VoteTieBreaker
  voteDuelTieBreaker : Option VoteDuelTieBreaker := none

structure PhasePolicy where
  cadence : List PhaseKind := []
  subsegments : BTreeMap PhaseKind (List String) := ∅
  twilight : Bool := false

structure ParityResultPolicy where
  town : String := "town"
  nonTown : String := "scum"
  alignmentResults : BTreeMap AlignmentKey String := ∅

structure RoleSetInvestigationPolicy where
  vanillaRoles : List RoleKey := []
  gunBearingRoles : List RoleKey := []
  killerRoles : List RoleKey := []
  specialistRoles : List RoleKey := []

structure InvestigationResultPolicy where
  parity : ParityResultPolicy := {}
  roleSets : RoleSetInvestigationPolicy := {}

structure EffectPolicy where
  duration : EffectDuration := .persistent
  visibility : EffectVisibility := .hidden

structure EffectSourceDeathRevealPolicy where
  id : String
  effect : Tag
  reveal : EffectSourceDeathRevealKind

structure ItaLifecyclePolicy where
  manualOpen : Bool := false
  pause : Bool := false
  cancel : Bool := false
  update : Bool := false
  manualClose : Bool := false

def ItaLifecyclePolicy.allows (policy : ItaLifecyclePolicy) : ItaSessionControlKind → Bool
  | .opened => policy.manualOpen
  | .pause => policy.pause
  | .cancel => policy.cancel
  | .update => policy.update
  | .close => policy.manualClose

structure ItaResolutionPolicy where
  onTargetAlreadyDead : ItaTargetAlreadyDeadPolicy := .consumeShot

structure ItaSessionSpec (F : Type) where
  sessionId : String
  label : Option String := none
  day : Option Nat := none
  window : Option String := none
  shotLimit : Option Nat := none
  hitChance : Option F := none
  bufferDelayMs : Option Nat := none

structure ItaRoleOverride (F : Type) where
  hitBonus : F
  hitPenalty : F
  targetEvade : F
  shields : Nat := 0
  hitPoints : Nat := 0

/-- `u16::saturating_add`. -/
def saturatingAddU16 (a b : Nat) : Nat := min (a + b) (2 ^ 16 - 1)

/-- `u32::saturating_add`. -/
def saturatingAddU32 (a b : Nat) : Nat := min (a + b) (2 ^ 32 - 1)

/-- `u64::saturating_add`. -/
def saturatingAddU64 (a b : Nat) : Nat := min (a + b) (2 ^ 64 - 1)

namespace ItaRoleOverride

variable {F : Type} [Float64 F]

/-- `ItaRoleOverride::default`. -/
def empty : ItaRoleOverride F :=
  { hitBonus := Float64.zero, hitPenalty := Float64.zero, targetEvade := Float64.zero }

/-- `ItaRoleOverride::add_component`. -/
def addComponent (policy component : ItaRoleOverride F) : ItaRoleOverride F where
  hitBonus := Float64.add policy.hitBonus component.hitBonus
  hitPenalty := Float64.add policy.hitPenalty component.hitPenalty
  targetEvade := Float64.add policy.targetEvade component.targetEvade
  shields := saturatingAddU16 policy.shields component.shields
  hitPoints := saturatingAddU16 policy.hitPoints component.hitPoints

end ItaRoleOverride

structure ItaPolicy (F : Type) [Float64 F] where
  sessions : List (ItaSessionSpec F) := []
  voteConflict : Option ItaVoteConflictPolicy := none
  defaultHitChance : F := Float64.ofDecimal 35 2
  modifierComponents : BTreeMap String (ItaRoleOverride F) := ∅
  roleModifierRefs : BTreeMap RoleKey (List String) := ∅
  roleOverrides : BTreeMap RoleKey (ItaRoleOverride F) := ∅
  autoClose : Bool := true
  lifecycle : ItaLifecyclePolicy := {}
  resolutionPolicy : ItaResolutionPolicy := {}

def ItaPolicy.effectiveRoleOverride {F : Type} [Float64 F] (policy : ItaPolicy F)
    (roleKey : RoleKey) : ItaRoleOverride F :=
  ((policy.roleModifierRefs[roleKey]?).getD []).foldl
    (fun acc componentRef =>
      match policy.modifierComponents[componentRef]? with
      | some component => acc.addComponent component
      | none => acc)
    ((policy.roleOverrides[roleKey]?).getD .empty)

structure DayAnnouncementPolicy where
  enabled : Bool := false
  templateId : Option String := none
  audience : Option String := none
  rolePayload : DayNoteRolePayload := .roleKey
  nightDeathsN1 : Bool := true
  nightDeathsAfterN1 : Bool := false
  multipleNightDeathsN2Plus : Bool := false

structure DayDeathCauseTemplate where
  templateId : String
  audience : Option String := none

structure DayDeathAnnouncementPolicy where
  enabled : Bool := false
  templateId : Option String := none
  audience : Option String := none
  causeTemplates : BTreeMap String DayDeathCauseTemplate := ∅

structure LastWordsPolicy where
  dayDeaths : Bool := false
  templateId : Option String := none
  audience : Option String := none
  window : Option String := none

structure DayNotePolicy where
  announcements : DayAnnouncementPolicy := {}
  lastWords : LastWordsPolicy := {}
  dayDeaths : DayDeathAnnouncementPolicy := {}

structure WolfCarryPolicy where
  enabled : Bool := false
  tokenId : Tag := "white_wolf_carry_token"
  cause : String := "wolf_carry"
  eligibleRoles : List RoleKey := []
  wolfKillRoles : List RoleKey := []

structure WolfBeautyPolicy where
  enabled : Bool := false
  markEffect : Tag := "wolf_beauty_mark"
  dragCause : String := "trigger:wolf_beauty_drag"
  eligibleRoles : List RoleKey := []
  deathCauses : List String := ["lynch", "poison", "witch_poison"]

structure GuardPolicy where
  enabled : Bool := false
  guardActionIds : List String := []
  witchHealActionIds : List String := []
  guardBlockableCauses : List String := []
  guardSelfAllowed : Option Bool := none
  guardNightOneAllowed : Option Bool := none
  sameTargetWitch : GuardWitchSameTargetPolicy := .noDeath
  sameTargetWitchKillCause : Option String := none

structure FactionActionSpec where
  actionId : String
  alignment : AlignmentKey
  maxResolvedSubmissions : Nat := 1
  targetTie : FactionVoteTieBreaker := .blockAll

structure FactionActionPolicy where
  enabled : Bool := false
  actions : List FactionActionSpec := []

structure ActionChancePolicy (F : Type) where
  chance : F

structure ProtectionCausePolicy where
  blocks : List String := []
  bypasses : List String := []

structure GeneratedKillCausePolicy where
  on : Option TriggerOn := none
  actor : Option ActorRef := none
  target : Option TargetRef := none
  strongmanBypassesProtect : Bool := false

structure TriggerFixpointPolicy where
  on : Option TriggerOn := none
  producedKillReenters : Bool := false
  loopCap : Option TriggerLoopCapPolicy := none
  trace : Bool := false

structure TargetStateSavePolicy where
  blocks : List String := []
  bypasses : List String := []

structure TargetStateGatePolicy where
  blocks : List IrAbility := []

structure SuppressionPolicy where
  scope : Option SuppressionScope := none
  suppresses : List String := []
  bypasses : List String := []

structure NightResolutionPolicy (F : Type) where
  mode : NightResolutionMode := .generic
  killStacking : Option KillStackingPolicy := none
  conflictFamilies : List NightResolutionConflictFamily := []
  blockActionIds : List String := []
  protectActionIds : List String := []
  killActionIds : List String := []
  teamKillActionIds : List String := []
  bodyguardActionIds : List String := []
  martyrActionIds : List String := []
  cprActionIds : List String := []
  jailkeepActionIds : List String := []
  strongmanActionIds : List String := []
  strongmanBypassesProtect : Bool := false
  killCauseIds : List String := []
  targetStateSaveTags : List String := []
  targetStateGateTags : List String := []
  empowerEffects : List Tag := []
  interceptCausePolicy : BTreeMap String String := ∅
  guardRetaliationCausePolicy : BTreeMap String String := ∅
  cprHarmCausePolicy : BTreeMap String String := ∅
  guardDependencyCausePolicy : BTreeMap String String := ∅
  hideDependencyCausePolicy : BTreeMap String String := ∅
  chosenRetaliationCausePolicy : BTreeMap String GeneratedKillCausePolicy := ∅
  generatedKillCausePolicy : BTreeMap String GeneratedKillCausePolicy := ∅
  triggerFixpointPolicy : BTreeMap String TriggerFixpointPolicy := ∅
  protectionCausePolicy : BTreeMap String ProtectionCausePolicy := ∅
  targetStateSavePolicy : BTreeMap String TargetStateSavePolicy := ∅
  targetStateGatePolicy : BTreeMap String TargetStateGatePolicy := ∅
  suppressionPolicy : BTreeMap String SuppressionPolicy := ∅
  actionChance : BTreeMap String (ActionChancePolicy F) := ∅

def NightResolutionPolicy.isExplicit {F : Type} (policy : NightResolutionPolicy F) : Bool :=
  policy.mode == .explicit

structure DeathRetaliationPolicy where
  enabled : Bool := false
  eligibleRoles : List RoleKey := []
  timing : Option DeathRetaliationTiming := none
  allowedDeathCauses : List String := []
  suppressedDeathCauses : List String := []

structure DeathRevealPolicy where
  default : DeathRevealMode := .full
  byCause : BTreeMap String DeathRevealMode := ∅
  byEffect : BTreeMap Tag DeathRevealMode := ∅

structure IdiotPolicy where
  enabled : Bool := false
  eligibleRoles : List RoleKey := []
  voteLossEffect : Tag := "idiot_vote_loss"
  survivalReason : String := "idiot_survival"

structure SaulusPolicy where
  enabled : Bool := false
  eligibleRoles : List RoleKey := []
  targetAlignment : AlignmentKey := "town"
  survivalReason : String := "saulus_conversion"

structure BackupPolicy where
  enabled : Bool := false
  passiveEffectPrefix : Tag := "backup:"
  targetedEffect : Tag := "backup_target"
  priority : Option BackupPriorityPolicy := none

structure ConversionPolicy where
  onDeadTarget : Option ConversionDeadTargetPolicy := none
  onPendingDeath : Option ConversionPendingDeathPolicy := none

structure TargetLynchWinPolicy where
  id : String
  targetEffect : Tag
  eligibleRoles : List RoleKey
  winner : AlignmentKey

structure SelfLynchWinPolicy where
  id : String
  eligibleRoles : List RoleKey
  winner : AlignmentKey
  sourceEvent : Option String := none

structure BelovedPrincessPolicy where
  enabled : Bool := false
  eligibleRoles : List RoleKey := []
  allDeathCauses : Bool := false
  promptKind : String := "skip_next_day"
  promptReason : String := "beloved_princess_died"
  deathCauses : List String := ["lynch"]

structure DayVotePromptPolicy where
  id : String
  statuses : List VoteStatus := []
  promptKind : String
  promptReason : String

structure LoverPolicy where
  enabled : Bool := false
  linkEffect : Tag := "lovers_link"
  suicideCause : String := "lover_suicide"
  suicideOnLoverDeath : Bool := true
  loversKnownToEachOther : Bool := true

structure TreestumpPolicy where
  enabled : Bool := false
  statusTag : Tag := "treestump"
  eligibleRoles : List RoleKey := []

inductive WinCondition where
  | factionEliminated (faction : AlignmentKey)
  | factionReachesParity (faction : AlignmentKey)
  | allOtherFactionsEliminated (faction : AlignmentKey)

structure WinRule where
  winner : AlignmentKey
  when : WinCondition
  blockedByAlive : List AlignmentKey := []

/-- The pack's `SurvivalWinAward` rule. -/
structure SurvivalWinAwardRule where
  id : String
  winner : String
  eligibleRoles : List RoleKey := []
  sourceEvent : Option String := none

structure WinPolicy where
  rules : List WinRule := []
  survivalAwards : List SurvivalWinAwardRule := []

/-! ## The pack -/

structure Pack (F : Type) [Float64 F] where
  itemActions : BTreeMap Tag (ActionTemplate F) := ∅
  roles : BTreeMap RoleKey (Role F)
  precedence : List PrecedenceRule := []
  visibility : BTreeMap IrAbility VisibilityRule := ∅
  redirects : RedirectPolicy
  triggers : List TriggerRule := []
  vote : VotePolicy F
  phases : PhasePolicy := {}
  investigationOverrides : Option (BTreeMap Tag (BTreeMap InvestigateMode String)) := none
  investigationResults : InvestigationResultPolicy := {}
  effects : BTreeMap Tag EffectPolicy := ∅
  effectSourceDeathReveals : List EffectSourceDeathRevealPolicy := []
  ita : ItaPolicy F := {}
  dayNotes : DayNotePolicy := {}
  wolfCarry : WolfCarryPolicy := {}
  wolfBeauty : WolfBeautyPolicy := {}
  guardPolicy : GuardPolicy := {}
  factionActions : FactionActionPolicy := {}
  nightResolution : NightResolutionPolicy F := {}
  deathRetaliation : DeathRetaliationPolicy := {}
  deathReveal : DeathRevealPolicy := {}
  idiotPolicy : IdiotPolicy := {}
  saulusPolicy : SaulusPolicy := {}
  backupPolicy : BackupPolicy := {}
  conversionPolicy : ConversionPolicy := {}
  targetLynchWinPolicies : List TargetLynchWinPolicy := []
  selfLynchWinPolicies : List SelfLynchWinPolicy := []
  belovedPrincessPolicy : BelovedPrincessPolicy := {}
  dayVotePromptPolicies : List DayVotePromptPolicy := []
  loverPolicy : LoverPolicy := {}
  treestumpPolicy : TreestumpPolicy := {}
  win : WinPolicy := {}

end Fmarch.Domain
