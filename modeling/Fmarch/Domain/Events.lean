import Fmarch.Domain.Pack

/-!
# Resolution events

`events.rs`: the closed set of inner events a resolution emits. Everything the resolver tells the
rest of the system is one of these constructors; the state fold (`State.lean`) and the validators
(`Validate.lean`) are functions of lists of them.
-/

namespace Fmarch.Domain

/-- `InvestigationResultFields`: the shared field bag of every mode but Parity labels and Track. -/
structure InvestigationResultFields where
  vanilla : Option Bool := none
  vanillaTown : Option Bool := none
  hasGun : Option Bool := none
  killer : Option Bool := none
  specialist : Option Bool := none
  ptAccess : Option (List String) := none
  role : Option String := none
  alignment : Option String := none
  visited : Option (List String) := none
  visitors : Option (List String) := none
  visitorRoles : Option (List String) := none
  actions : Option (List String) := none
  actionTypes : Option (List String) := none
  motion : Option Bool := none
  priorMotion : Option Bool := none
  previous : Option String := none
  current : Option String := none
  changed : Option Bool := none
  deriving DecidableEq

inductive InvestigationResultBody where
  | label (value : String)
  | track (visited : List SlotId)
  | fields (fields : InvestigationResultFields)
  deriving DecidableEq

def InvestigationResultBody.asLabel : InvestigationResultBody → Option String
  | .label value => some value
  | _ => none

/-- `Death`: one entry of the public death list. -/
structure Death where
  slotId : SlotId
  cause : String
  templateId : Option String := none
  audience : Option String := none

structure PhaseAnnouncement where
  phaseId : PhaseId
  templateId : Option String
  audience : Option String
  deaths : List Death

structure DayVoteOutcome (F : Type) where
  status : VoteStatus
  winner : Option SlotId
  contenders : List SlotId
  tallies : BTreeMap SlotId F
  votes : BTreeMap SlotId SlotId
  weights : BTreeMap SlotId F
  majority : Option F
  thresholds : BTreeMap SlotId F
  totalWeight : F
  tiebreak : Option String
  reason : Option String

structure DayAnnouncement where
  playerId : SlotId
  cause : String
  templateId : Option String
  audience : Option String
  sourceActionId : Option String
  attackers : List SlotId
  unstoppable : Bool
  roleKey : Option RoleKey
  rolePayload : Option DayNoteRolePayload
  recordedAt : Option Nat
  sequence : Nat
  day : Nat
  night : Nat
  phaseId : PhaseId

structure LastWordsVoteSummary (F : Type) where
  status : VoteStatus
  winner : Option SlotId
  tallies : BTreeMap SlotId F
  majority : Option F
  totalWeight : F

structure LastWordsRecorded (F : Type) where
  playerId : SlotId
  reason : String
  templateId : Option String
  audience : Option String
  window : Option String
  sequence : Nat
  day : Nat
  phaseId : PhaseId
  vote : LastWordsVoteSummary F

structure HostPromptMetadata where
  policy : Option String := none
  status : Option String := none
  contenders : List SlotId := []
  tiebreak : Option String := none
  outcomeReason : Option String := none
  deathCause : Option String := none
  role : Option String := none

structure HostPromptIssued where
  promptId : String
  kind : String
  subject : Option SlotId
  reason : String
  phaseId : PhaseId
  metadata : HostPromptMetadata

/-- The event-side `SurvivalWinAward`. -/
structure SurvivalWinAward where
  policy : String
  winner : String
  slotId : String
  role : String
  sourceEvent : String

structure WinReachedMetadata where
  policy : Option String := none
  owner : Option String := none
  target : Option String := none
  effect : Option String := none
  winner : Option String := none
  role : Option String := none
  sourceAction : Option String := none
  sourceEvent : Option String := none
  targetPhaseId : Option PhaseId := none
  survivalAwards : List SurvivalWinAward := []

structure TriggerPayload where
  on : String
  sourceTarget : SlotId
  sourceActor : SlotId
  sourceCause : String
  producedActor : SlotId
  producedTarget : SlotId
  actorFilter : List Tag

inductive DuelResult where
  | success | failure

inductive ItaShotOutcome where
  | hit | miss | blocked
  deriving DecidableEq

structure ItaCounters where
  globalShotsFired : Nat := 0
  shotsResolved : Nat := 0
  hitsLanded : Nat := 0
  shotsMissed : Nat := 0
  shotsBlocked : Nat := 0
  shotsRefunded : Nat := 0
  perShooter : BTreeMap SlotId Nat := ∅
  perTarget : BTreeMap SlotId Nat := ∅
  shieldsRemaining : BTreeMap SlotId Nat := ∅
  shieldsSpent : BTreeMap SlotId Nat := ∅
  hpRemaining : BTreeMap SlotId Nat := ∅
  hpDamage : BTreeMap SlotId Nat := ∅
  refundedByReason : BTreeMap String Nat := ∅

/-- `InnerEvent`, in the order of the Rust enum. -/
inductive InnerEvent (F : Type) where
  -- Day flow
  | dayVoteRecorded (actor : SlotId) (target : Option SlotId) (withdrawn : Bool) (sequence : Nat)
  | dayVoteOutcome (outcome : DayVoteOutcome F)
  | voteVetoed (governor target : SlotId) (sourceAction : String) (phaseId : PhaseId)
  | dayAnnouncement (announcement : DayAnnouncement)
  | lastWordsRecorded (words : LastWordsRecorded F)
  | hostPromptIssued (prompt : HostPromptIssued)
  | phaseAnnouncement (announcement : PhaseAnnouncement)
  -- Core night results
  | playerKilled (slotId : SlotId) (cause : String) (attackers : List SlotId)
      (unstoppable : Bool) (deathReveal : DeathRevealMode)
  | slotStatusTagged (slotId : SlotId) (tag : Tag) (source : String)
  | playerSaved (slotId : SlotId) (reasons : List String) (sources : List SlotId)
  | playerConverted (target : SlotId) (newRole : RoleKey) (newAlignment : Option AlignmentKey)
      (originalRole : RoleKey) (originalAlignment : Option AlignmentKey) (source : SlotId)
  | conversionBlocked (target : SlotId) (status reason : String)
  -- Persistent effects
  | effectsMarked (effect : Tag) (target actor : SlotId) (sourceAction : Option String)
      (phaseId : Option PhaseId) (duration : EffectDuration) (visibility : EffectVisibility)
  | effectsCleared (effect : Tag) (targets : List SlotId) (actor : SlotId)
      (sourceAction : Option String) (phaseId : Option PhaseId)
  | actionGranted (grantId : Tag) (grantOption : Option Tag) (kind : GrantKind)
      (actor target : SlotId) (sourceAction : String) (uses : Nat) (voteWeight : Option F)
      (phaseId : PhaseId)
  | actionGrantConsumed (grantId : Tag) (actor : SlotId) (actionId sourceAction : String)
      (phaseId : PhaseId) (remainingUses : Nat)
  | actionUseCounted (counterId : Tag) (actor : SlotId)
      (templateId consumedAction cadencePolicy phaseScope : String) (limit used remaining : Nat)
      (phaseId : PhaseId)
  | badgeChanged (badgeId : Tag) (owner previousOwner : Option SlotId) (voteWeight : Option F)
      (actor : SlotId) (sourceAction reason : String) (destroyed : Bool) (phaseId : PhaseId)
  | duelResolved (knight target : SlotId) (result : DuelResult) (killed : SlotId)
      (sourceAction : String) (phaseId : PhaseId)
  | wolfSelfDestructed (wolfId targetId : SlotId) (cause : String) (unstoppable : Bool)
      (sourceAction : String) (phaseId : PhaseId)
  | wolfCarryQueued (ownerId : SlotId) (tokenId : Tag) (cause : String) (roleKey : RoleKey)
      (phaseId : PhaseId)
  | wolfCarryUsed (ownerId targetId : SlotId) (sourceActionId effectId : String)
      (roleKey : RoleKey) (phaseId : PhaseId)
  | wolfBeautyMarked (beautyId targetId : SlotId) (effect : Tag) (sourceAction : String)
      (phaseId : PhaseId)
  | wolfBeautyDragged (beautyId : SlotId) (draggedIds : List SlotId) (cause : String)
      (phaseId : PhaseId)
  | itaSessionOpened (sessionId : String) (label : Option String) (day : Option Nat)
      (window : Option String) (status : String) (phaseId : PhaseId)
  | itaSessionLifecycleChanged (sessionId : String) (control : ItaSessionControlKind)
      (fromStatus toStatus : String) (message : Option String) (recordedAt : Nat)
      (phaseId : PhaseId)
  | itaSessionAnnouncement (sessionId status : String) (message : Option String)
      (recordedAt : Nat) (phaseId : PhaseId)
  | itaShotQueued (sessionId actionId : String) (actor : SlotId) (targets : List SlotId)
      (submittedAt queuePosition queueLength previousQueueLength : Nat) (counters : ItaCounters)
  | itaShotBuffered (sessionId actionId templateId : String) (actorId : SlotId)
      (targets : List SlotId) (submittedAt releaseAt delayMs : Nat)
  | itaShotInvalidated (sessionId actionId : String) (actorId targetId : SlotId)
      (reason : String) (invalidatedBy : Option String) (submittedAt timestamp : Nat)
  | itaShotResolved (sessionId actionId : String) (actor target : SlotId)
      (outcome : ItaShotOutcome) (hitChance roll : F) (kill : Bool)
      (shieldBefore shieldAfter : Option Nat) (shieldSpent : Bool)
      (hpBefore hpAfter : Option Nat) (protectionPath : Option String)
      (submittedAt timestamp : Nat) (counters : ItaCounters)
  | itaShotRefunded (sessionId actionId : String) (actorId targetId : SlotId) (reason : String)
      (policy : Option String) (hitChance roll : Option F) (hpBefore hpAfter : Option Nat)
      (protectionPath : Option String) (submittedAt timestamp : Nat) (counters : ItaCounters)
  | itaSessionUpdated (sessionId : String) (queueLength : Nat) (queueDelta : Int)
      (shotsResolved globalShotsFired : Nat) (counters : ItaCounters) (phaseId : PhaseId)
  | itaSessionClosed (sessionId lastStatus : String) (phaseId : PhaseId)
  | playersLinked (linkId : String) (slots : List SlotId) (source : SlotId)
  | retaliationArmed (retaliationId : String) (actor target : SlotId) (sourceAction : String)
  | backupTargeted (backup sourceTarget : SlotId) (sourceRole : RoleKey) (sourceAction : String)
      (phaseId : PhaseId)
  | targetLynchWinTargeted (policy : String) (owner target : SlotId) (effect : Tag)
      (sourceAction : String) (phaseId : PhaseId)
  | delayedDeathQueued (queueId : String) (target : SlotId) (cause : String) (effect : Tag)
      (source : SlotId) (sourceAction : String) (phaseId : PhaseId)
  | delayedDeathResolved (queueId : String) (target : SlotId) (cause : String) (effect : Tag)
      (outcome : String) (phaseId : PhaseId)
  | visitRecorded (actor target : SlotId) (templateId sourceAction : String) (phaseId : PhaseId)
      (visible : Bool)
  -- Information
  | investigationResult (mode : InvestigateMode) (investigator target : SlotId)
      (result : InvestigationResultBody)
  | infoResult (actor target : SlotId) (kind : String) (audience : List SlotId) (result : Json)
      (sourceAction templateId : String) (phaseId : PhaseId)
  | investigationMemoryRecorded (investigator target : SlotId) (mode : InvestigateMode)
      (scope : ResultMemoryScope) (result : InvestigationResultBody)
      (sourceAction templateId : String) (phaseId : PhaseId)
  | alignmentRevealed (slotId : SlotId) (alignment : AlignmentKey) (sourceAction : String)
      (phaseId : PhaseId)
  | roleRevealed (slotId : SlotId) (roleKey : RoleKey) (sourceAction : String)
      (phaseId : PhaseId)
  | voteDuelDeclared (challenger target : SlotId) (sourceAction : String) (phaseId : PhaseId)
  | effectNotification (effect : Tag) (status : String) (audience : List SlotId)
      (phaseId : Option PhaseId)
  -- Interference
  | actionIngestHalted (actionId : String) (actor : SlotId) (actorRole : Option RoleKey)
      (templateId : String) (targets : List SlotId) (phaseId : PhaseId) (reason : String)
      (grantId : Option String)
  | actionInterfered (actor : SlotId) (reason : String)
  | actionRecorded (actor : SlotId) (templateId : String) (targets : List SlotId)
      (phaseId : PhaseId) (status : String)
  -- Reactive
  | trigger (triggerId : String) (payload : TriggerPayload)
  -- Win conditions
  | winReached (winner reason : String) (metadata : Option WinReachedMetadata)

namespace InnerEvent

variable {F : Type}

/-- `InnerEvent::PlayerKilled { .. }`. -/
def isPlayerKilled : InnerEvent F → Bool
  | playerKilled .. => true
  | _ => false

/-- `InnerEvent::PlayerSaved { .. }`. -/
def isPlayerSaved : InnerEvent F → Bool
  | playerSaved .. => true
  | _ => false

/-- `InnerEvent::PhaseAnnouncement(_)`. -/
def isPhaseAnnouncement : InnerEvent F → Bool
  | phaseAnnouncement _ => true
  | _ => false

/-- `InnerEvent::WinReached { .. }`. -/
def isWinReached : InnerEvent F → Bool
  | winReached .. => true
  | _ => false

/-- The slot a `PlayerKilled` event names. -/
def killedSlot? : InnerEvent F → Option SlotId
  | playerKilled slotId .. => some slotId
  | _ => none

end InnerEvent

/-- The slots of the `PlayerKilled` events, in event order. -/
def killedSlots {F : Type} (events : List (InnerEvent F)) : List SlotId :=
  events.filterMap InnerEvent.killedSlot?

def dayDeathAnnouncementMetadata {F : Type} [Float64 F] (pack : Pack F) (phaseKind : PhaseKind)
    (deaths : List Death) : Option String × Option String × List Death :=
  let policy := pack.dayNotes.dayDeaths
  if policy.enabled && !deaths.isEmpty && (phaseKind == .day || phaseKind == .twilight) then
    let deaths := deaths.map fun death =>
      match policy.causeTemplates[death.cause]? with
      | some template =>
        { death with
          templateId := some template.templateId
          audience := template.audience <|> policy.audience }
      | none => death
    (policy.templateId, policy.audience, deaths)
  else (none, none, deaths)

end Fmarch.Domain
