import Fmarch.Domain.EventRecords

/-!
# Resolution events in JSON (`events.rs`)

`InnerEvent` is adjacently tagged: its variant under `kind`, its fields under `payload`, and nothing else.

**`deserialize_serialize`**: an event is read as the one written, each map built again from its entries, unless
it carries an investigation result whose only field is `visited`.
-/

namespace Fmarch.Domain

open JsonCodec Keyed Serde Serde.Fields

/-! ## Variants -/

section Variants

variable {F : Type} [Float64 F] [JsonFloat F]

/-- `InnerEvent::DayVoteRecorded`. -/
def dayVoteRecordedCodec : Codec Json (SlotId × Option SlotId × Bool × Nat) :=
  variant ((textField "actor").pair <| (presentText "target").pair <| (flagField "withdrawn").pair <|
      natField "sequence" 64)

/-- `InnerEvent::VoteVetoed`. -/
def voteVetoedCodec : Codec Json (SlotId × SlotId × String × PhaseId) :=
  variant ((textField "governor").pair <| (textField "target").pair <| (textField "source_action").pair <|
      phaseField "phase_id")

/-- `InnerEvent::PlayerKilled`. -/
def playerKilledCodec : Codec Json (SlotId × String × List SlotId × Bool × DeathRevealMode) :=
  variant ((textField "slot_id").pair <| (textField "cause").pair <| (textsField "attackers").pair <|
      (flagField "unstoppable").pair <| revealField "death_reveal")

/-- `InnerEvent::SlotStatusTagged`. -/
def slotStatusTaggedCodec : Codec Json (SlotId × Tag × String) :=
  variant ((textField "slot_id").pair <| (textField "tag").pair <| textField "source")

/-- `InnerEvent::PlayerSaved`. -/
def playerSavedCodec : Codec Json (SlotId × List String × List SlotId) :=
  variant ((textField "slot_id").pair <| (textsField "reasons").pair <| textsField "sources")

/-- `InnerEvent::PlayerConverted`. -/
def playerConvertedCodec : Codec Json (SlotId × RoleKey × Option AlignmentKey × RoleKey ×
    Option AlignmentKey × SlotId) :=
  variant ((textField "target").pair <| (textField "new_role").pair <|
      (nullableText "new_alignment").pair <| (textField "original_role").pair <|
      (nullableText "original_alignment").pair <| textField "source")

/-- `InnerEvent::ConversionBlocked`. -/
def conversionBlockedCodec : Codec Json (SlotId × String × String) :=
  variant ((textField "target").pair <| (textField "status").pair <| textField "reason")

/-- `InnerEvent::EffectsMarked`. -/
def effectsMarkedCodec : Codec Json (Tag × SlotId × SlotId × Option String × Option PhaseId ×
    EffectDuration × EffectVisibility) :=
  variant ((textField "effect").pair <| (textField "target").pair <| (textField "actor").pair <|
      (presentText "source_action").pair <| (presentPhase "phase_id").pair <|
      (defaulted "duration" effectDurationCodec .persistent).pair <|
      defaulted "visibility" effectVisibilityCodec .hidden)

/-- `InnerEvent::EffectsCleared`. -/
def effectsClearedCodec : Codec Json (Tag × List SlotId × SlotId × Option String × Option PhaseId) :=
  variant ((textField "effect").pair <| (textsField "targets").pair <| (textField "actor").pair <|
      (presentText "source_action").pair <| presentPhase "phase_id")

/-- `InnerEvent::ActionGranted`. -/
def actionGrantedCodec : Codec Json (Tag × Option Tag × GrantKind × SlotId × SlotId × String × Nat ×
    Option F × PhaseId) :=
  variant ((textField "grant_id").pair <| (presentText "grant_option").pair <|
      (required "kind" grantKindCodec).pair <| (textField "actor").pair <| (textField "target").pair <|
      (textField "source_action").pair <| (natField "uses" 16).pair <| (presentFloat "vote_weight").pair <|
      phaseField "phase_id")

/-- `InnerEvent::ActionGrantConsumed`. -/
def actionGrantConsumedCodec : Codec Json (Tag × SlotId × String × String × PhaseId × Nat) :=
  variant ((textField "grant_id").pair <| (textField "actor").pair <| (textField "action_id").pair <|
      (textField "source_action").pair <| (phaseField "phase_id").pair <| natField "remaining_uses" 16)

/-- `InnerEvent::ActionUseCounted`. -/
def actionUseCountedCodec : Codec Json (Tag × SlotId × String × String × String × String × Nat × Nat ×
    Nat × PhaseId) :=
  variant ((textField "counter_id").pair <| (textField "actor").pair <| (textField "template_id").pair <|
      (textField "consumed_action").pair <| (textField "cadence_policy").pair <|
      (textField "phase_scope").pair <| (natField "limit" 16).pair <| (natField "used" 16).pair <|
      (natField "remaining" 16).pair <| phaseField "phase_id")

/-- `InnerEvent::BadgeChanged`. -/
def badgeChangedCodec : Codec Json (Tag × Option SlotId × Option SlotId × Option F × SlotId × String ×
    String × Bool × PhaseId) :=
  variant ((textField "badge_id").pair <| (nullableText "owner").pair <|
      (nullableText "previous_owner").pair <| (nullableFloat "vote_weight").pair <|
      (textField "actor").pair <| (textField "source_action").pair <| (textField "reason").pair <|
      (flagField "destroyed").pair <| phaseField "phase_id")

/-- `InnerEvent::DuelResolved`. -/
def duelResolvedCodec : Codec Json (SlotId × SlotId × DuelResult × SlotId × String × PhaseId) :=
  variant ((textField "knight").pair <| (textField "target").pair <|
      (required "result" duelResultCodec).pair <| (textField "killed").pair <|
      (textField "source_action").pair <| phaseField "phase_id")

/-- `InnerEvent::WolfSelfDestructed`. -/
def wolfSelfDestructedCodec : Codec Json (SlotId × SlotId × String × Bool × String × PhaseId) :=
  variant ((textField "wolf_id").pair <| (textField "target_id").pair <| (textField "cause").pair <|
      (flagField "unstoppable").pair <| (textField "source_action").pair <| phaseField "phase_id")

/-- `InnerEvent::WolfCarryQueued`. -/
def wolfCarryQueuedCodec : Codec Json (SlotId × Tag × String × RoleKey × PhaseId) :=
  variant ((textField "owner_id").pair <| (textField "token_id").pair <| (textField "cause").pair <|
      (textField "role_key").pair <| phaseField "phase_id")

/-- `InnerEvent::WolfCarryUsed`. -/
def wolfCarryUsedCodec : Codec Json (SlotId × SlotId × String × String × RoleKey × PhaseId) :=
  variant ((textField "owner_id").pair <| (textField "target_id").pair <|
      (textField "source_action_id").pair <| (textField "effect_id").pair <| (textField "role_key").pair <|
      phaseField "phase_id")

/-- `InnerEvent::WolfBeautyMarked`. -/
def wolfBeautyMarkedCodec : Codec Json (SlotId × SlotId × Tag × String × PhaseId) :=
  variant ((textField "beauty_id").pair <| (textField "target_id").pair <| (textField "effect").pair <|
      (textField "source_action").pair <| phaseField "phase_id")

/-- `InnerEvent::WolfBeautyDragged`. -/
def wolfBeautyDraggedCodec : Codec Json (SlotId × List SlotId × String × PhaseId) :=
  variant ((textField "beauty_id").pair <| (textsField "dragged_ids").pair <| (textField "cause").pair <|
      phaseField "phase_id")

/-- `InnerEvent::ItaSessionOpened`. -/
def itaSessionOpenedCodec : Codec Json (String × Option String × Option Nat × Option String × String ×
    PhaseId) :=
  variant ((textField "session_id").pair <| (nullableText "label").pair <| (nullableNat "day" 32).pair <|
      (nullableText "window").pair <| (textField "status").pair <| phaseField "phase_id")

/-- `InnerEvent::ItaSessionLifecycleChanged`. -/
def itaSessionLifecycleChangedCodec : Codec Json (String × ItaSessionControlKind × String × String ×
    Option String × Nat × PhaseId) :=
  variant ((textField "session_id").pair <| (required "control" itaSessionControlKindCodec).pair <|
      (textField "from_status").pair <| (textField "to_status").pair <| (presentText "message").pair <|
      (natField "recorded_at" 64).pair <| phaseField "phase_id")

/-- `InnerEvent::ItaSessionAnnouncement`. -/
def itaSessionAnnouncementCodec : Codec Json (String × String × Option String × Nat × PhaseId) :=
  variant ((textField "session_id").pair <| (textField "status").pair <| (presentText "message").pair <|
      (natField "recorded_at" 64).pair <| phaseField "phase_id")

/-- `InnerEvent::ItaShotQueued`. -/
def itaShotQueuedCodec : Codec Json (String × String × SlotId × List SlotId × Nat × Nat × Nat × Nat ×
    ItaCountersParts) :=
  variant ((textField "session_id").pair <| (textField "action_id").pair <| (textField "actor").pair <|
      (textsField "targets").pair <| (natField "submitted_at" 64).pair <|
      (natField "queue_position" 32).pair <| (natField "queue_length" 32).pair <|
      (natField "previous_queue_length" 32).pair <| required "counters" itaCountersCodec)

/-- `InnerEvent::ItaShotBuffered`. -/
def itaShotBufferedCodec : Codec Json (String × String × String × SlotId × List SlotId × Nat × Nat × Nat) :=
  variant ((textField "session_id").pair <| (textField "action_id").pair <|
      (textField "template_id").pair <| (textField "actor_id").pair <| (textsField "targets").pair <|
      (natField "submitted_at" 64).pair <| (natField "release_at" 64).pair <| natField "delay_ms" 64)

/-- `InnerEvent::ItaShotInvalidated`. -/
def itaShotInvalidatedCodec : Codec Json (String × String × SlotId × SlotId × String × Option String ×
    Nat × Nat) :=
  variant ((textField "session_id").pair <| (textField "action_id").pair <| (textField "actor_id").pair <|
      (textField "target_id").pair <| (textField "reason").pair <| (presentText "invalidated_by").pair <|
      (natField "submitted_at" 64).pair <| natField "timestamp" 64)

/-- `InnerEvent::ItaShotResolved`. -/
def itaShotResolvedCodec : Codec Json (String × String × SlotId × SlotId × ItaShotOutcome × F × F ×
    Bool × Option Nat × Option Nat × Bool × Option Nat × Option Nat × Option String × Nat × Nat ×
    ItaCountersParts) :=
  variant ((textField "session_id").pair <| (textField "action_id").pair <| (textField "actor").pair <|
      (textField "target").pair <| (required "outcome" itaShotOutcomeCodec).pair <|
      (floatField "hit_chance").pair <| (floatField "roll").pair <| (flagField "kill").pair <|
      (presentNat "shield_before" 32).pair <| (presentNat "shield_after" 32).pair <|
      (raisedFlag "shield_spent").pair <| (presentNat "hp_before" 32).pair <|
      (presentNat "hp_after" 32).pair <| (presentText "protection_path").pair <|
      (natField "submitted_at" 64).pair <| (natField "timestamp" 64).pair <|
      required "counters" itaCountersCodec)

/-- `InnerEvent::ItaShotRefunded`. -/
def itaShotRefundedCodec : Codec Json (String × String × SlotId × SlotId × String × Option String ×
    Option F × Option F × Option Nat × Option Nat × Option String × Nat × Nat × ItaCountersParts) :=
  variant ((textField "session_id").pair <| (textField "action_id").pair <| (textField "actor_id").pair <|
      (textField "target_id").pair <| (textField "reason").pair <| (presentText "policy").pair <|
      (presentFloat "hit_chance").pair <| (presentFloat "roll").pair <| (presentNat "hp_before" 32).pair <|
      (presentNat "hp_after" 32).pair <| (presentText "protection_path").pair <|
      (natField "submitted_at" 64).pair <| (natField "timestamp" 64).pair <|
      required "counters" itaCountersCodec)

/-- `InnerEvent::ItaSessionUpdated`. -/
def itaSessionUpdatedCodec : Codec Json (String × Nat × Int × Nat × Nat × ItaCountersParts × PhaseId) :=
  variant ((textField "session_id").pair <| (natField "queue_length" 32).pair <|
      (required "queue_delta" i32).pair <| (natField "shots_resolved" 32).pair <|
      (natField "global_shots_fired" 32).pair <| (required "counters" itaCountersCodec).pair <|
      phaseField "phase_id")

/-- `InnerEvent::ItaSessionClosed`. -/
def itaSessionClosedCodec : Codec Json (String × String × PhaseId) :=
  variant ((textField "session_id").pair <| (textField "last_status").pair <| phaseField "phase_id")

/-- `InnerEvent::PlayersLinked`. -/
def playersLinkedCodec : Codec Json (String × List SlotId × SlotId) :=
  variant ((textField "link_id").pair <| (textsField "slots").pair <| textField "source")

/-- `InnerEvent::RetaliationArmed`. -/
def retaliationArmedCodec : Codec Json (String × SlotId × SlotId × String) :=
  variant ((textField "retaliation_id").pair <| (textField "actor").pair <| (textField "target").pair <|
      textField "source_action")

/-- `InnerEvent::BackupTargeted`. -/
def backupTargetedCodec : Codec Json (SlotId × SlotId × RoleKey × String × PhaseId) :=
  variant ((textField "backup").pair <| (textField "source_target").pair <|
      (textField "source_role").pair <| (textField "source_action").pair <| phaseField "phase_id")

/-- `InnerEvent::TargetLynchWinTargeted`. -/
def targetLynchWinTargetedCodec : Codec Json (String × SlotId × SlotId × Tag × String × PhaseId) :=
  variant ((textField "policy").pair <| (textField "owner").pair <| (textField "target").pair <|
      (textField "effect").pair <| (textField "source_action").pair <| phaseField "phase_id")

/-- `InnerEvent::DelayedDeathQueued`. -/
def delayedDeathQueuedCodec : Codec Json (String × SlotId × String × Tag × SlotId × String × PhaseId) :=
  variant ((textField "queue_id").pair <| (textField "target").pair <| (textField "cause").pair <|
      (textField "effect").pair <| (textField "source").pair <| (textField "source_action").pair <|
      phaseField "phase_id")

/-- `InnerEvent::DelayedDeathResolved`. -/
def delayedDeathResolvedCodec : Codec Json (String × SlotId × String × Tag × String × PhaseId) :=
  variant ((textField "queue_id").pair <| (textField "target").pair <| (textField "cause").pair <|
      (textField "effect").pair <| (textField "outcome").pair <| phaseField "phase_id")

/-- `InnerEvent::VisitRecorded`. -/
def visitRecordedCodec : Codec Json (SlotId × SlotId × String × String × PhaseId × Bool) :=
  variant ((textField "actor").pair <| (textField "target").pair <| (textField "template_id").pair <|
      (textField "source_action").pair <| (phaseField "phase_id").pair <| flagField "visible")

/-- `InnerEvent::InvestigationResult`. -/
def investigationResultCodec : Codec Json (InvestigateMode × SlotId × SlotId × InvestigationResultBody) :=
  variant ((required "mode" investigateModeCodec).pair <| (textField "investigator").pair <|
      (textField "target").pair <| required "result" investigationBodyCodec)

/-- `InnerEvent::InfoResult`. -/
def infoResultCodec : Codec Json (SlotId × SlotId × String × List SlotId × Json × String × String ×
    PhaseId) :=
  variant ((textField "actor").pair <| (textField "target").pair <| (textField "kind").pair <|
      (textsField "audience").pair <| (required "result" Codec.raw).pair <|
      (textField "source_action").pair <| (textField "template_id").pair <| phaseField "phase_id")

/-- `InnerEvent::InvestigationMemoryRecorded`. -/
def investigationMemoryRecordedCodec : Codec Json (SlotId × SlotId × InvestigateMode ×
    ResultMemoryScope × InvestigationResultBody × String × String × PhaseId) :=
  variant ((textField "investigator").pair <| (textField "target").pair <|
      (required "mode" investigateModeCodec).pair <| (scopeField "scope").pair <|
      (required "result" investigationBodyCodec).pair <| (textField "source_action").pair <|
      (textField "template_id").pair <| phaseField "phase_id")

/-- `InnerEvent::AlignmentRevealed`. -/
def alignmentRevealedCodec : Codec Json (SlotId × AlignmentKey × String × PhaseId) :=
  variant ((textField "slot_id").pair <| (textField "alignment").pair <| (textField "source_action").pair <|
      phaseField "phase_id")

/-- `InnerEvent::RoleRevealed`. -/
def roleRevealedCodec : Codec Json (SlotId × RoleKey × String × PhaseId) :=
  variant ((textField "slot_id").pair <| (textField "role_key").pair <| (textField "source_action").pair <|
      phaseField "phase_id")

/-- `InnerEvent::VoteDuelDeclared`. -/
def voteDuelDeclaredCodec : Codec Json (SlotId × SlotId × String × PhaseId) :=
  variant ((textField "challenger").pair <| (textField "target").pair <| (textField "source_action").pair <|
      phaseField "phase_id")

/-- `InnerEvent::EffectNotification`. -/
def effectNotificationCodec : Codec Json (Tag × String × List SlotId × Option PhaseId) :=
  variant ((textField "effect").pair <| (textField "status").pair <| (textsField "audience").pair <|
      presentPhase "phase_id")

/-- `InnerEvent::ActionIngestHalted`. -/
def actionIngestHaltedCodec : Codec Json (String × SlotId × Option RoleKey × String × List SlotId ×
    PhaseId × String × Option String) :=
  variant ((textField "action_id").pair <| (textField "actor").pair <| (presentText "actor_role").pair <|
      (textField "template_id").pair <| (textsField "targets").pair <| (phaseField "phase_id").pair <|
      (textField "reason").pair <| presentText "grant_id")

/-- `InnerEvent::ActionInterfered`. -/
def actionInterferedCodec : Codec Json (SlotId × String) :=
  variant ((textField "actor").pair <| textField "reason")

/-- `InnerEvent::ActionRecorded`. -/
def actionRecordedCodec : Codec Json (SlotId × String × List SlotId × PhaseId × String) :=
  variant ((textField "actor").pair <| (textField "template_id").pair <| (textsField "targets").pair <|
      (phaseField "phase_id").pair <| textField "status")

/-- `InnerEvent::Trigger`. -/
def triggerCodec : Codec Json (String × TriggerPayload) :=
  variant ((textField "trigger_id").pair <| required "payload" triggerPayloadCodec)

/-- `InnerEvent::WinReached`. -/
def winReachedCodec : Codec Json (String × String × Option WinReachedMetadata) :=
  variant ((textField "winner").pair <| (textField "reason").pair <| metadataField "metadata")

end Variants

/-- The variants of `InnerEvent`. -/
inductive InnerEventKind where
  | dayVoteRecorded | dayVoteOutcome | voteVetoed | dayAnnouncement | lastWordsRecorded
  | hostPromptIssued | phaseAnnouncement | playerKilled | slotStatusTagged | playerSaved | playerConverted
  | conversionBlocked | effectsMarked | effectsCleared | actionGranted | actionGrantConsumed
  | actionUseCounted | badgeChanged | duelResolved | wolfSelfDestructed | wolfCarryQueued | wolfCarryUsed
  | wolfBeautyMarked | wolfBeautyDragged | itaSessionOpened | itaSessionLifecycleChanged
  | itaSessionAnnouncement | itaShotQueued | itaShotBuffered | itaShotInvalidated | itaShotResolved
  | itaShotRefunded | itaSessionUpdated | itaSessionClosed | playersLinked | retaliationArmed
  | backupTargeted | targetLynchWinTargeted | delayedDeathQueued | delayedDeathResolved | visitRecorded
  | investigationResult | infoResult | investigationMemoryRecorded | alignmentRevealed | roleRevealed
  | voteDuelDeclared | effectNotification | actionIngestHalted | actionInterfered | actionRecorded
  | trigger | winReached
  deriving DecidableEq

namespace InnerEventKind

/-- All of them, in the order of the Rust enum. -/
def all : List InnerEventKind :=
  [.dayVoteRecorded, .dayVoteOutcome, .voteVetoed, .dayAnnouncement, .lastWordsRecorded,
    .hostPromptIssued, .phaseAnnouncement, .playerKilled, .slotStatusTagged, .playerSaved,
    .playerConverted, .conversionBlocked, .effectsMarked, .effectsCleared, .actionGranted,
    .actionGrantConsumed, .actionUseCounted, .badgeChanged, .duelResolved, .wolfSelfDestructed,
    .wolfCarryQueued, .wolfCarryUsed, .wolfBeautyMarked, .wolfBeautyDragged, .itaSessionOpened,
    .itaSessionLifecycleChanged, .itaSessionAnnouncement, .itaShotQueued, .itaShotBuffered,
    .itaShotInvalidated, .itaShotResolved, .itaShotRefunded, .itaSessionUpdated, .itaSessionClosed,
    .playersLinked, .retaliationArmed, .backupTargeted, .targetLynchWinTargeted, .delayedDeathQueued,
    .delayedDeathResolved, .visitRecorded, .investigationResult, .infoResult,
    .investigationMemoryRecorded, .alignmentRevealed, .roleRevealed, .voteDuelDeclared,
    .effectNotification, .actionIngestHalted, .actionInterfered, .actionRecorded, .trigger, .winReached]

/-- The tag of a variant. -/
def name : InnerEventKind → String
  | .dayVoteRecorded => "DayVoteRecorded"
  | .dayVoteOutcome => "DayVoteOutcome"
  | .voteVetoed => "VoteVetoed"
  | .dayAnnouncement => "DayAnnouncement"
  | .lastWordsRecorded => "LastWordsRecorded"
  | .hostPromptIssued => "HostPromptIssued"
  | .phaseAnnouncement => "PhaseAnnouncement"
  | .playerKilled => "PlayerKilled"
  | .slotStatusTagged => "SlotStatusTagged"
  | .playerSaved => "PlayerSaved"
  | .playerConverted => "PlayerConverted"
  | .conversionBlocked => "ConversionBlocked"
  | .effectsMarked => "EffectsMarked"
  | .effectsCleared => "EffectsCleared"
  | .actionGranted => "ActionGranted"
  | .actionGrantConsumed => "ActionGrantConsumed"
  | .actionUseCounted => "ActionUseCounted"
  | .badgeChanged => "BadgeChanged"
  | .duelResolved => "DuelResolved"
  | .wolfSelfDestructed => "WolfSelfDestructed"
  | .wolfCarryQueued => "WolfCarryQueued"
  | .wolfCarryUsed => "WolfCarryUsed"
  | .wolfBeautyMarked => "WolfBeautyMarked"
  | .wolfBeautyDragged => "WolfBeautyDragged"
  | .itaSessionOpened => "ItaSessionOpened"
  | .itaSessionLifecycleChanged => "ItaSessionLifecycleChanged"
  | .itaSessionAnnouncement => "ItaSessionAnnouncement"
  | .itaShotQueued => "ItaShotQueued"
  | .itaShotBuffered => "ItaShotBuffered"
  | .itaShotInvalidated => "ItaShotInvalidated"
  | .itaShotResolved => "ItaShotResolved"
  | .itaShotRefunded => "ItaShotRefunded"
  | .itaSessionUpdated => "ItaSessionUpdated"
  | .itaSessionClosed => "ItaSessionClosed"
  | .playersLinked => "PlayersLinked"
  | .retaliationArmed => "RetaliationArmed"
  | .backupTargeted => "BackupTargeted"
  | .targetLynchWinTargeted => "TargetLynchWinTargeted"
  | .delayedDeathQueued => "DelayedDeathQueued"
  | .delayedDeathResolved => "DelayedDeathResolved"
  | .visitRecorded => "VisitRecorded"
  | .investigationResult => "InvestigationResult"
  | .infoResult => "InfoResult"
  | .investigationMemoryRecorded => "InvestigationMemoryRecorded"
  | .alignmentRevealed => "AlignmentRevealed"
  | .roleRevealed => "RoleRevealed"
  | .voteDuelDeclared => "VoteDuelDeclared"
  | .effectNotification => "EffectNotification"
  | .actionIngestHalted => "ActionIngestHalted"
  | .actionInterfered => "ActionInterfered"
  | .actionRecorded => "ActionRecorded"
  | .trigger => "Trigger"
  | .winReached => "WinReached"

/-- The variant of a tag. -/
def parse (tag : String) : Option InnerEventKind := all.find? (·.name == tag)

theorem parse_name (kind : InnerEventKind) : parse kind.name = some kind := by
  have hmem : kind ∈ all := by cases kind <;> decide
  have hnames : (all.map name).Nodup := by decide
  exact find?_key_of_nodup name hnames hmem

end InnerEventKind

namespace InnerEvent

variable {F : Type}

/-- The variant of an event. -/
def kind : InnerEvent F → InnerEventKind
  | .dayVoteRecorded .. => .dayVoteRecorded
  | .dayVoteOutcome .. => .dayVoteOutcome
  | .voteVetoed .. => .voteVetoed
  | .dayAnnouncement .. => .dayAnnouncement
  | .lastWordsRecorded .. => .lastWordsRecorded
  | .hostPromptIssued .. => .hostPromptIssued
  | .phaseAnnouncement .. => .phaseAnnouncement
  | .playerKilled .. => .playerKilled
  | .slotStatusTagged .. => .slotStatusTagged
  | .playerSaved .. => .playerSaved
  | .playerConverted .. => .playerConverted
  | .conversionBlocked .. => .conversionBlocked
  | .effectsMarked .. => .effectsMarked
  | .effectsCleared .. => .effectsCleared
  | .actionGranted .. => .actionGranted
  | .actionGrantConsumed .. => .actionGrantConsumed
  | .actionUseCounted .. => .actionUseCounted
  | .badgeChanged .. => .badgeChanged
  | .duelResolved .. => .duelResolved
  | .wolfSelfDestructed .. => .wolfSelfDestructed
  | .wolfCarryQueued .. => .wolfCarryQueued
  | .wolfCarryUsed .. => .wolfCarryUsed
  | .wolfBeautyMarked .. => .wolfBeautyMarked
  | .wolfBeautyDragged .. => .wolfBeautyDragged
  | .itaSessionOpened .. => .itaSessionOpened
  | .itaSessionLifecycleChanged .. => .itaSessionLifecycleChanged
  | .itaSessionAnnouncement .. => .itaSessionAnnouncement
  | .itaShotQueued .. => .itaShotQueued
  | .itaShotBuffered .. => .itaShotBuffered
  | .itaShotInvalidated .. => .itaShotInvalidated
  | .itaShotResolved .. => .itaShotResolved
  | .itaShotRefunded .. => .itaShotRefunded
  | .itaSessionUpdated .. => .itaSessionUpdated
  | .itaSessionClosed .. => .itaSessionClosed
  | .playersLinked .. => .playersLinked
  | .retaliationArmed .. => .retaliationArmed
  | .backupTargeted .. => .backupTargeted
  | .targetLynchWinTargeted .. => .targetLynchWinTargeted
  | .delayedDeathQueued .. => .delayedDeathQueued
  | .delayedDeathResolved .. => .delayedDeathResolved
  | .visitRecorded .. => .visitRecorded
  | .investigationResult .. => .investigationResult
  | .infoResult .. => .infoResult
  | .investigationMemoryRecorded .. => .investigationMemoryRecorded
  | .alignmentRevealed .. => .alignmentRevealed
  | .roleRevealed .. => .roleRevealed
  | .voteDuelDeclared .. => .voteDuelDeclared
  | .effectNotification .. => .effectNotification
  | .actionIngestHalted .. => .actionIngestHalted
  | .actionInterfered .. => .actionInterfered
  | .actionRecorded .. => .actionRecorded
  | .trigger .. => .trigger
  | .winReached .. => .winReached

end InnerEvent

/-- How a variant is stored: its fields, and the event they make. -/
structure Variant (F : Type) where
  Fields : Type
  codec : Codec Json Fields
  make : Fields → InnerEvent F

section Variants

variable {F : Type} [Float64 F] [JsonFloat F]

/-- The variants of `InnerEvent`. -/
def InnerEventKind.variant : InnerEventKind → Variant F
  | .dayVoteRecorded =>
    ⟨_, dayVoteRecordedCodec, fun (actor, target, withdrawn, sequence) => .dayVoteRecorded actor target
      withdrawn sequence⟩
  | .dayVoteOutcome => ⟨_, dayVoteOutcomeCodec, fun parts => .dayVoteOutcome (.ofParts parts)⟩
  | .voteVetoed =>
    ⟨_, voteVetoedCodec, fun (governor, target, sourceAction, phaseId) => .voteVetoed governor target
      sourceAction phaseId⟩
  | .dayAnnouncement => ⟨_, dayAnnouncementCodec, .dayAnnouncement⟩
  | .lastWordsRecorded => ⟨_, lastWordsRecordedCodec, fun parts => .lastWordsRecorded (.ofParts parts)⟩
  | .hostPromptIssued => ⟨_, hostPromptIssuedCodec, .hostPromptIssued⟩
  | .phaseAnnouncement => ⟨_, phaseAnnouncementCodec, .phaseAnnouncement⟩
  | .playerKilled =>
    ⟨_, playerKilledCodec, fun (slotId, cause, attackers, unstoppable, deathReveal) => .playerKilled
      slotId cause attackers unstoppable deathReveal⟩
  | .slotStatusTagged =>
    ⟨_, slotStatusTaggedCodec, fun (slotId, tag, source) => .slotStatusTagged slotId tag source⟩
  | .playerSaved =>
    ⟨_, playerSavedCodec, fun (slotId, reasons, sources) => .playerSaved slotId reasons sources⟩
  | .playerConverted =>
    ⟨_, playerConvertedCodec, fun (target, newRole, newAlignment, originalRole, originalAlignment, source)
      => .playerConverted target newRole newAlignment originalRole originalAlignment source⟩
  | .conversionBlocked =>
    ⟨_, conversionBlockedCodec, fun (target, status, reason) => .conversionBlocked target status reason⟩
  | .effectsMarked =>
    ⟨_, effectsMarkedCodec, fun (effect, target, actor, sourceAction, phaseId, duration, visibility) =>
      .effectsMarked effect target actor sourceAction phaseId duration visibility⟩
  | .effectsCleared =>
    ⟨_, effectsClearedCodec, fun (effect, targets, actor, sourceAction, phaseId) => .effectsCleared effect
      targets actor sourceAction phaseId⟩
  | .actionGranted =>
    ⟨_, actionGrantedCodec, fun (grantId, grantOption, kind, actor, target, sourceAction, uses,
      voteWeight, phaseId) => .actionGranted grantId grantOption kind actor target sourceAction uses
      voteWeight phaseId⟩
  | .actionGrantConsumed =>
    ⟨_, actionGrantConsumedCodec, fun (grantId, actor, actionId, sourceAction, phaseId, remainingUses) =>
      .actionGrantConsumed grantId actor actionId sourceAction phaseId remainingUses⟩
  | .actionUseCounted =>
    ⟨_, actionUseCountedCodec, fun (counterId, actor, templateId, consumedAction, cadencePolicy,
      phaseScope, limit, used, remaining, phaseId) => .actionUseCounted counterId actor templateId
      consumedAction cadencePolicy phaseScope limit used remaining phaseId⟩
  | .badgeChanged =>
    ⟨_, badgeChangedCodec, fun (badgeId, owner, previousOwner, voteWeight, actor, sourceAction, reason,
      destroyed, phaseId) => .badgeChanged badgeId owner previousOwner voteWeight actor sourceAction
      reason destroyed phaseId⟩
  | .duelResolved =>
    ⟨_, duelResolvedCodec, fun (knight, target, result, killed, sourceAction, phaseId) => .duelResolved
      knight target result killed sourceAction phaseId⟩
  | .wolfSelfDestructed =>
    ⟨_, wolfSelfDestructedCodec, fun (wolfId, targetId, cause, unstoppable, sourceAction, phaseId) =>
      .wolfSelfDestructed wolfId targetId cause unstoppable sourceAction phaseId⟩
  | .wolfCarryQueued =>
    ⟨_, wolfCarryQueuedCodec, fun (ownerId, tokenId, cause, roleKey, phaseId) => .wolfCarryQueued ownerId
      tokenId cause roleKey phaseId⟩
  | .wolfCarryUsed =>
    ⟨_, wolfCarryUsedCodec, fun (ownerId, targetId, sourceActionId, effectId, roleKey, phaseId) =>
      .wolfCarryUsed ownerId targetId sourceActionId effectId roleKey phaseId⟩
  | .wolfBeautyMarked =>
    ⟨_, wolfBeautyMarkedCodec, fun (beautyId, targetId, effect, sourceAction, phaseId) =>
      .wolfBeautyMarked beautyId targetId effect sourceAction phaseId⟩
  | .wolfBeautyDragged =>
    ⟨_, wolfBeautyDraggedCodec, fun (beautyId, draggedIds, cause, phaseId) => .wolfBeautyDragged beautyId
      draggedIds cause phaseId⟩
  | .itaSessionOpened =>
    ⟨_, itaSessionOpenedCodec, fun (sessionId, label, day, window, status, phaseId) => .itaSessionOpened
      sessionId label day window status phaseId⟩
  | .itaSessionLifecycleChanged =>
    ⟨_, itaSessionLifecycleChangedCodec, fun (sessionId, control, fromStatus, toStatus, message,
      recordedAt, phaseId) => .itaSessionLifecycleChanged sessionId control fromStatus toStatus message
      recordedAt phaseId⟩
  | .itaSessionAnnouncement =>
    ⟨_, itaSessionAnnouncementCodec, fun (sessionId, status, message, recordedAt, phaseId) =>
      .itaSessionAnnouncement sessionId status message recordedAt phaseId⟩
  | .itaShotQueued =>
    ⟨_, itaShotQueuedCodec, fun (sessionId, actionId, actor, targets, submittedAt, queuePosition,
      queueLength, previousQueueLength, counters) => .itaShotQueued sessionId actionId actor targets
      submittedAt queuePosition queueLength previousQueueLength (.ofParts counters)⟩
  | .itaShotBuffered =>
    ⟨_, itaShotBufferedCodec, fun (sessionId, actionId, templateId, actorId, targets, submittedAt,
      releaseAt, delayMs) => .itaShotBuffered sessionId actionId templateId actorId targets submittedAt
      releaseAt delayMs⟩
  | .itaShotInvalidated =>
    ⟨_, itaShotInvalidatedCodec, fun (sessionId, actionId, actorId, targetId, reason, invalidatedBy,
      submittedAt, timestamp) => .itaShotInvalidated sessionId actionId actorId targetId reason
      invalidatedBy submittedAt timestamp⟩
  | .itaShotResolved =>
    ⟨_, itaShotResolvedCodec, fun (sessionId, actionId, actor, target, outcome, hitChance, roll, kill,
      shieldBefore, shieldAfter, shieldSpent, hpBefore, hpAfter, protectionPath, submittedAt, timestamp,
      counters) => .itaShotResolved sessionId actionId actor target outcome hitChance roll kill
      shieldBefore shieldAfter shieldSpent hpBefore hpAfter protectionPath submittedAt timestamp
      (.ofParts counters)⟩
  | .itaShotRefunded =>
    ⟨_, itaShotRefundedCodec, fun (sessionId, actionId, actorId, targetId, reason, policy, hitChance,
      roll, hpBefore, hpAfter, protectionPath, submittedAt, timestamp, counters) => .itaShotRefunded
      sessionId actionId actorId targetId reason policy hitChance roll hpBefore hpAfter protectionPath
      submittedAt timestamp (.ofParts counters)⟩
  | .itaSessionUpdated =>
    ⟨_, itaSessionUpdatedCodec, fun (sessionId, queueLength, queueDelta, shotsResolved, globalShotsFired,
      counters, phaseId) => .itaSessionUpdated sessionId queueLength queueDelta shotsResolved
      globalShotsFired (.ofParts counters) phaseId⟩
  | .itaSessionClosed =>
    ⟨_, itaSessionClosedCodec, fun (sessionId, lastStatus, phaseId) => .itaSessionClosed sessionId
      lastStatus phaseId⟩
  | .playersLinked =>
    ⟨_, playersLinkedCodec, fun (linkId, slots, source) => .playersLinked linkId slots source⟩
  | .retaliationArmed =>
    ⟨_, retaliationArmedCodec, fun (retaliationId, actor, target, sourceAction) => .retaliationArmed
      retaliationId actor target sourceAction⟩
  | .backupTargeted =>
    ⟨_, backupTargetedCodec, fun (backup, sourceTarget, sourceRole, sourceAction, phaseId) =>
      .backupTargeted backup sourceTarget sourceRole sourceAction phaseId⟩
  | .targetLynchWinTargeted =>
    ⟨_, targetLynchWinTargetedCodec, fun (policy, owner, target, effect, sourceAction, phaseId) =>
      .targetLynchWinTargeted policy owner target effect sourceAction phaseId⟩
  | .delayedDeathQueued =>
    ⟨_, delayedDeathQueuedCodec, fun (queueId, target, cause, effect, source, sourceAction, phaseId) =>
      .delayedDeathQueued queueId target cause effect source sourceAction phaseId⟩
  | .delayedDeathResolved =>
    ⟨_, delayedDeathResolvedCodec, fun (queueId, target, cause, effect, outcome, phaseId) =>
      .delayedDeathResolved queueId target cause effect outcome phaseId⟩
  | .visitRecorded =>
    ⟨_, visitRecordedCodec, fun (actor, target, templateId, sourceAction, phaseId, visible) =>
      .visitRecorded actor target templateId sourceAction phaseId visible⟩
  | .investigationResult =>
    ⟨_, investigationResultCodec, fun (mode, investigator, target, result) => .investigationResult mode
      investigator target result⟩
  | .infoResult =>
    ⟨_, infoResultCodec, fun (actor, target, kind, audience, result, sourceAction, templateId, phaseId) =>
      .infoResult actor target kind audience result sourceAction templateId phaseId⟩
  | .investigationMemoryRecorded =>
    ⟨_, investigationMemoryRecordedCodec, fun (investigator, target, mode, scope, result, sourceAction,
      templateId, phaseId) => .investigationMemoryRecorded investigator target mode scope result
      sourceAction templateId phaseId⟩
  | .alignmentRevealed =>
    ⟨_, alignmentRevealedCodec, fun (slotId, alignment, sourceAction, phaseId) => .alignmentRevealed
      slotId alignment sourceAction phaseId⟩
  | .roleRevealed =>
    ⟨_, roleRevealedCodec, fun (slotId, roleKey, sourceAction, phaseId) => .roleRevealed slotId roleKey
      sourceAction phaseId⟩
  | .voteDuelDeclared =>
    ⟨_, voteDuelDeclaredCodec, fun (challenger, target, sourceAction, phaseId) => .voteDuelDeclared
      challenger target sourceAction phaseId⟩
  | .effectNotification =>
    ⟨_, effectNotificationCodec, fun (effect, status, audience, phaseId) => .effectNotification effect
      status audience phaseId⟩
  | .actionIngestHalted =>
    ⟨_, actionIngestHaltedCodec, fun (actionId, actor, actorRole, templateId, targets, phaseId, reason,
      grantId) => .actionIngestHalted actionId actor actorRole templateId targets phaseId reason grantId⟩
  | .actionInterfered => ⟨_, actionInterferedCodec, fun (actor, reason) => .actionInterfered actor reason⟩
  | .actionRecorded =>
    ⟨_, actionRecordedCodec, fun (actor, templateId, targets, phaseId, status) => .actionRecorded actor
      templateId targets phaseId status⟩
  | .trigger => ⟨_, triggerCodec, fun (triggerId, payload) => .trigger triggerId payload⟩
  | .winReached =>
    ⟨_, winReachedCodec, fun (winner, reason, metadata) => .winReached winner reason metadata⟩

namespace InnerEvent

/-- The fields of an event, its maps as their entries. -/
def fields : (event : InnerEvent F) → (event.kind.variant (F := F)).Fields
  | .dayVoteRecorded actor target withdrawn sequence => (actor, target, withdrawn, sequence)
  | .dayVoteOutcome outcome => outcome.parts
  | .voteVetoed governor target sourceAction phaseId => (governor, target, sourceAction, phaseId)
  | .dayAnnouncement announcement => announcement
  | .lastWordsRecorded words => words.parts
  | .hostPromptIssued prompt => prompt
  | .phaseAnnouncement announcement => announcement
  | .playerKilled slotId cause attackers unstoppable deathReveal =>
    (slotId, cause, attackers, unstoppable, deathReveal)
  | .slotStatusTagged slotId tag source => (slotId, tag, source)
  | .playerSaved slotId reasons sources => (slotId, reasons, sources)
  | .playerConverted target newRole newAlignment originalRole originalAlignment source =>
    (target, newRole, newAlignment, originalRole, originalAlignment, source)
  | .conversionBlocked target status reason => (target, status, reason)
  | .effectsMarked effect target actor sourceAction phaseId duration visibility =>
    (effect, target, actor, sourceAction, phaseId, duration, visibility)
  | .effectsCleared effect targets actor sourceAction phaseId =>
    (effect, targets, actor, sourceAction, phaseId)
  | .actionGranted grantId grantOption kind actor target sourceAction uses voteWeight phaseId =>
    (grantId, grantOption, kind, actor, target, sourceAction, uses, voteWeight, phaseId)
  | .actionGrantConsumed grantId actor actionId sourceAction phaseId remainingUses =>
    (grantId, actor, actionId, sourceAction, phaseId, remainingUses)
  | .actionUseCounted counterId actor templateId consumedAction cadencePolicy phaseScope limit used
      remaining phaseId =>
    (counterId, actor, templateId, consumedAction, cadencePolicy, phaseScope, limit, used, remaining, phaseId)
  | .badgeChanged badgeId owner previousOwner voteWeight actor sourceAction reason destroyed phaseId =>
    (badgeId, owner, previousOwner, voteWeight, actor, sourceAction, reason, destroyed, phaseId)
  | .duelResolved knight target result killed sourceAction phaseId =>
    (knight, target, result, killed, sourceAction, phaseId)
  | .wolfSelfDestructed wolfId targetId cause unstoppable sourceAction phaseId =>
    (wolfId, targetId, cause, unstoppable, sourceAction, phaseId)
  | .wolfCarryQueued ownerId tokenId cause roleKey phaseId => (ownerId, tokenId, cause, roleKey, phaseId)
  | .wolfCarryUsed ownerId targetId sourceActionId effectId roleKey phaseId =>
    (ownerId, targetId, sourceActionId, effectId, roleKey, phaseId)
  | .wolfBeautyMarked beautyId targetId effect sourceAction phaseId =>
    (beautyId, targetId, effect, sourceAction, phaseId)
  | .wolfBeautyDragged beautyId draggedIds cause phaseId => (beautyId, draggedIds, cause, phaseId)
  | .itaSessionOpened sessionId label day window status phaseId =>
    (sessionId, label, day, window, status, phaseId)
  | .itaSessionLifecycleChanged sessionId control fromStatus toStatus message recordedAt phaseId =>
    (sessionId, control, fromStatus, toStatus, message, recordedAt, phaseId)
  | .itaSessionAnnouncement sessionId status message recordedAt phaseId =>
    (sessionId, status, message, recordedAt, phaseId)
  | .itaShotQueued sessionId actionId actor targets submittedAt queuePosition queueLength
      previousQueueLength counters =>
    (sessionId, actionId, actor, targets, submittedAt, queuePosition, queueLength, previousQueueLength,
      counters.parts)
  | .itaShotBuffered sessionId actionId templateId actorId targets submittedAt releaseAt delayMs =>
    (sessionId, actionId, templateId, actorId, targets, submittedAt, releaseAt, delayMs)
  | .itaShotInvalidated sessionId actionId actorId targetId reason invalidatedBy submittedAt timestamp =>
    (sessionId, actionId, actorId, targetId, reason, invalidatedBy, submittedAt, timestamp)
  | .itaShotResolved sessionId actionId actor target outcome hitChance roll kill shieldBefore shieldAfter
      shieldSpent hpBefore hpAfter protectionPath submittedAt timestamp counters =>
    (sessionId, actionId, actor, target, outcome, hitChance, roll, kill, shieldBefore, shieldAfter,
      shieldSpent, hpBefore, hpAfter, protectionPath, submittedAt, timestamp, counters.parts)
  | .itaShotRefunded sessionId actionId actorId targetId reason policy hitChance roll hpBefore hpAfter
      protectionPath submittedAt timestamp counters =>
    (sessionId, actionId, actorId, targetId, reason, policy, hitChance, roll, hpBefore, hpAfter,
      protectionPath, submittedAt, timestamp, counters.parts)
  | .itaSessionUpdated sessionId queueLength queueDelta shotsResolved globalShotsFired counters phaseId =>
    (sessionId, queueLength, queueDelta, shotsResolved, globalShotsFired, counters.parts, phaseId)
  | .itaSessionClosed sessionId lastStatus phaseId => (sessionId, lastStatus, phaseId)
  | .playersLinked linkId slots source => (linkId, slots, source)
  | .retaliationArmed retaliationId actor target sourceAction =>
    (retaliationId, actor, target, sourceAction)
  | .backupTargeted backup sourceTarget sourceRole sourceAction phaseId =>
    (backup, sourceTarget, sourceRole, sourceAction, phaseId)
  | .targetLynchWinTargeted policy owner target effect sourceAction phaseId =>
    (policy, owner, target, effect, sourceAction, phaseId)
  | .delayedDeathQueued queueId target cause effect source sourceAction phaseId =>
    (queueId, target, cause, effect, source, sourceAction, phaseId)
  | .delayedDeathResolved queueId target cause effect outcome phaseId =>
    (queueId, target, cause, effect, outcome, phaseId)
  | .visitRecorded actor target templateId sourceAction phaseId visible =>
    (actor, target, templateId, sourceAction, phaseId, visible)
  | .investigationResult mode investigator target result => (mode, investigator, target, result)
  | .infoResult actor target kind audience result sourceAction templateId phaseId =>
    (actor, target, kind, audience, result, sourceAction, templateId, phaseId)
  | .investigationMemoryRecorded investigator target mode scope result sourceAction templateId phaseId =>
    (investigator, target, mode, scope, result, sourceAction, templateId, phaseId)
  | .alignmentRevealed slotId alignment sourceAction phaseId => (slotId, alignment, sourceAction, phaseId)
  | .roleRevealed slotId roleKey sourceAction phaseId => (slotId, roleKey, sourceAction, phaseId)
  | .voteDuelDeclared challenger target sourceAction phaseId => (challenger, target, sourceAction, phaseId)
  | .effectNotification effect status audience phaseId => (effect, status, audience, phaseId)
  | .actionIngestHalted actionId actor actorRole templateId targets phaseId reason grantId =>
    (actionId, actor, actorRole, templateId, targets, phaseId, reason, grantId)
  | .actionInterfered actor reason => (actor, reason)
  | .actionRecorded actor templateId targets phaseId status => (actor, templateId, targets, phaseId, status)
  | .trigger triggerId payload => (triggerId, payload)
  | .winReached winner reason metadata => (winner, reason, metadata)

/-- The two keys of an adjacently tagged event. -/
def envelope : Codec Json (String × Json) := closed ((textField "kind").pair <| required "payload" Codec.raw)

/-- `InnerEvent::serialize`. -/
def serialize (event : InnerEvent F) : Json :=
  envelope.write (event.kind.name, event.kind.variant.codec.write event.fields)

/-- `InnerEvent::deserialize`. -/
def deserialize (v : Json) : Option (InnerEvent F) :=
  (envelope.read v).bind fun (tag, payload) =>
    (InnerEventKind.parse tag).bind fun kind => (kind.variant.codec.read payload).map kind.variant.make

end InnerEvent

end Variants

namespace InnerEvent

variable {F : Type}

/-! ## Reading what is written -/

/-- Each map of the event built again from its entries. -/
def rebuilt : InnerEvent F → InnerEvent F
  | .dayVoteOutcome outcome => .dayVoteOutcome (.ofParts outcome.parts)
  | .lastWordsRecorded words => .lastWordsRecorded (.ofParts words.parts)
  | .itaShotQueued sessionId actionId actor targets submittedAt queuePosition queueLength
      previousQueueLength counters =>
    .itaShotQueued sessionId actionId actor targets submittedAt queuePosition queueLength
      previousQueueLength (.ofParts counters.parts)
  | .itaShotResolved sessionId actionId actor target outcome hitChance roll kill shieldBefore shieldAfter
      shieldSpent hpBefore hpAfter protectionPath submittedAt timestamp counters =>
    .itaShotResolved sessionId actionId actor target outcome hitChance roll kill shieldBefore shieldAfter
      shieldSpent hpBefore hpAfter protectionPath submittedAt timestamp (.ofParts counters.parts)
  | .itaShotRefunded sessionId actionId actorId targetId reason policy hitChance roll hpBefore hpAfter
      protectionPath submittedAt timestamp counters =>
    .itaShotRefunded sessionId actionId actorId targetId reason policy hitChance roll hpBefore hpAfter
      protectionPath submittedAt timestamp (.ofParts counters.parts)
  | .itaSessionUpdated sessionId queueLength queueDelta shotsResolved globalShotsFired counters phaseId =>
    .itaSessionUpdated sessionId queueLength queueDelta shotsResolved globalShotsFired
      (.ofParts counters.parts) phaseId
  | event => event

/-- `PartialEq`: maps are equal if their entries are. -/
def Same (a b : InnerEvent F) : Prop := a.rebuilt = b.rebuilt

/-- An investigation result the event carries is not the bag that reads as a Track result. -/
def Unambiguous : InnerEvent F → Prop
  | .investigationResult _ _ _ result => ∀ bag, result = .fields bag → ¬ bag.OnlyVisited
  | .investigationMemoryRecorded _ _ _ _ result _ _ _ => ∀ bag, result = .fields bag → ¬ bag.OnlyVisited
  | _ => True

section Finite

variable [Float64 F]

/-- The integers of the event fit their types, and its floats are finite. -/
def InRange : InnerEvent F → Prop
  | .dayVoteRecorded _ _ _ sequence => sequence < 2 ^ 64
  | .dayVoteOutcome outcome => outcome.InRange
  | .dayAnnouncement announcement => announcement.InRange
  | .lastWordsRecorded words => words.InRange
  | .actionGranted _ _ _ _ _ _ uses voteWeight _ =>
    uses < 2 ^ 16 ∧ ∀ x ∈ voteWeight, Float64.isFinite x = true
  | .actionGrantConsumed _ _ _ _ _ remainingUses => remainingUses < 2 ^ 16
  | .actionUseCounted _ _ _ _ _ _ limit used remaining _ =>
    limit < 2 ^ 16 ∧ used < 2 ^ 16 ∧ remaining < 2 ^ 16
  | .badgeChanged _ _ _ voteWeight _ _ _ _ _ => ∀ x ∈ voteWeight, Float64.isFinite x = true
  | .itaSessionOpened _ _ day _ _ _ => ∀ n ∈ day, n < 2 ^ 32
  | .itaSessionLifecycleChanged _ _ _ _ _ recordedAt _ => recordedAt < 2 ^ 64
  | .itaSessionAnnouncement _ _ _ recordedAt _ => recordedAt < 2 ^ 64
  | .itaShotQueued _ _ _ _ submittedAt queuePosition queueLength previousQueueLength counters =>
    submittedAt < 2 ^ 64 ∧ queuePosition < 2 ^ 32 ∧ queueLength < 2 ^ 32 ∧ previousQueueLength < 2 ^ 32 ∧
      counters.InRange
  | .itaShotBuffered _ _ _ _ _ submittedAt releaseAt delayMs =>
    submittedAt < 2 ^ 64 ∧ releaseAt < 2 ^ 64 ∧ delayMs < 2 ^ 64
  | .itaShotInvalidated _ _ _ _ _ _ submittedAt timestamp => submittedAt < 2 ^ 64 ∧ timestamp < 2 ^ 64
  | .itaShotResolved _ _ _ _ _ hitChance roll _ shieldBefore shieldAfter _ hpBefore hpAfter _ submittedAt
      timestamp counters =>
    Float64.isFinite hitChance = true ∧ Float64.isFinite roll = true ∧ (∀ n ∈ shieldBefore, n < 2 ^ 32) ∧
      (∀ n ∈ shieldAfter, n < 2 ^ 32) ∧ (∀ n ∈ hpBefore, n < 2 ^ 32) ∧ (∀ n ∈ hpAfter, n < 2 ^ 32) ∧
      submittedAt < 2 ^ 64 ∧ timestamp < 2 ^ 64 ∧ counters.InRange
  | .itaShotRefunded _ _ _ _ _ _ hitChance roll hpBefore hpAfter _ submittedAt timestamp counters =>
    (∀ x ∈ hitChance, Float64.isFinite x = true) ∧ (∀ x ∈ roll, Float64.isFinite x = true) ∧
      (∀ n ∈ hpBefore, n < 2 ^ 32) ∧ (∀ n ∈ hpAfter, n < 2 ^ 32) ∧ submittedAt < 2 ^ 64 ∧
      timestamp < 2 ^ 64 ∧ counters.InRange
  | .itaSessionUpdated _ queueLength queueDelta shotsResolved globalShotsFired counters _ =>
    queueLength < 2 ^ 32 ∧ -2 ^ 31 ≤ queueDelta ∧ queueDelta < 2 ^ 31 ∧ shotsResolved < 2 ^ 32 ∧
      globalShotsFired < 2 ^ 32 ∧ counters.InRange
  | _ => True

end Finite

theorem rebuilt_same (event : InnerEvent F) : event.rebuilt.Same event := by
  have hcounters : ∀ counters : ItaCounters, (ItaCounters.ofParts counters.parts).parts = counters.parts :=
    fun counters => by simp [ItaCounters.ofParts, ItaCounters.parts, BTreeMap.toList_ofEntries]
  unfold Same
  cases event with
  | dayVoteOutcome outcome =>
    simp [rebuilt, DayVoteOutcome.ofParts, DayVoteOutcome.parts, BTreeMap.toList_ofEntries]
  | lastWordsRecorded words =>
    simp [rebuilt, LastWordsRecorded.ofParts, LastWordsRecorded.parts, LastWordsVoteSummary.ofParts,
      LastWordsVoteSummary.parts, BTreeMap.toList_ofEntries]
  | itaShotQueued => simp [rebuilt, hcounters]
  | itaShotResolved => simp [rebuilt, hcounters]
  | itaShotRefunded => simp [rebuilt, hcounters]
  | itaSessionUpdated => simp [rebuilt, hcounters]
  | _ => rfl

section Floats

variable [Float64 F] [JsonFloat F]

theorem fields_fit {event : InnerEvent F} (h : event.InRange) (hbody : event.Unambiguous) :
    event.kind.variant.codec.fits event.fields := by
  cases event with
  | dayVoteRecorded => exact ⟨textField_fits _, presentText_fits _, flagField_fits _, natField_fits.2 h⟩
  | dayVoteOutcome => exact dayVoteOutcomeCodec_fits h
  | voteVetoed
  | alignmentRevealed
  | roleRevealed
  | voteDuelDeclared => exact ⟨textField_fits _, textField_fits _, textField_fits _, phaseField_fits _⟩
  | dayAnnouncement => exact dayAnnouncementCodec_fits h
  | lastWordsRecorded => exact lastWordsRecordedCodec_fits h
  | hostPromptIssued => exact hostPromptIssuedCodec_fits _
  | phaseAnnouncement => exact phaseAnnouncementCodec_fits _
  | playerKilled => exact ⟨textField_fits _, textField_fits _, textsField_fits _, flagField_fits _,
      revealField_fits _⟩
  | slotStatusTagged => exact ⟨textField_fits _, textField_fits _, textField_fits _⟩
  | playerSaved => exact ⟨textField_fits _, textsField_fits _, textsField_fits _⟩
  | playerConverted => exact ⟨textField_fits _, textField_fits _, nullableText_fits _, textField_fits _,
      nullableText_fits _, textField_fits _⟩
  | conversionBlocked => exact ⟨textField_fits _, textField_fits _, textField_fits _⟩
  | effectsMarked => exact ⟨textField_fits _, textField_fits _, textField_fits _, presentText_fits _,
      presentPhase_fits _, fun _ => trivial, fun _ => trivial⟩
  | effectsCleared => exact ⟨textField_fits _, textsField_fits _, textField_fits _, presentText_fits _,
      presentPhase_fits _⟩
  | actionGranted => exact ⟨textField_fits _, presentText_fits _, fun _ => trivial, textField_fits _,
      textField_fits _, textField_fits _, natField_fits.2 h.1, presentFloat_fits.2 h.2, phaseField_fits _⟩
  | actionGrantConsumed => exact ⟨textField_fits _, textField_fits _, textField_fits _, textField_fits _,
      phaseField_fits _, natField_fits.2 h⟩
  | actionUseCounted => exact ⟨textField_fits _, textField_fits _, textField_fits _, textField_fits _,
      textField_fits _, textField_fits _, natField_fits.2 h.1, natField_fits.2 h.2.1, natField_fits.2
      h.2.2, phaseField_fits _⟩
  | badgeChanged => exact ⟨textField_fits _, nullableText_fits _, nullableText_fits _,
      nullableFloat_fits.2 h, textField_fits _, textField_fits _, textField_fits _, flagField_fits _,
      phaseField_fits _⟩
  | duelResolved => exact ⟨textField_fits _, textField_fits _, fun _ => trivial, textField_fits _,
      textField_fits _, phaseField_fits _⟩
  | wolfSelfDestructed => exact ⟨textField_fits _, textField_fits _, textField_fits _, flagField_fits _,
      textField_fits _, phaseField_fits _⟩
  | wolfCarryQueued => exact ⟨textField_fits _, textField_fits _, textField_fits _, textField_fits _,
      phaseField_fits _⟩
  | wolfCarryUsed => exact ⟨textField_fits _, textField_fits _, textField_fits _, textField_fits _,
      textField_fits _, phaseField_fits _⟩
  | wolfBeautyMarked => exact ⟨textField_fits _, textField_fits _, textField_fits _, textField_fits _,
      phaseField_fits _⟩
  | wolfBeautyDragged => exact ⟨textField_fits _, textsField_fits _, textField_fits _, phaseField_fits _⟩
  | itaSessionOpened => exact ⟨textField_fits _, nullableText_fits _, nullableNat_fits.2 h,
      nullableText_fits _, textField_fits _, phaseField_fits _⟩
  | itaSessionLifecycleChanged => exact ⟨textField_fits _, fun _ => trivial, textField_fits _,
      textField_fits _, presentText_fits _, natField_fits.2 h, phaseField_fits _⟩
  | itaSessionAnnouncement => exact ⟨textField_fits _, textField_fits _, presentText_fits _,
      natField_fits.2 h, phaseField_fits _⟩
  | itaShotQueued => exact ⟨textField_fits _, textField_fits _, textField_fits _, textsField_fits _,
      natField_fits.2 h.1, natField_fits.2 h.2.1, natField_fits.2 h.2.2.1, natField_fits.2 h.2.2.2.1, fun
      _ => itaCountersCodec_fits h.2.2.2.2⟩
  | itaShotBuffered => exact ⟨textField_fits _, textField_fits _, textField_fits _, textField_fits _,
      textsField_fits _, natField_fits.2 h.1, natField_fits.2 h.2.1, natField_fits.2 h.2.2⟩
  | itaShotInvalidated => exact ⟨textField_fits _, textField_fits _, textField_fits _, textField_fits _,
      textField_fits _, presentText_fits _, natField_fits.2 h.1, natField_fits.2 h.2⟩
  | itaShotResolved => exact ⟨textField_fits _, textField_fits _, textField_fits _, textField_fits _, fun
      _ => trivial, floatField_fits.2 h.1, floatField_fits.2 h.2.1, flagField_fits _, presentNat_fits.2
      h.2.2.1, presentNat_fits.2 h.2.2.2.1, raisedFlag_fits _, presentNat_fits.2 h.2.2.2.2.1,
      presentNat_fits.2 h.2.2.2.2.2.1, presentText_fits _, natField_fits.2 h.2.2.2.2.2.2.1,
      natField_fits.2 h.2.2.2.2.2.2.2.1, fun _ => itaCountersCodec_fits h.2.2.2.2.2.2.2.2⟩
  | itaShotRefunded => exact ⟨textField_fits _, textField_fits _, textField_fits _, textField_fits _,
      textField_fits _, presentText_fits _, presentFloat_fits.2 h.1, presentFloat_fits.2 h.2.1,
      presentNat_fits.2 h.2.2.1, presentNat_fits.2 h.2.2.2.1, presentText_fits _, natField_fits.2
      h.2.2.2.2.1, natField_fits.2 h.2.2.2.2.2.1, fun _ => itaCountersCodec_fits h.2.2.2.2.2.2⟩
  | itaSessionUpdated => exact ⟨textField_fits _, natField_fits.2 h.1, fun _ => ⟨h.2.1, h.2.2.1⟩,
      natField_fits.2 h.2.2.2.1, natField_fits.2 h.2.2.2.2.1, fun _ => itaCountersCodec_fits h.2.2.2.2.2,
      phaseField_fits _⟩
  | itaSessionClosed => exact ⟨textField_fits _, textField_fits _, phaseField_fits _⟩
  | playersLinked => exact ⟨textField_fits _, textsField_fits _, textField_fits _⟩
  | retaliationArmed => exact ⟨textField_fits _, textField_fits _, textField_fits _, textField_fits _⟩
  | backupTargeted => exact ⟨textField_fits _, textField_fits _, textField_fits _, textField_fits _,
      phaseField_fits _⟩
  | targetLynchWinTargeted => exact ⟨textField_fits _, textField_fits _, textField_fits _, textField_fits
      _, textField_fits _, phaseField_fits _⟩
  | delayedDeathQueued => exact ⟨textField_fits _, textField_fits _, textField_fits _, textField_fits _,
      textField_fits _, textField_fits _, phaseField_fits _⟩
  | delayedDeathResolved => exact ⟨textField_fits _, textField_fits _, textField_fits _, textField_fits _,
      textField_fits _, phaseField_fits _⟩
  | visitRecorded => exact ⟨textField_fits _, textField_fits _, textField_fits _, textField_fits _,
      phaseField_fits _, flagField_fits _⟩
  | investigationResult => exact ⟨fun _ => trivial, textField_fits _, textField_fits _, fun _ => hbody⟩
  | infoResult => exact ⟨textField_fits _, textField_fits _, textField_fits _, textsField_fits _, fun _ =>
      trivial, textField_fits _, textField_fits _, phaseField_fits _⟩
  | investigationMemoryRecorded => exact ⟨textField_fits _, textField_fits _, fun _ => trivial,
      scopeField_fits _, fun _ => hbody, textField_fits _, textField_fits _, phaseField_fits _⟩
  | effectNotification => exact ⟨textField_fits _, textField_fits _, textsField_fits _, presentPhase_fits _⟩
  | actionIngestHalted => exact ⟨textField_fits _, textField_fits _, presentText_fits _, textField_fits _,
      textsField_fits _, phaseField_fits _, textField_fits _, presentText_fits _⟩
  | actionInterfered => exact ⟨textField_fits _, textField_fits _⟩
  | actionRecorded => exact ⟨textField_fits _, textField_fits _, textsField_fits _, phaseField_fits _,
      textField_fits _⟩
  | trigger => exact ⟨textField_fits _, fun _ => triggerPayloadCodec_fits _⟩
  | winReached => exact ⟨textField_fits _, textField_fits _, metadataField_fits _⟩

theorem make_fields (event : InnerEvent F) : event.kind.variant.make event.fields = event.rebuilt := by
  cases event <;> rfl

theorem deserialize_serialize {event : InnerEvent F} (h : event.InRange) (hbody : event.Unambiguous) :
    deserialize event.serialize = some event.rebuilt := by
  have henvelope : envelope.read event.serialize =
      some (event.kind.name, event.kind.variant.codec.write event.fields) :=
    envelope.faithful _ ⟨textField_fits _, fun _ => trivial⟩
  unfold deserialize
  rw [henvelope, Option.bind_some]
  dsimp only
  rw [event.kind.parse_name, Option.bind_some, Codec.read_map _ (fields_fit h hbody), make_fields]

end Floats

end InnerEvent

end Fmarch.Domain
