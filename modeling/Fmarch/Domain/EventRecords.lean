import Fmarch.Domain.JsonCodec
import Fmarch.Domain.PhaseText
import Fmarch.Domain.Validate

/-!
# What resolution events carry, in JSON (`events.rs`)

The enumerations and records inside an event, each as `serde` writes and reads it: which keys are left out, which
have a default, and which records admit no others.

An investigation result is untagged: a text, else an object with `visited` alone, else a bag of fields.
**`read_fields`**: so a bag is read as itself, but for the one whose only field is `visited`.
-/

namespace Fmarch.Domain

open JsonCodec Serde Serde.Fields

/-! ## Phases -/

/-- The parts of a stored phase id. -/
def StoredPhaseId.parts (phase : StoredPhaseId) : Option PhaseId :=
  if h : (0 < phase.number.toNat ∧ phase.number.toNat ≤ 2 ^ 31 - 1) ∧
      ∀ attempt ∈ phase.revote.map UInt32.toNat, 0 < attempt ∧ attempt < 2 ^ 32 then
    some { kind := phase.kind, number := phase.number.toNat, revote := phase.revote.map UInt32.toNat,
           number_pos := h.1.1, number_le := h.1.2, revote_range := h.2 }
  else none

theorem PhaseId.parts_stored (phase : PhaseId) : phase.stored.parts = some phase := by
  have hnumber := phase.toNat_number
  have hrevote : (phase.revote.map UInt32.ofNat).map UInt32.toNat = phase.revote := by
    cases hattempt : phase.revote with
    | none => rfl
    | some attempt =>
      have hbound := (phase.revote_range attempt hattempt).2
      exact congrArg some (UInt32.toNat_ofNat_of_lt' hbound)
  unfold StoredPhaseId.parts
  have hrange : (0 < phase.stored.number.toNat ∧ phase.stored.number.toNat ≤ 2 ^ 31 - 1) ∧
      ∀ attempt ∈ phase.stored.revote.map UInt32.toNat, 0 < attempt ∧ attempt < 2 ^ 32 := by
    unfold PhaseId.stored
    rw [hnumber, hrevote]
    exact ⟨⟨phase.number_pos, phase.number_le⟩, phase.revote_range⟩
  rw [dif_pos hrange]
  congr 1
  cases phase
  unfold PhaseId.stored at *
  simp_all

/-- `PhaseId::deserialize`. -/
def PhaseId.read (text : String) : Option PhaseId :=
  (StoredPhaseId.parse text).toOption.bind StoredPhaseId.parts

theorem PhaseId.read_canonical (phase : PhaseId) : PhaseId.read phase.canonical = some phase := by
  have hparse : StoredPhaseId.parse phase.canonical = .ok phase.stored := by
    refine StoredPhaseId.parse_ok_iff.2 ⟨?_, phase.canonical_eq, rfl⟩
    exact (PhaseId.built_iff.2 ⟨phase, rfl⟩).valid.1
  rw [PhaseId.read, hparse]
  exact phase.parts_stored

/-- `PhaseId`, by its text. -/
def phaseCodec : Codec Json PhaseId :=
  text.named PhaseId.canonical PhaseId.read fun phase => ⟨trivial, phase.read_canonical⟩

def phaseField (key : String) : Fields Json PhaseId := .required key phaseCodec

def presentPhase (key : String) : Fields Json (Option PhaseId) :=
  .present key (jsonFormat.nullable phaseCodec fun _ _ => rfl)

variable {key : String}

@[simp] theorem phaseField_fits (phase : PhaseId) : (phaseField key).fits phase :=
  fun _ => trivial

@[simp] theorem presentPhase_fits (phase : Option PhaseId) : (presentPhase key).fits phase :=
  fun _ _ _ => trivial

/-! ## Enumerations -/

/-- The variants of `EffectDuration`. -/
def EffectDuration.name : EffectDuration → String
  | .persistent => "Persistent"
  | .resolution => "Resolution"

def effectDurationCodec : Codec Json EffectDuration :=
  enumeration [.persistent, .resolution] EffectDuration.name fun duration => by cases duration <;> rfl

/-- The variants of `EffectVisibility`. -/
def EffectVisibility.name : EffectVisibility → String
  | .hidden => "Hidden"
  | .publicView => "Public"
  | .actor => "Actor"
  | .target => "Target"
  | .actorAndTarget => "ActorAndTarget"

def effectVisibilityCodec : Codec Json EffectVisibility :=
  enumeration [.hidden, .publicView, .actor, .target, .actorAndTarget] EffectVisibility.name
    fun visibility => by cases visibility <;> rfl

/-- The variants of `GrantKind`. -/
def GrantKind.name : GrantKind → String
  | .extraAction => "ExtraAction"
  | .item => "Item"
  | .voteWeight => "VoteWeight"

/-- `GrantKind::deserialize`: a variant, or its name in snake case. -/
def GrantKind.parse : String → Option GrantKind
  | "ExtraAction" | "extra_action" => some .extraAction
  | "Item" | "item" => some .item
  | "VoteWeight" | "vote_weight" => some .voteWeight
  | _ => none

def grantKindCodec : Codec Json GrantKind :=
  text.named GrantKind.name GrantKind.parse fun kind => by cases kind <;> exact ⟨trivial, rfl⟩

/-- The variants of `DeathRevealMode`. -/
def DeathRevealMode.name : DeathRevealMode → String
  | .full => "Full"
  | .alignmentOnly => "AlignmentOnly"
  | .concealed => "Concealed"

def deathRevealModeCodec : Codec Json DeathRevealMode :=
  enumeration [.full, .alignmentOnly, .concealed] DeathRevealMode.name fun mode => by cases mode <;> rfl

/-- The variants of `VoteStatus`. -/
def VoteStatus.name : VoteStatus → String
  | .lynch => "Lynch"
  | .noLynch => "NoLynch"
  | .noMajority => "NoMajority"
  | .tie => "Tie"
  | .hammer => "Hammer"

def voteStatusCodec : Codec Json VoteStatus :=
  enumeration [.lynch, .noLynch, .noMajority, .tie, .hammer] VoteStatus.name
    fun status => by cases status <;> rfl

/-- The variants of `ItaSessionControlKind`. -/
def ItaSessionControlKind.name : ItaSessionControlKind → String
  | .opened => "Open"
  | .pause => "Pause"
  | .cancel => "Cancel"
  | .update => "Update"
  | .close => "Close"

def itaSessionControlKindCodec : Codec Json ItaSessionControlKind :=
  enumeration [.opened, .pause, .cancel, .update, .close] ItaSessionControlKind.name
    fun control => by cases control <;> rfl

/-- The variants of `DayNoteRolePayload`. -/
def DayNoteRolePayload.name : DayNoteRolePayload → String
  | .hidden => "Hidden"
  | .roleKey => "RoleKey"

def dayNoteRolePayloadCodec : Codec Json DayNoteRolePayload :=
  enumeration [.hidden, .roleKey] DayNoteRolePayload.name fun payload => by cases payload <;> rfl

/-- The variants of `ResultMemoryScope`. -/
def ResultMemoryScope.name : ResultMemoryScope → String
  | .target => "Target"
  | .investigator => "Investigator"

def resultMemoryScopeCodec : Codec Json ResultMemoryScope :=
  enumeration [.target, .investigator] ResultMemoryScope.name fun scope => by cases scope <;> rfl

/-- The variants of `DuelResult`. -/
def DuelResult.name : DuelResult → String
  | .success => "Success"
  | .failure => "Failure"

def duelResultCodec : Codec Json DuelResult :=
  enumeration [.success, .failure] DuelResult.name fun result => by cases result <;> rfl

/-- The variants of `ItaShotOutcome`. -/
def ItaShotOutcome.name : ItaShotOutcome → String
  | .hit => "Hit"
  | .miss => "Miss"
  | .blocked => "Blocked"

def itaShotOutcomeCodec : Codec Json ItaShotOutcome :=
  enumeration [.hit, .miss, .blocked] ItaShotOutcome.name fun outcome => by cases outcome <;> rfl

/-- `InvestigateMode`, by the names its errors print. -/
def investigateModeCodec : Codec Json InvestigateMode :=
  enumeration [.parity, .vanilla, .neapolitan, .gunsmith, .killer, .specialist, .ptAccess, .role, .fullRole,
    .track, .watch, .roleWatcher, .roleGuard, .securityGuard, .voyeur, .actionType, .motion, .priorMotion]
    modeName fun mode => by cases mode <;> rfl

/-! ## Fields with a default -/

/-- `death_reveal`: the default is full, and not written. -/
def revealField (key : String) : Fields Json DeathRevealMode :=
  .skipped key deathRevealModeCodec .full (· == .full) fun _ h => (eq_of_beq h).symm

/-- `ResultMemoryScope`: the default is the target, and not written. -/
def scopeField (key : String) : Fields Json ResultMemoryScope :=
  .skipped key resultMemoryScopeCodec .target (· == .target) fun _ h => (eq_of_beq h).symm

/-- A flag that is not written unless it is set. -/
def raisedFlag (key : String) : Fields Json Bool :=
  .skipped key flag false (! ·) fun a h => by cases a <;> simp_all

@[simp] theorem revealField_fits (a : DeathRevealMode) : (revealField key).fits a :=
  fun _ => trivial

@[simp] theorem scopeField_fits (a : ResultMemoryScope) : (scopeField key).fits a :=
  fun _ => trivial

@[simp] theorem raisedFlag_fits (a : Bool) : (raisedFlag key).fits a := fun _ => trivial

/-! ## Records -/

/-- `TriggerPayload`. -/
def triggerPayloadCodec : Codec Json TriggerPayload :=
  (closed ((textField "on").pair <| (textField "source_target").pair <| (textField "source_actor").pair <|
      (textField "source_cause").pair <| (textField "produced_actor").pair <|
      (textField "produced_target").pair <|
      skipped "actor_filter" (jsonFormat.list text) [] List.isEmpty fun _ h => (List.isEmpty_iff.1 h).symm)).map
    (fun (on, sourceTarget, sourceActor, sourceCause, producedActor, producedTarget, actorFilter) =>
      ⟨on, sourceTarget, sourceActor, sourceCause, producedActor, producedTarget, actorFilter⟩)
    (fun payload => (payload.on, payload.sourceTarget, payload.sourceActor, payload.sourceCause,
      payload.producedActor, payload.producedTarget, payload.actorFilter))
    fun _ => rfl

/-- `SurvivalWinAward`. -/
def survivalWinAwardCodec : Codec Json SurvivalWinAward :=
  (closed ((textField "policy").pair <| (textField "winner").pair <| (textField "slot_id").pair <|
      (textField "role").pair <| textField "source_event")).map
    (fun (policy, winner, slotId, role, sourceEvent) => ⟨policy, winner, slotId, role, sourceEvent⟩)
    (fun award => (award.policy, award.winner, award.slotId, award.role, award.sourceEvent))
    fun _ => rfl

/-- `WinReachedMetadata`. -/
def winReachedMetadataCodec : Codec Json WinReachedMetadata :=
  (closed ((presentText "policy").pair <| (presentText "owner").pair <| (presentText "target").pair <|
      (presentText "effect").pair <| (presentText "winner").pair <| (presentText "role").pair <|
      (presentText "source_action").pair <| (presentText "source_event").pair <|
      (presentPhase "target_phase_id").pair <|
      skipped "survival_awards" (jsonFormat.list survivalWinAwardCodec) [] List.isEmpty
        fun _ h => (List.isEmpty_iff.1 h).symm)).map
    (fun (policy, owner, target, effect, winner, role, sourceAction, sourceEvent, targetPhaseId, awards) =>
      ⟨policy, owner, target, effect, winner, role, sourceAction, sourceEvent, targetPhaseId, awards⟩)
    (fun metadata => (metadata.policy, metadata.owner, metadata.target, metadata.effect, metadata.winner,
      metadata.role, metadata.sourceAction, metadata.sourceEvent, metadata.targetPhaseId,
      metadata.survivalAwards))
    fun _ => rfl

/-- `Option<WinReachedMetadata>`, with a default, and written as null where there is none. -/
def metadataField (key : String) : Fields Json (Option WinReachedMetadata) :=
  .defaulted key (jsonFormat.nullable winReachedMetadataCodec fun _ _ => rfl) none

theorem survivalWinAwardCodec_fits (award : SurvivalWinAward) : survivalWinAwardCodec.fits award := by
  simp [survivalWinAwardCodec]

theorem winReachedMetadataCodec_fits (metadata : WinReachedMetadata) :
    winReachedMetadataCodec.fits metadata :=
  ⟨presentText_fits _, presentText_fits _, presentText_fits _, presentText_fits _, presentText_fits _,
    presentText_fits _, presentText_fits _, presentText_fits _, presentPhase_fits _,
    fun _ award _ => survivalWinAwardCodec_fits award⟩

@[simp] theorem metadataField_fits (metadata : Option WinReachedMetadata) :
    (metadataField key).fits metadata :=
  fun _ metadata _ => winReachedMetadataCodec_fits metadata

/-- `HostPromptMetadata`: other keys are ignored. -/
def hostPromptMetadataCodec : Codec Json HostPromptMetadata :=
  (openRecord ((presentText "policy").pair <| (presentText "status").pair <|
      (skipped "contenders" (jsonFormat.list text) [] List.isEmpty
        fun _ h => (List.isEmpty_iff.1 h).symm).pair <|
      (presentText "tiebreak").pair <| (presentText "outcome_reason").pair <|
      (presentText "death_cause").pair <| presentText "role")).map
    (fun (policy, status, contenders, tiebreak, outcomeReason, deathCause, role) =>
      ⟨policy, status, contenders, tiebreak, outcomeReason, deathCause, role⟩)
    (fun metadata => (metadata.policy, metadata.status, metadata.contenders, metadata.tiebreak,
      metadata.outcomeReason, metadata.deathCause, metadata.role))
    fun _ => rfl

/-- `HostPromptIssued`. -/
def hostPromptIssuedCodec : Codec Json HostPromptIssued :=
  (closed ((textField "prompt_id").pair <| (textField "kind").pair <| (nullableText "subject").pair <|
      (textField "reason").pair <| (phaseField "phase_id").pair <|
      required "metadata" hostPromptMetadataCodec)).map
    (fun (promptId, kind, subject, reason, phaseId, metadata) =>
      ⟨promptId, kind, subject, reason, phaseId, metadata⟩)
    (fun prompt => (prompt.promptId, prompt.kind, prompt.subject, prompt.reason, prompt.phaseId,
      prompt.metadata))
    fun _ => rfl

/-- `Death`. -/
def deathCodec : Codec Json Death :=
  (closed ((textField "slot_id").pair <| (textField "cause").pair <| (presentText "template_id").pair <|
      presentText "audience")).map
    (fun (slotId, cause, templateId, audience) => ⟨slotId, cause, templateId, audience⟩)
    (fun death => (death.slotId, death.cause, death.templateId, death.audience))
    fun _ => rfl

/-- `PhaseAnnouncement`. -/
def phaseAnnouncementCodec : Codec Json PhaseAnnouncement :=
  (closed ((phaseField "phase_id").pair <| (presentText "template_id").pair <|
      (presentText "audience").pair <| required "deaths" (jsonFormat.list deathCodec))).map
    (fun (phaseId, templateId, audience, deaths) => ⟨phaseId, templateId, audience, deaths⟩)
    (fun announcement => (announcement.phaseId, announcement.templateId, announcement.audience,
      announcement.deaths))
    fun _ => rfl

/-- `DayAnnouncement`. -/
def dayAnnouncementCodec : Codec Json DayAnnouncement :=
  (closed ((textField "player_id").pair <| (textField "cause").pair <| (presentText "template_id").pair <|
      (presentText "audience").pair <| (nullableText "source_action_id").pair <|
      (textsField "attackers").pair <| (flagField "unstoppable").pair <| (nullableText "role_key").pair <|
      (present "role_payload" (jsonFormat.nullable dayNoteRolePayloadCodec fun _ _ => rfl)).pair <|
      (nullableNat "recorded_at" 64).pair <| (natField "sequence" 32).pair <| (natField "day" 32).pair <|
      (natField "night" 32).pair <| phaseField "phase_id")).map
    (fun (playerId, cause, templateId, audience, sourceActionId, attackers, unstoppable, roleKey, rolePayload,
        recordedAt, sequence, day, night, phaseId) =>
      ⟨playerId, cause, templateId, audience, sourceActionId, attackers, unstoppable, roleKey, rolePayload,
        recordedAt, sequence, day, night, phaseId⟩)
    (fun announcement => (announcement.playerId, announcement.cause, announcement.templateId,
      announcement.audience, announcement.sourceActionId, announcement.attackers, announcement.unstoppable,
      announcement.roleKey, announcement.rolePayload, announcement.recordedAt, announcement.sequence,
      announcement.day, announcement.night, announcement.phaseId))
    fun _ => rfl

/-! ## Records with maps -/

/-- `BTreeMap::from_iter`. -/
def BTreeMap.ofEntries {K V : Type} [Ord K] (entries : List (K × V)) : BTreeMap K V :=
  Std.TreeMap.ofList entries compare

/-- A map built of the entries of another has its entries. -/
theorem BTreeMap.toList_ofEntries {V : Type} (m : BTreeMap String V) :
    (BTreeMap.ofEntries m.toList).toList = m.toList := by
  rw [← Std.TreeMap.equiv_iff_toList_eq]
  refine Std.TreeMap.Equiv.of_forall_constGet?_eq fun key => ?_
  cases hfound : m[key]? with
  | some value =>
    exact Std.TreeMap.getElem?_ofList_of_mem (Std.LawfulEqOrd.compare_eq_iff_eq.2 rfl)
      Std.TreeMap.distinct_keys_toList (Std.TreeMap.mem_toList_iff_getElem?_eq_some.2 hfound)
  | none =>
    have hmissing : key ∉ m.toList.map Prod.fst := fun hmem => by
      obtain ⟨entry, hentry, rfl⟩ := List.mem_map.1 hmem
      rw [Std.TreeMap.mem_toList_iff_getElem?_eq_some.1 hentry] at hfound
      cases hfound
    refine Std.TreeMap.getElem?_ofList_of_contains_eq_false (Bool.eq_false_iff.2 fun hcontains => ?_)
    exact hmissing (List.contains_iff_mem.1 hcontains)

section Maps

variable {F : Type}

/-- The fields of a `DayVoteOutcome`, its maps as their entries. -/
abbrev DayVoteOutcomeParts (F : Type) :=
  VoteStatus × Option SlotId × List SlotId × List (SlotId × F) × List (SlotId × SlotId) × List (SlotId × F) ×
    Option F × List (SlotId × F) × F × Option String × Option String

def DayVoteOutcome.parts (outcome : DayVoteOutcome F) : DayVoteOutcomeParts F :=
  (outcome.status, outcome.winner, outcome.contenders, outcome.tallies.toList, outcome.votes.toList,
    outcome.weights.toList, outcome.majority, outcome.thresholds.toList, outcome.totalWeight,
    outcome.tiebreak, outcome.reason)

def DayVoteOutcome.ofParts : DayVoteOutcomeParts F → DayVoteOutcome F
  | (status, winner, contenders, tallies, votes, weights, majority, thresholds, totalWeight, tiebreak, reason) =>
    ⟨status, winner, contenders, .ofEntries tallies, .ofEntries votes, .ofEntries weights, majority,
      .ofEntries thresholds, totalWeight, tiebreak, reason⟩

/-- The fields of a `LastWordsVoteSummary`, its map as its entries. -/
abbrev LastWordsVoteParts (F : Type) := VoteStatus × Option SlotId × List (SlotId × F) × Option F × F

def LastWordsVoteSummary.parts (vote : LastWordsVoteSummary F) : LastWordsVoteParts F :=
  (vote.status, vote.winner, vote.tallies.toList, vote.majority, vote.totalWeight)

def LastWordsVoteSummary.ofParts : LastWordsVoteParts F → LastWordsVoteSummary F
  | (status, winner, tallies, majority, totalWeight) =>
    ⟨status, winner, .ofEntries tallies, majority, totalWeight⟩

/-- The fields of a `LastWordsRecorded`. -/
abbrev LastWordsParts (F : Type) :=
  SlotId × String × Option String × Option String × Option String × Nat × Nat × PhaseId × LastWordsVoteParts F

def LastWordsRecorded.parts (words : LastWordsRecorded F) : LastWordsParts F :=
  (words.playerId, words.reason, words.templateId, words.audience, words.window, words.sequence, words.day,
    words.phaseId, words.vote.parts)

def LastWordsRecorded.ofParts : LastWordsParts F → LastWordsRecorded F
  | (playerId, reason, templateId, audience, window, sequence, day, phaseId, vote) =>
    ⟨playerId, reason, templateId, audience, window, sequence, day, phaseId, .ofParts vote⟩

/-- The fields of `ItaCounters`, its maps as their entries. -/
abbrev ItaCountersParts :=
  Nat × Nat × Nat × Nat × Nat × Nat × List (SlotId × Nat) × List (SlotId × Nat) × List (SlotId × Nat) ×
    List (SlotId × Nat) × List (SlotId × Nat) × List (SlotId × Nat) × List (String × Nat)

def ItaCounters.parts (counters : ItaCounters) : ItaCountersParts :=
  (counters.globalShotsFired, counters.shotsResolved, counters.hitsLanded, counters.shotsMissed,
    counters.shotsBlocked, counters.shotsRefunded, counters.perShooter.toList, counters.perTarget.toList,
    counters.shieldsRemaining.toList, counters.shieldsSpent.toList, counters.hpRemaining.toList,
    counters.hpDamage.toList, counters.refundedByReason.toList)

def ItaCounters.ofParts : ItaCountersParts → ItaCounters
  | (globalShotsFired, shotsResolved, hitsLanded, shotsMissed, shotsBlocked, shotsRefunded, perShooter, perTarget,
      shieldsRemaining, shieldsSpent, hpRemaining, hpDamage, refundedByReason) =>
    ⟨globalShotsFired, shotsResolved, hitsLanded, shotsMissed, shotsBlocked, shotsRefunded,
      .ofEntries perShooter, .ofEntries perTarget, .ofEntries shieldsRemaining, .ofEntries shieldsSpent,
      .ofEntries hpRemaining, .ofEntries hpDamage, .ofEntries refundedByReason⟩

/-- A `BTreeMap` that is always there. -/
def mapField {α : Type} (key : String) (c : Codec Json α) : Fields Json (List (String × α)) :=
  .required key (dictionary c)

/-- `shots_blocked` and `shots_refunded` are left out where they are zero. -/
def nonzeroField (key : String) : Fields Json Nat :=
  .skipped key (unsigned 32) 0 (· == 0) fun _ h => (eq_of_beq h).symm

/-- A map of counters, with a default. -/
def countersField (key : String) : Fields Json (List (String × Nat)) :=
  .defaulted key (dictionary (unsigned 32)) []

/-- A map of counters that is left out where it is empty. -/
def nonemptyCounters (key : String) : Fields Json (List (String × Nat)) :=
  .skipped key (dictionary (unsigned 32)) [] List.isEmpty fun _ h => (List.isEmpty_iff.1 h).symm

/-- `ItaCounters`. -/
def itaCountersCodec : Codec Json ItaCountersParts :=
  closed ((natField "global_shots_fired" 32).pair <| (natField "shots_resolved" 32).pair <|
      (natField "hits_landed" 32).pair <| (natField "shots_missed" 32).pair <|
      (nonzeroField "shots_blocked").pair <| (nonzeroField "shots_refunded").pair <|
      (countersField "per_shooter").pair <| (countersField "per_target").pair <|
      (nonemptyCounters "shields_remaining").pair <| (nonemptyCounters "shields_spent").pair <|
      (nonemptyCounters "hp_remaining").pair <| (nonemptyCounters "hp_damage").pair <|
      nonemptyCounters "refunded_by_reason")

section Floats

variable [Float64 F] [JsonFloat F]

/-- `DayVoteOutcome`. -/
def dayVoteOutcomeCodec : Codec Json (DayVoteOutcomeParts F) :=
  closed ((required "status" voteStatusCodec).pair <| (nullableText "winner").pair <|
      (textsField "contenders").pair <| (mapField "tallies" float).pair <| (mapField "votes" text).pair <|
      (mapField "weights" float).pair <| (nullableFloat "majority").pair <|
      (mapField "thresholds" float).pair <| (floatField "total_weight").pair <|
      (nullableText "tiebreak").pair <| nullableText "reason")

/-- `LastWordsVoteSummary`. -/
def lastWordsVoteCodec : Codec Json (LastWordsVoteParts F) :=
  closed ((required "status" voteStatusCodec).pair <| (nullableText "winner").pair <|
      (mapField "tallies" float).pair <| (nullableFloat "majority").pair <| floatField "total_weight")

/-- `LastWordsRecorded`. -/
def lastWordsRecordedCodec : Codec Json (LastWordsParts F) :=
  closed ((textField "player_id").pair <| (textField "reason").pair <| (presentText "template_id").pair <|
      (presentText "audience").pair <| (presentText "window").pair <| (natField "sequence" 32).pair <|
      (natField "day" 32).pair <| (phaseField "phase_id").pair <| required "vote" lastWordsVoteCodec)

end Floats

/-! ## Machine numbers -/

/-- The counters fit `u32`. -/
structure ItaCounters.InRange (counters : ItaCounters) : Prop where
  globalShotsFired : counters.globalShotsFired < 2 ^ 32
  shotsResolved : counters.shotsResolved < 2 ^ 32
  hitsLanded : counters.hitsLanded < 2 ^ 32
  shotsMissed : counters.shotsMissed < 2 ^ 32
  shotsBlocked : counters.shotsBlocked < 2 ^ 32
  shotsRefunded : counters.shotsRefunded < 2 ^ 32
  perShooter : ∀ entry ∈ counters.perShooter.toList, entry.2 < 2 ^ 32
  perTarget : ∀ entry ∈ counters.perTarget.toList, entry.2 < 2 ^ 32
  shieldsRemaining : ∀ entry ∈ counters.shieldsRemaining.toList, entry.2 < 2 ^ 32
  shieldsSpent : ∀ entry ∈ counters.shieldsSpent.toList, entry.2 < 2 ^ 32
  hpRemaining : ∀ entry ∈ counters.hpRemaining.toList, entry.2 < 2 ^ 32
  hpDamage : ∀ entry ∈ counters.hpDamage.toList, entry.2 < 2 ^ 32
  refundedByReason : ∀ entry ∈ counters.refundedByReason.toList, entry.2 < 2 ^ 32

/-- The numbers of an announcement fit `u64` and `u32`. -/
structure DayAnnouncement.InRange (announcement : DayAnnouncement) : Prop where
  recordedAt : ∀ time ∈ announcement.recordedAt, time < 2 ^ 64
  sequence : announcement.sequence < 2 ^ 32
  day : announcement.day < 2 ^ 32
  night : announcement.night < 2 ^ 32

section Finite

variable [Float64 F]

/-- The weights of an outcome are finite. -/
structure DayVoteOutcome.InRange (outcome : DayVoteOutcome F) : Prop where
  tallies : ∀ entry ∈ outcome.tallies.toList, Float64.isFinite entry.2 = true
  weights : ∀ entry ∈ outcome.weights.toList, Float64.isFinite entry.2 = true
  majority : ∀ weight ∈ outcome.majority, Float64.isFinite weight = true
  thresholds : ∀ entry ∈ outcome.thresholds.toList, Float64.isFinite entry.2 = true
  totalWeight : Float64.isFinite outcome.totalWeight = true

/-- The weights of the vote are finite, and the other numbers fit `u32`. -/
structure LastWordsRecorded.InRange (words : LastWordsRecorded F) : Prop where
  sequence : words.sequence < 2 ^ 32
  day : words.day < 2 ^ 32
  tallies : ∀ entry ∈ words.vote.tallies.toList, Float64.isFinite entry.2 = true
  majority : ∀ weight ∈ words.vote.majority, Float64.isFinite weight = true
  totalWeight : Float64.isFinite words.vote.totalWeight = true

end Finite

variable {key : String}

theorem mapField_fits {α : Type} {c : Codec Json α} {entries : List (String × α)} :
    (mapField key c).fits entries ↔ ∀ entry ∈ entries, c.fits entry.2 :=
  required_fits

theorem countersField_fits {counters : BTreeMap String Nat}
    (h : ∀ entry ∈ counters.toList, entry.2 < 2 ^ 32) : (countersField key).fits counters.toList :=
  fun _ => h

theorem nonemptyCounters_fits {counters : BTreeMap String Nat}
    (h : ∀ entry ∈ counters.toList, entry.2 < 2 ^ 32) : (nonemptyCounters key).fits counters.toList :=
  fun _ => h

theorem nonzeroField_fits {n : Nat} (h : n < 2 ^ 32) : (nonzeroField key).fits n :=
  fun _ => h

theorem itaCountersCodec_fits {counters : ItaCounters} (h : counters.InRange) :
    itaCountersCodec.fits counters.parts :=
  ⟨natField_fits.2 h.globalShotsFired, natField_fits.2 h.shotsResolved, natField_fits.2 h.hitsLanded,
    natField_fits.2 h.shotsMissed, nonzeroField_fits h.shotsBlocked, nonzeroField_fits h.shotsRefunded,
    countersField_fits h.perShooter, countersField_fits h.perTarget, nonemptyCounters_fits h.shieldsRemaining,
    nonemptyCounters_fits h.shieldsSpent, nonemptyCounters_fits h.hpRemaining,
    nonemptyCounters_fits h.hpDamage, nonemptyCounters_fits h.refundedByReason⟩

theorem dayAnnouncementCodec_fits {announcement : DayAnnouncement} (h : announcement.InRange) :
    dayAnnouncementCodec.fits announcement :=
  ⟨textField_fits _, textField_fits _, presentText_fits _, presentText_fits _, nullableText_fits _,
    textsField_fits _, flagField_fits _, nullableText_fits _, fun _ _ _ => trivial,
    nullableNat_fits.2 h.recordedAt, natField_fits.2 h.sequence, natField_fits.2 h.day,
    natField_fits.2 h.night, phaseField_fits _⟩

theorem hostPromptIssuedCodec_fits (prompt : HostPromptIssued) : hostPromptIssuedCodec.fits prompt := by
  simp [hostPromptIssuedCodec, hostPromptMetadataCodec]

theorem phaseAnnouncementCodec_fits (announcement : PhaseAnnouncement) :
    phaseAnnouncementCodec.fits announcement := by
  simp [phaseAnnouncementCodec, deathCodec]

@[simp] theorem triggerPayloadCodec_fits (payload : TriggerPayload) : triggerPayloadCodec.fits payload := by
  simp [triggerPayloadCodec]

section Finite

variable [Float64 F] [JsonFloat F]

theorem dayVoteOutcomeCodec_fits {outcome : DayVoteOutcome F} (h : outcome.InRange) :
    dayVoteOutcomeCodec.fits outcome.parts :=
  ⟨fun _ => trivial, nullableText_fits _, textsField_fits _, mapField_fits.2 h.tallies,
    mapField_fits.2 fun _ _ => trivial, mapField_fits.2 h.weights, nullableFloat_fits.2 h.majority,
    mapField_fits.2 h.thresholds, floatField_fits.2 h.totalWeight, nullableText_fits _,
    nullableText_fits _⟩

theorem lastWordsRecordedCodec_fits {words : LastWordsRecorded F} (h : words.InRange) :
    lastWordsRecordedCodec.fits words.parts := by
  have hvote : lastWordsVoteCodec.fits words.vote.parts :=
    ⟨fun _ => trivial, nullableText_fits _, mapField_fits.2 h.tallies, nullableFloat_fits.2 h.majority,
      floatField_fits.2 h.totalWeight⟩
  exact ⟨textField_fits _, textField_fits _, presentText_fits _, presentText_fits _, presentText_fits _,
    natField_fits.2 h.sequence, natField_fits.2 h.day, phaseField_fits _, fun _ => hvote⟩

end Finite

end Maps

/-! ## Investigation results -/

/-- `Option<bool>`, left out where there is none. -/
def presentFlag (key : String) : Fields Json (Option Bool) :=
  .present key (jsonFormat.nullable flag fun _ _ => rfl)

/-- `Option<Vec<String>>`, left out where there is none. -/
def presentTexts (key : String) : Fields Json (Option (List String)) :=
  .present key (jsonFormat.nullable (jsonFormat.list text) fun _ _ => rfl)

@[simp] theorem presentFlag_fits (a : Option Bool) : (presentFlag key).fits a :=
  fun _ _ _ => trivial

@[simp] theorem presentTexts_fits (a : Option (List String)) : (presentTexts key).fits a :=
  fun _ _ _ _ _ => trivial

/-- The fields of `TrackInvestigationResult`. -/
def trackFields : Fields Json (List SlotId) := textsField "visited"

/-- `TrackInvestigationResult`. -/
def trackCodec : Codec Json (List SlotId) := closed trackFields

/-- The fields of `InvestigationResultFields`, in the order of the struct. -/
abbrev InvestigationResultParts :=
  Option Bool × Option Bool × Option Bool × Option Bool × Option Bool × Option (List String) × Option String ×
    Option String × Option (List String) × Option (List String) × Option (List String) ×
    Option (List String) × Option (List String) × Option Bool × Option Bool × Option String × Option String ×
    Option Bool

def InvestigationResultFields.parts (fields : InvestigationResultFields) : InvestigationResultParts :=
  (fields.vanilla, fields.vanillaTown, fields.hasGun, fields.killer, fields.specialist, fields.ptAccess,
    fields.role, fields.alignment, fields.visited, fields.visitors, fields.visitorRoles, fields.actions,
    fields.actionTypes, fields.motion, fields.priorMotion, fields.previous, fields.current, fields.changed)

def InvestigationResultFields.ofParts : InvestigationResultParts → InvestigationResultFields
  | (vanilla, vanillaTown, hasGun, killer, specialist, ptAccess, role, alignment, visited, visitors,
      visitorRoles, actions, actionTypes, motion, priorMotion, previous, current, changed) =>
    ⟨vanilla, vanillaTown, hasGun, killer, specialist, ptAccess, role, alignment, visited, visitors,
      visitorRoles, actions, actionTypes, motion, priorMotion, previous, current, changed⟩

/-- The keys and values of `InvestigationResultFields`. -/
def investigationFields : Fields Json InvestigationResultParts :=
  (presentFlag "vanilla").pair <| (presentFlag "vanilla_town").pair <| (presentFlag "has_gun").pair <|
    (presentFlag "killer").pair <| (presentFlag "specialist").pair <| (presentTexts "pt_access").pair <|
    (presentText "role").pair <| (presentText "alignment").pair <| (presentTexts "visited").pair <|
    (presentTexts "visitors").pair <| (presentTexts "visitor_roles").pair <| (presentTexts "actions").pair <|
    (presentTexts "action_types").pair <| (presentFlag "motion").pair <| (presentFlag "prior_motion").pair <|
    (presentText "previous").pair <| (presentText "current").pair <| presentFlag "changed"

/-- `InvestigationResultFields`. -/
def investigationFieldsCodec : Codec Json InvestigationResultFields :=
  (closed investigationFields).map .ofParts (·.parts) fun _ => rfl

/-- `InvestigationResultBody::serialize`: untagged. -/
def InvestigationResultBody.write : InvestigationResultBody → Json
  | .label value => text.write value
  | .track visited => trackCodec.write visited
  | .fields bag => investigationFieldsCodec.write bag

/-- `InvestigationResultBody::deserialize`: the first variant that reads the value. -/
def InvestigationResultBody.read (v : Json) : Option InvestigationResultBody :=
  ((text.read v).map .label).or <| ((trackCodec.read v).map .track).or <|
    (investigationFieldsCodec.read v).map .fields

/-- The one bag that says what a Track result says. -/
def InvestigationResultFields.OnlyVisited (bag : InvestigationResultFields) : Prop :=
  ∃ visited, bag = { visited := some visited }

variable {bag : InvestigationResultFields}

theorem onlyVisited_of_keys
    (h : ∀ key ∈ (investigationFields.write bag.parts).map Prod.fst, key = "visited") :
    bag = { visited := bag.visited } := by
  simp only [investigationFields, presentFlag, presentText, presentTexts, pair_keys, present_keys,
    InvestigationResultFields.parts] at h
  simp only [String.reduceEq, imp_false, not_not] at h
  cases bag
  simp_all

theorem trackCodec_faithful (visited : List SlotId) : trackCodec.read (trackCodec.write visited) = some visited :=
  trackCodec.faithful visited (by simp [trackCodec, trackFields])

/-- A Track result is read of a bag if `visited` is its only field. -/
theorem track_read_fields {visited : List SlotId} :
    trackCodec.read (investigationFieldsCodec.write bag) = some visited ↔
      bag = { visited := some visited } := by
  constructor
  · intro h
    have hdistinct : ((investigationFields.write bag.parts).map Prod.fst).Nodup :=
      (investigationFields.within bag.parts).nodup (of_decide_eq_true rfl)
    obtain ⟨hkeys, hread⟩ := jsonFormat.readRecord_closed true hdistinct h
    have hbag := onlyVisited_of_keys fun key hkey => List.mem_singleton.1 (hkeys key hkey)
    rw [hbag] at hread ⊢
    cases hvisited : bag.visited with
    | none =>
      rw [hvisited] at hread
      cases hread
    | some slots =>
      rw [hvisited] at hread
      have hslots : trackFields.read (lookup (trackFields.write slots)) = some slots :=
        trackFields.faithful (of_decide_eq_true rfl) slots _ (by simp [trackFields]) fun _ _ => rfl
      exact congrArg (fun slots => ({ visited := slots } : InvestigationResultFields))
        (hslots.symm.trans hread)
  · rintro rfl
    exact trackCodec_faithful visited

theorem investigationFieldsCodec_faithful (bag : InvestigationResultFields) :
    investigationFieldsCodec.read (investigationFieldsCodec.write bag) = some bag :=
  investigationFieldsCodec.faithful bag (by
    show investigationFields.fits bag.parts
    simp [investigationFields])

namespace InvestigationResultBody

theorem read_track (visited : List SlotId) : read (write (.track visited)) = some (.track visited) := by
  have htext : text.read (trackCodec.write visited) = none := rfl
  unfold read write
  rw [htext, trackCodec_faithful]
  rfl

/-- A bag is read as itself, but for the one whose only field is `visited`. -/
theorem read_fields : read (write (.fields bag)) = some (.fields bag) ↔ ¬ bag.OnlyVisited := by
  have htext : text.read (investigationFieldsCodec.write bag) = none := rfl
  unfold read write
  rw [htext, investigationFieldsCodec_faithful]
  cases htrack : trackCodec.read (investigationFieldsCodec.write bag) with
  | some visited => simpa using ⟨visited, track_read_fields.1 htrack⟩
  | none =>
    have hother : ¬ bag.OnlyVisited := fun ⟨visited, hvisited⟩ => by
      rw [track_read_fields.2 hvisited] at htrack
      cases htrack
    simpa using hother

theorem read_onlyVisited (visited : List SlotId) :
    read (write (.fields { visited := some visited })) = some (.track visited) := by
  have htext : text.read (investigationFieldsCodec.write { visited := some visited }) = none := rfl
  unfold read write
  rw [htext, track_read_fields.2 rfl]
  rfl

end InvestigationResultBody

/-- `InvestigationResultBody`. -/
def investigationBodyCodec : Codec Json InvestigationResultBody where
  write := InvestigationResultBody.write
  read := InvestigationResultBody.read
  fits body := ∀ bag, body = .fields bag → ¬ bag.OnlyVisited
  faithful body h := by
    cases body with
    | label value => rfl
    | track visited => exact InvestigationResultBody.read_track visited
    | fields bag => exact InvestigationResultBody.read_fields.2 (h bag rfl)

end Fmarch.Domain
