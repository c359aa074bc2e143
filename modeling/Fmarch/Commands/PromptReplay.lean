import Fmarch.Commands.Phases
import Fmarch.Resolver.Shape

/-!
# Rerunning a resolved prompt (`rerun_stored_host_prompt`)

When the host resolves a prompt by choosing a slot, the game appends the choice and an envelope with the
slot's death. The operator's audit rebuilds the envelope from the stream up to the choice and compares.

The two go by different copies of the prompt. The live command reads the row of `host_prompt`, which holds
what was issued last under the prompt's id; the rerun takes the first prompt the stream issued under it.
Ids are made of the phase, the prompt's kind and the vote's status or the slot, so two policies of a pack
may issue two prompts under one id.

**`audit_iff`**: in every history of a game, the rerun of a decision rebuilds what was appended exactly
if the prompt first issued under the id is resolved as the one issued last (`ResolvedAlike`); two policies
with one kind and two reasons are enough for it to fail (`twoReasons_drift`).

The pack is that of the game's creation on both sides. The texts of validation errors are left out.
-/

namespace Fmarch.Commands

open Domain Fallible

variable {F : Type}

/-! ## The envelope -/

inductive HostPromptPublicResolution where
  | dayVoteElimination (phaseId : PhaseId) (selectedSlot reason : String)
  | phaseAdvance (sourcePhaseId targetPhaseId : PhaseId) (reason : String)
      (skippedPhaseId : Option PhaseId)
  | acknowledged (phaseId : PhaseId) (reason : String)
  deriving DecidableEq

/-- The payload of `HostPromptResolved`. -/
structure HostPromptResolved where
  promptId : String
  phaseId : PhaseId
  kind : String
  reason : String
  decision : HostPromptDecision
  publicResolution : HostPromptPublicResolution

/-- The event as the phase commands read it. -/
def HostPromptResolved.event (resolved : HostPromptResolved) : StreamEvent :=
  .hostPromptResolved resolved.promptId resolved.phaseId resolved.decision

/-- The detail of the `DecisionTrace` of a chosen slot. -/
structure PkDecisionDetail where
  promptId : String
  kind : String
  reason : String
  selectedSlot : String
  contenders : List String
  decision : HostPromptDecision

/-- `RebuiltResolutionEnvelope`; `detail` is that of the trace's one decision. -/
structure RebuiltResolutionEnvelope (F : Type) where
  applied : ResolutionApplied F
  trace : ResolutionTrace
  detail : PkDecisionDetail

def hostPromptPublicResolution (prompt : HostPromptRow) : HostPromptEffect → HostPromptPublicResolution
  | .pkKill selected _ => .dayVoteElimination prompt.phaseId selected prompt.reason
  | .advancePhase phaseId reason skippedPhaseId =>
    .phaseAdvance prompt.phaseId phaseId reason skippedPhaseId
  | .acknowledgeOnly => .acknowledged prompt.phaseId prompt.reason

/-- The `ResolutionApplied` of `build_pk_prompt_resolution`. -/
def pkResolutionApplied [Float64 F] (pack : Pack F) (game : String) (prompt : HostPromptRow)
    (selected : String) (promptResolvedSeq : Nat) : ResolutionApplied F :=
  let (templateId, audience, deaths) := dayDeathAnnouncementMetadata pack prompt.phaseId.kind
    [{ slotId := selected, cause := "host_prompt:pk" }]
  { phaseId := prompt.phaseId
    runId := "host-prompt:" ++ game ++ ":" ++ prompt.phaseId.canonical ++ ":" ++ prompt.promptId ++
      ":" ++ toString promptResolvedSeq
    resultVersion
    seed := 0
    counts := { events := 2, kills := 1, saves := 0 }
    events :=
      [{ index := 0, event := .playerKilled selected "host_prompt:pk" [] true .full },
        { index := 1
          event := .phaseAnnouncement { phaseId := prompt.phaseId, templateId, audience, deaths } }]
    startedAt := promptResolvedSeq
    finishedAt := promptResolvedSeq + 1 }

def buildPkPromptResolution [Float64 F] (pack : Pack F) (game : String) (prompt : HostPromptRow)
    (selected : String) (contenders : List String) (decision : HostPromptDecision)
    (promptResolvedSeq : Nat) : Except Reject (RebuiltResolutionEnvelope F) := do
  let applied := pkResolutionApplied pack game prompt selected promptResolvedSeq
  let trace : ResolutionTrace :=
    { phaseId := prompt.phaseId, runId := applied.runId, traceVersion, notes := [] }
  match validateResolutionApplied applied resultVersion, validateResolutionTrace trace traceVersion with
  | .error _, _ => .error (.internal "invalid prompt resolution result")
  | _, .error _ => .error (.internal "invalid prompt resolution trace")
  | .ok (), .ok () =>
    return {
      applied, trace
      detail :=
        { promptId := prompt.promptId, kind := prompt.kind, reason := prompt.reason
          selectedSlot := selected, contenders, decision } }

/-! ## The two paths -/

/-- What `resolve_host_prompt` appends. -/
structure PromptEvents (F : Type) where
  resolved : HostPromptResolved
  envelope : Option (RebuiltResolutionEnvelope F) := none
  advanced : Option PhaseAdvanced := none

/-- The events as the phase commands read them. -/
def PromptEvents.events (appended : PromptEvents F) : List StreamEvent :=
  appended.resolved.event ::
    ((appended.envelope.map fun envelope => .resolutionApplied envelope.applied.phaseId []).toList ++
      (appended.advanced.map .phaseAdvanced).toList)

/-- `resolve_host_prompt`, up to what it appends. -/
def resolveHostPromptEvents [Float64 F] (pack : PhasePack) (document : Pack F) (gameId : String)
    (alive : String → Bool) (game : Game) (promptId : String) (decision : HostPromptDecision) :
    Except Reject (PromptEvents F) := do
  let some prompt := game.prompts.find? (·.promptId = promptId) | .error .unknownPrompt
  if prompt.pending then
    let effect ← hostPromptEffect pack.hostPromptResolutionEffects pack.phases prompt decision
      game.stream
    let resolved : HostPromptResolved :=
      { promptId := prompt.promptId, phaseId := prompt.phaseId, kind := prompt.kind
        reason := prompt.reason, decision
        publicResolution := hostPromptPublicResolution prompt effect }
    match effect with
    | .pkKill selected contenders =>
      if alive selected then
        let envelope ← buildPkPromptResolution document gameId prompt selected contenders decision
          (game.stream.length + 1)
        return { resolved, envelope := some envelope }
      else .error .slotNotAlive
    | .advancePhase phaseId reason skippedPhaseId =>
      return {
        resolved
        advanced := some
          { phaseId, sourcePhaseId := prompt.phaseId, reason, sourcePromptId := some prompt.promptId
            skippedPhaseId } }
    | .acknowledgeOnly => return { resolved }
  else .error .promptAlreadyResolved

/-- The prompts an event issues. -/
def StreamEvent.issues : StreamEvent → List HostPromptRow
  | .resolutionApplied _ prompts => prompts
  | _ => []

/-- The prompts a stream issued under an id, in order. -/
def issuedUnder (stream : List StreamEvent) (promptId : String) : List HostPromptRow :=
  (stream.flatMap StreamEvent.issues).filter (·.promptId = promptId)

/-- `host_prompt_from_stream`: the first. -/
def hostPromptFromStream (stream : List StreamEvent) (promptId : String) : Except Reject HostPromptRow :=
  match (stream.flatMap StreamEvent.issues).find? (·.promptId = promptId) with
  | some prompt => .ok { prompt with pending := false }
  | none => .error .unknownPrompt

/-- `rerun_stored_host_prompt`, on the stream up to the stored event. -/
def rerunStoredHostPrompt [Float64 F] (pack : PhasePack) (document : Pack F) (gameId : String)
    (before : List StreamEvent) (resolved : HostPromptResolved) :
    Except Reject (Option (RebuiltResolutionEnvelope F)) := do
  let upTo := before ++ [resolved.event]
  let prompt ← hostPromptFromStream upTo resolved.promptId
  let effect ← hostPromptEffect pack.hostPromptResolutionEffects pack.phases prompt resolved.decision
    upTo
  if resolved.publicResolution = hostPromptPublicResolution prompt effect then
    match effect with
    | .pkKill selected contenders =>
      return some (← buildPkPromptResolution document gameId prompt selected contenders
        resolved.decision upTo.length)
    | .advancePhase .. | .acknowledgeOnly => return none
  else
    .error (.internal "HostPromptResolved public_resolution does not match rebuilt prompt effect")

/-- Two prompts are of one phase and have the decision settled by policies of one effect; unless that
moves the phase their reason is the same, and if it kills the slot chosen so are their kind and their
contenders. -/
def ResolvedAlike (policies : List HostPromptResolutionEffectPolicy) (decision : HostPromptDecision)
    (first last : HostPromptRow) : Prop :=
  first.phaseId = last.phaseId ∧ ∃ chosen chosen', policyOf? policies last decision = some chosen ∧
      policyOf? policies first decision = some chosen' ∧ chosen'.effect = chosen.effect ∧
      match chosen.effect with
      | .pkKill =>
        first.kind = last.kind ∧ first.reason = last.reason ∧ first.contenders = last.contenders
      | .acknowledgeOnly => first.reason = last.reason
      | .advanceRevote | .advanceNight | .skipNextDay => True

/-- The prompt first issued under the id is resolved as the one issued last. -/
def Recalled (pack : PhasePack) (stream : List StreamEvent) (promptId : String)
    (decision : HostPromptDecision) : Prop :=
  ∀ first ∈ (issuedUnder stream promptId).head?, ∀ last ∈ (issuedUnder stream promptId).getLast?,
    ResolvedAlike pack.hostPromptResolutionEffects decision first last

/-! ## The row of a prompt -/

/-- A prompt as issued, whether or not it is resolved. -/
def HostPromptRow.issued (prompt : HostPromptRow) : HostPromptRow := { prompt with pending := true }

section Rows

variable {game : Game} {rows prompts : List HostPromptRow} {promptId : String}

theorem find?_upsertPrompt (prompt : HostPromptRow) :
    ((upsertPrompt rows prompt).find? (·.promptId = promptId)).map (·.issued) =
      if prompt.promptId = promptId then some prompt.issued
      else (rows.find? (·.promptId = promptId)).map (·.issued) := by
  unfold upsertPrompt
  by_cases hany : rows.any (·.promptId = prompt.promptId)
  · have hkeeps : ((fun row : HostPromptRow => decide (row.promptId = promptId)) ∘ fun row =>
        if row.promptId = prompt.promptId then { prompt with pending := row.pending } else row) =
        fun row : HostPromptRow => decide (row.promptId = promptId) := by
      funext row
      by_cases hrow : row.promptId = prompt.promptId <;> simp [hrow]
    rw [if_pos hany, List.find?_map, hkeeps, Option.map_map]
    by_cases hid : prompt.promptId = promptId
    · rw [if_pos hid]
      obtain ⟨row, hrow, hsame⟩ := List.any_eq_true.1 hany
      have hfound : (rows.find? (·.promptId = promptId)).isSome :=
        List.find?_isSome.2 ⟨row, hrow, by simpa [hid] using hsame⟩
      obtain ⟨found, hfound⟩ := Option.isSome_iff_exists.1 hfound
      have hfoundId : found.promptId = promptId := by simpa using List.find?_some hfound
      rw [hfound, Option.map_some, Function.comp_apply, if_pos (hfoundId.trans hid.symm)]
      rfl
    · rw [if_neg hid]
      refine Option.map_congr fun found hfound => ?_
      have hfoundId : found.promptId = promptId := by simpa using List.find?_some hfound
      have hother : ¬ found.promptId = prompt.promptId := fun h => hid (h.symm.trans hfoundId)
      rw [Function.comp_apply, if_neg hother]
  · rw [if_neg hany, List.find?_append]
    by_cases hid : prompt.promptId = promptId
    · have hmissing : rows.find? (·.promptId = promptId) = none := by
        simpa [hid] using hany
      rw [if_pos hid, hmissing, Option.none_or, List.find?_singleton, if_pos (by simpa using hid)]
      rfl
    · rw [if_neg hid, List.find?_singleton, if_neg (by simpa using hid), Option.or_none]

/-- Issuing prompts leaves the row of an id with the last of them under it. -/
theorem find?_upsertPrompts :
    ((prompts.foldl upsertPrompt rows).find? (·.promptId = promptId)).map (·.issued) =
      ((prompts.filter (·.promptId = promptId)).getLast?.map (·.issued)).or
        ((rows.find? (·.promptId = promptId)).map (·.issued)) := by
  induction prompts generalizing rows with
  | nil => rfl
  | cons prompt prompts ih =>
    rw [List.foldl_cons, ih, find?_upsertPrompt]
    by_cases hid : prompt.promptId = promptId
    · rw [if_pos hid, List.filter_cons_of_pos (by simpa using hid), List.getLast?_cons]
      cases (prompts.filter (·.promptId = promptId)).getLast? <;> rfl
    · rw [if_neg hid, List.filter_cons_of_neg (by simpa using hid)]

theorem issuedUnder_append (stream events : List StreamEvent) : issuedUnder (stream ++ events) promptId =
      issuedUnder stream promptId ++ issuedUnder events promptId := by
  unfold issuedUnder
  rw [List.flatMap_append, List.filter_append]

theorem issuedUnder_singleton (event : StreamEvent) :
    issuedUnder [event] promptId = event.issues.filter (·.promptId = promptId) := by
  unfold issuedUnder
  rw [List.flatMap_singleton]

/-- One event leaves the row of an id with the last prompt it issued under it. -/
theorem find?_project (event : StreamEvent) :
    ((game.project event).prompts.find? (·.promptId = promptId)).map (·.issued) =
      ((issuedUnder [event] promptId).getLast?.map (·.issued)).or
        ((game.prompts.find? (·.promptId = promptId)).map (·.issued)) := by
  rw [issuedUnder_singleton]
  cases event with
  | resolutionApplied phaseId prompts => exact find?_upsertPrompts
  | hostPromptResolved resolvedId phaseId decision =>
    have hkeeps : ((fun row : HostPromptRow => decide (row.promptId = promptId)) ∘ fun row =>
        if row.promptId = resolvedId then { row with pending := false } else row) =
        fun row : HostPromptRow => decide (row.promptId = promptId) := by
      funext row
      by_cases hrow : row.promptId = resolvedId <;> simp [hrow]
    have hissued : (HostPromptRow.issued ∘ fun row =>
        if row.promptId = resolvedId then { row with pending := false } else row) =
        HostPromptRow.issued := by
      funext row
      by_cases hrow : row.promptId = resolvedId <;> simp [hrow, HostPromptRow.issued]
    have hprompts : (game.project (.hostPromptResolved resolvedId phaseId decision)).prompts =
        game.prompts.map fun row =>
          if row.promptId = resolvedId then { row with pending := false } else row := rfl
    rw [hprompts, List.find?_map, hkeeps, Option.map_map, hissued]
    rfl
  | gameStarted => rfl
  | phaseAdvanced => rfl
  | phaseDeadlineElapsed => rfl
  | deadlineSet => rfl
  | threadLocked => rfl

theorem persist_stream (events : List StreamEvent) :
    (game.persist events).stream = game.stream ++ events := by
  induction events generalizing game with
  | nil => exact (List.append_nil _).symm
  | cons event events ih =>
    have hstep : game.persist (event :: events) = (game.append event).persist events := rfl
    rw [hstep, ih, append_stream, List.append_assoc, List.singleton_append]

/-- A whole stream leaves the row of an id with the last prompt issued under it. -/
theorem find?_persist (events : List StreamEvent) :
    ((game.persist events).prompts.find? (·.promptId = promptId)).map (·.issued) =
      ((issuedUnder events promptId).getLast?.map (·.issued)).or
        ((game.prompts.find? (·.promptId = promptId)).map (·.issued)) := by
  induction events generalizing game with
  | nil => rfl
  | cons event events ih =>
    have hstep : game.persist (event :: events) = (game.append event).persist events := rfl
    have hprompts : (game.append event).prompts = (game.project event).prompts := rfl
    have hcons : issuedUnder (event :: events) promptId =
        issuedUnder [event] promptId ++ issuedUnder events promptId := issuedUnder_append [event] events
    rw [hstep, ih, hprompts, find?_project, hcons, List.getLast?_append]
    cases (issuedUnder events promptId).getLast? <;> rfl

/-- The row of a game's prompt is the one issued last under its id. -/
theorem last_issued {stream : List StreamEvent} {prompt : HostPromptRow}
    (h : (({} : Game).persist stream).prompts.find? (·.promptId = promptId) = some prompt) :
    ∃ last, (issuedUnder stream promptId).getLast? = some last ∧ prompt.issued = last.issued := by
  have hrow : ((({} : Game).persist stream).prompts.find? (·.promptId = promptId)).map (·.issued) =
      ((issuedUnder stream promptId).getLast?.map (·.issued)).or
        ((({} : Game).prompts.find? (·.promptId = promptId)).map (·.issued)) :=
    find?_persist stream
  have hnone : (({} : Game).prompts.find? (·.promptId = promptId)).map (·.issued) = none := rfl
  rw [h, Option.map_some, hnone, Option.or_none] at hrow
  obtain ⟨last, hlast, hsame⟩ := Option.map_eq_some_iff.1 hrow.symm
  exact ⟨last, hlast, hsame.symm⟩

/-- The prompt the rerun goes by is the first issued under its id. -/
theorem hostPromptFromStream_eq (before : List StreamEvent) (resolved : HostPromptResolved) :
    hostPromptFromStream (before ++ [resolved.event]) promptId =
      match (issuedUnder before promptId).head? with
      | some first => .ok { first with pending := false }
      | none => .error .unknownPrompt := by
  have hissues : (before ++ [resolved.event]).flatMap StreamEvent.issues =
      before.flatMap StreamEvent.issues := by
    rw [List.flatMap_append, List.flatMap_singleton]
    exact List.append_nil _
  unfold hostPromptFromStream issuedUnder
  rw [hissues, List.head?_filter]

end Rows

/-! ## The effect of a prompt -/

section Effects

variable {policies : List HostPromptResolutionEffectPolicy} {policy : PhasePolicy}
  {prompt prompt' : HostPromptRow} {decision : HostPromptDecision} {stream stream' : List StreamEvent}

theorem hostPromptEffect_entered
    (h : stream.filterMap StreamEvent.enters = stream'.filterMap StreamEvent.enters) :
    hostPromptEffect policies policy prompt decision stream =
      hostPromptEffect policies policy prompt decision stream' := by
  unfold hostPromptEffect nextRevotePhaseId maxExistingAttempt
  rw [h]

theorem hostPromptEffect_resolved (resolved : HostPromptResolved) :
    hostPromptEffect policies policy prompt decision (stream ++ [resolved.event]) =
      hostPromptEffect policies policy prompt decision stream := by
  refine hostPromptEffect_entered ?_
  rw [List.filterMap_append]
  exact List.append_nil _

theorem hostPromptEffect_issued (h : prompt.issued = prompt'.issued) :
    hostPromptEffect policies policy prompt decision stream =
      hostPromptEffect policies policy prompt' decision stream := by
  have hplain (row : HostPromptRow) : hostPromptEffect policies policy row.issued decision stream =
      hostPromptEffect policies policy row decision stream := rfl
  rw [← hplain prompt, h, hplain]

theorem hostPromptPublicResolution_issued (h : prompt.issued = prompt'.issued) (effect : HostPromptEffect) :
    hostPromptPublicResolution prompt effect = hostPromptPublicResolution prompt' effect := by
  have hplain (row : HostPromptRow) : hostPromptPublicResolution row.issued effect =
      hostPromptPublicResolution row effect := by
    cases effect <;> rfl
  rw [← hplain prompt, h, hplain]

/-- What `host_prompt_effect` does with the policy it has chosen. -/
def settle (policy : PhasePolicy) (chosen : HostPromptResolutionEffectPolicy) (prompt : HostPromptRow)
    (decision : HostPromptDecision) (stream : List StreamEvent) : Except Reject HostPromptEffect :=
  match chosen.decision, chosen.effect with
  | .selectPolicy, .advanceRevote | .acknowledge, .advanceRevote => do
    let phaseId ← nextRevotePhaseId stream prompt.phaseId
    validatePhaseIdForPolicy policy phaseId
    return .advancePhase phaseId "revote" none
  | .selectPolicy, .advanceNight => do
    let phaseId ← noMajorityAdvanceNightTarget prompt.phaseId
    validatePhaseIdForPolicy policy phaseId
    return .advancePhase phaseId "no_majority_no_lynch" none
  | .selectPolicy, .acknowledgeOnly | .acknowledge, .acknowledgeOnly => return .acknowledgeOnly
  | .acknowledge, .skipNextDay => do
    let (skippedPhaseId, phaseId) ← skipNextDayTarget prompt.phaseId
    validatePhaseIdForPolicy policy skippedPhaseId
    validatePhaseIdForPolicy policy phaseId
    return .advancePhase phaseId "skip_next_day" (some skippedPhaseId)
  | .selectSlot, .pkKill => do
    let .selectSlot selected := decision | .error .invalidPromptDecision
    if selected ∈ prompt.contenders then return .pkKill selected prompt.contenders
    else .error .invalidPromptDecision
  | _, _ => .error (.internal s!"invalid host prompt resolution effect policy `{chosen.id}`")

variable {chosen : HostPromptResolutionEffectPolicy}

theorem hostPromptEffect_eq (h : policyOf? policies prompt decision = some chosen) :
    hostPromptEffect policies policy prompt decision stream =
      settle policy chosen prompt decision stream := by
  have hnonempty : ¬ (policies.filter fun policy =>
      policy.promptKind = prompt.kind ∧ policy.promptReason = prompt.reason).isEmpty = true := by
    intro hempty
    unfold policyOf? at h
    rw [List.isEmpty_iff.1 hempty] at h
    cases h
  unfold hostPromptEffect
  rw [if_neg hnonempty, h]
  rfl

theorem policyOf?_of_ok {effect : HostPromptEffect}
    (h : hostPromptEffect policies policy prompt decision stream = .ok effect) :
    ∃ chosen, policyOf? policies prompt decision = some chosen ∧
      settle policy chosen prompt decision stream = .ok effect := by
  cases hchosen : policyOf? policies prompt decision with
  | some chosen => exact ⟨chosen, rfl, hostPromptEffect_eq hchosen ▸ h⟩
  | none =>
    unfold hostPromptEffect at h
    rw [hchosen] at h
    split at h
    · cases h
    · cases h

theorem policyOf?_decision (h : policyOf? policies prompt decision = some chosen) :
    chosen.decision = hostPromptDecisionKind decision := by
  have hfound := List.find?_some h
  simp only [Bool.and_eq_true, beq_iff_eq] at hfound
  exact hfound.1

/-- What comes of each policy. -/
theorem settle_ok {effect : HostPromptEffect} (h : settle policy chosen prompt decision stream = .ok effect) :
    match chosen.effect with
    | .pkKill => ∃ selected, effect = .pkKill selected prompt.contenders
    | .advanceRevote => ∃ phaseId, effect = .advancePhase phaseId "revote" none
    | .advanceNight => ∃ phaseId, effect = .advancePhase phaseId "no_majority_no_lynch" none
    | .skipNextDay => ∃ phaseId skipped, effect = .advancePhase phaseId "skip_next_day" (some skipped)
    | .acknowledgeOnly => effect = .acknowledgeOnly := by
  unfold settle at h
  split at h
  case h_1 heffect | h_2 heffect | h_3 heffect =>
    obtain ⟨phaseId, -, h⟩ := Fallible.bind_eq_ok.1 h
    obtain ⟨-, -, h⟩ := Fallible.bind_eq_ok.1 h
    rw [heffect]
    exact ⟨phaseId, (Except.ok.inj h).symm⟩
  case h_4 heffect | h_5 heffect =>
    rw [heffect]
    exact (Except.ok.inj h).symm
  case h_6 heffect =>
    obtain ⟨⟨skipped, phaseId⟩, -, h⟩ := Fallible.bind_eq_ok.1 h
    obtain ⟨-, -, h⟩ := Fallible.bind_eq_ok.1 h
    obtain ⟨-, -, h⟩ := Fallible.bind_eq_ok.1 h
    rw [heffect]
    exact ⟨phaseId, skipped, (Except.ok.inj h).symm⟩
  case h_7 heffect =>
    split at h
    case h_2 => cases h
    case h_1 selected =>
      split at h
      case isFalse => cases h
      case isTrue =>
        rw [heffect]
        exact ⟨selected, (Except.ok.inj h).symm⟩
  case h_8 => cases h

/-- Two policies of one effect come to the same in one phase, if a slot is chosen from the same
contenders. -/
theorem settle_congr {chosen' : HostPromptResolutionEffectPolicy} {effect : HostPromptEffect}
    (hdecision : chosen'.decision = chosen.decision) (heffect : chosen'.effect = chosen.effect)
    (hphase : prompt'.phaseId = prompt.phaseId)
    (hcontenders : chosen.effect = .pkKill → prompt'.contenders = prompt.contenders)
    (h : settle policy chosen prompt decision stream = .ok effect) :
    settle policy chosen' prompt' decision stream = .ok effect := by
  unfold settle at h ⊢
  rw [hdecision, heffect, hphase]
  split at h
  case h_7 hkill =>
    rw [hcontenders hkill]
    exact h
  case h_8 => cases h
  all_goals exact h

/-- The phase a public resolution is about. -/
def HostPromptPublicResolution.source : HostPromptPublicResolution → PhaseId
  | .dayVoteElimination phaseId _ _ => phaseId
  | .phaseAdvance sourcePhaseId _ _ _ => sourcePhaseId
  | .acknowledged phaseId _ => phaseId

/-- The effect it tells of. -/
def HostPromptPublicResolution.effect : HostPromptPublicResolution → HostPromptResolutionEffect
  | .dayVoteElimination .. => .pkKill
  | .phaseAdvance _ _ reason _ =>
    if reason = "revote" then .advanceRevote
    else if reason = "skip_next_day" then .skipNextDay
    else .advanceNight
  | .acknowledged .. => .acknowledgeOnly

theorem publicResolution_source (effect : HostPromptEffect) :
    (hostPromptPublicResolution prompt effect).source = prompt.phaseId := by
  cases effect <;> rfl

theorem publicResolution_effect {effect : HostPromptEffect}
    (h : settle policy chosen prompt decision stream = .ok effect) :
    (hostPromptPublicResolution prompt effect).effect = chosen.effect := by
  have hok := settle_ok h
  cases heffect : chosen.effect with
  | pkKill =>
    rw [heffect] at hok
    obtain ⟨selected, rfl⟩ := hok
    rfl
  | advanceRevote | advanceNight =>
    rw [heffect] at hok
    obtain ⟨phaseId, rfl⟩ := hok
    rfl
  | skipNextDay =>
    rw [heffect] at hok
    obtain ⟨phaseId, skipped, rfl⟩ := hok
    rfl
  | acknowledgeOnly =>
    rw [heffect] at hok
    obtain rfl := hok
    rfl

/-- Two prompts of one effect have the same public resolution if they are of one phase and, unless the
phase moves, have one reason. -/
theorem publicResolution_congr {effect : HostPromptEffect} (hphase : prompt'.phaseId = prompt.phaseId)
    (hreason : (∀ phaseId reason skipped, effect ≠ .advancePhase phaseId reason skipped) →
      prompt'.reason = prompt.reason) :
    hostPromptPublicResolution prompt' effect = hostPromptPublicResolution prompt effect := by
  cases effect with
  | pkKill selected contenders | acknowledgeOnly =>
    have hreason := hreason (by simp)
    unfold hostPromptPublicResolution
    rw [hphase, hreason]
  | advancePhase =>
    unfold hostPromptPublicResolution
    rw [hphase]

end Effects

/-! ## The envelope of a chosen slot -/

section Envelope

variable [Float64 F] {document : Pack F} {gameId selected : String} {prompt prompt' : HostPromptRow}
  {contenders contenders' : List String} {decision : HostPromptDecision} {seq : Nat}
  {envelope : RebuiltResolutionEnvelope F}

/-- The envelope names the prompt's phase, its kind and the contenders. -/
theorem buildPk_ok (h : buildPkPromptResolution document gameId prompt selected contenders decision
      seq = .ok envelope) :
    envelope.applied.phaseId = prompt.phaseId ∧ envelope.detail.kind = prompt.kind ∧
      envelope.detail.contenders = contenders := by
  unfold buildPkPromptResolution at h
  dsimp only at h
  split at h
  case h_1 => cases h
  case h_2 => cases h
  case h_3 =>
    obtain rfl := Except.ok.inj h
    exact ⟨rfl, rfl, rfl⟩

theorem buildPk_congr (hid : prompt.promptId = prompt'.promptId)
    (hphase : prompt.phaseId = prompt'.phaseId) (hkind : prompt.kind = prompt'.kind)
    (hreason : prompt.reason = prompt'.reason) :
    buildPkPromptResolution document gameId prompt selected contenders decision seq =
      buildPkPromptResolution document gameId prompt' selected contenders decision seq := by
  unfold buildPkPromptResolution pkResolutionApplied
  rw [hid, hphase, hkind, hreason]

end Envelope

/-! ## The two paths compared -/

section Paths

variable [Float64 F] {pack : PhasePack} {document : Pack F} {gameId promptId : String}
  {alive : String → Bool} {game : Game} {decision : HostPromptDecision} {appended : PromptEvents F}

/-- What an accepted decision appends. -/
theorem resolveHostPromptEvents_ok
    (h : resolveHostPromptEvents pack document gameId alive game promptId decision = .ok appended) :
    ∃ prompt effect, game.prompts.find? (·.promptId = promptId) = some prompt ∧
      hostPromptEffect pack.hostPromptResolutionEffects pack.phases prompt decision game.stream = .ok effect ∧
      appended.resolved = ⟨prompt.promptId, prompt.phaseId, prompt.kind, prompt.reason, decision,
        hostPromptPublicResolution prompt effect⟩ ∧
      match effect with
      | .pkKill selected contenders => ∃ envelope, appended.envelope = some envelope ∧
          buildPkPromptResolution document gameId prompt selected contenders decision
            (game.stream.length + 1) = .ok envelope
      | _ => appended.envelope = none := by
  unfold resolveHostPromptEvents at h
  split at h
  case h_2 => cases h
  case h_1 prompt hprompt =>
    split at h
    case isFalse => cases h
    case isTrue =>
      obtain ⟨effect, heffect, h⟩ := Fallible.bind_eq_ok.1 h
      refine ⟨prompt, effect, hprompt, heffect, ?_⟩
      cases effect with
      | pkKill selected contenders =>
        dsimp only at h
        split at h
        case isFalse => cases h
        case isTrue =>
          obtain ⟨envelope, henvelope, h⟩ := Fallible.bind_eq_ok.1 h
          obtain rfl := Except.ok.inj h
          exact ⟨rfl, envelope, rfl, henvelope⟩
      | advancePhase | acknowledgeOnly =>
        obtain rfl := Except.ok.inj h
        exact ⟨rfl, rfl⟩

/-- The rerun, with the prompt it goes by. -/
theorem rerunStoredHostPrompt_eq {before : List StreamEvent} {resolved : HostPromptResolved}
    {first : HostPromptRow} (hfirst : (issuedUnder before resolved.promptId).head? = some first) :
    rerunStoredHostPrompt pack document gameId before resolved = (do
      let effect ← hostPromptEffect pack.hostPromptResolutionEffects pack.phases first resolved.decision
        before
      if resolved.publicResolution = hostPromptPublicResolution first effect then match effect with
        | .pkKill selected contenders =>
          return some (← buildPkPromptResolution document gameId first selected contenders
            resolved.decision (before.length + 1))
        | .advancePhase .. | .acknowledgeOnly => return none
      else
        .error (.internal
          "HostPromptResolved public_resolution does not match rebuilt prompt effect")) := by
  have hlength : (before ++ [resolved.event]).length = before.length + 1 := List.length_append
  unfold rerunStoredHostPrompt
  simp only [hostPromptFromStream_eq, hfirst, hostPromptEffect_resolved, hlength]
  rfl

section Compared

variable {stream : List StreamEvent} {first last : HostPromptRow} {effect effect' : HostPromptEffect}

/-- Two prompts with one public resolution and one envelope are resolved alike. -/
theorem resolvedAlike_of_rerun
    (h : hostPromptEffect pack.hostPromptResolutionEffects pack.phases last decision stream = .ok effect)
    (h' : hostPromptEffect pack.hostPromptResolutionEffects pack.phases first decision stream = .ok effect')
    (hpublic : hostPromptPublicResolution last effect = hostPromptPublicResolution first effect')
    (hdetail : ∀ selected contenders selected' contenders', effect = .pkKill selected contenders →
      effect' = .pkKill selected' contenders' → first.kind = last.kind ∧ contenders' = contenders) :
    ResolvedAlike pack.hostPromptResolutionEffects decision first last := by
  obtain ⟨chosen, hchosen, hsettle⟩ := policyOf?_of_ok h
  obtain ⟨chosen', hchosen', hsettle'⟩ := policyOf?_of_ok h'
  have hphase : first.phaseId = last.phaseId := by
    have hsource : (hostPromptPublicResolution last effect).source = last.phaseId :=
      publicResolution_source effect
    rw [← publicResolution_source effect', ← hsource, hpublic]
  have heffects : chosen'.effect = chosen.effect := by
    rw [← publicResolution_effect hsettle', ← publicResolution_effect hsettle, hpublic]
  have hok := settle_ok hsettle
  have hok' := settle_ok hsettle'
  refine ⟨hphase, chosen, chosen', hchosen, hchosen', heffects, ?_⟩
  rw [heffects] at hok'
  cases heffect : chosen.effect with
  | pkKill =>
    rw [heffect] at hok hok'
    obtain ⟨selected, rfl⟩ := hok
    obtain ⟨selected', rfl⟩ := hok'
    obtain ⟨hkind, hcontenders⟩ := hdetail _ _ _ _ rfl rfl
    obtain ⟨-, -, hreason⟩ := HostPromptPublicResolution.dayVoteElimination.inj hpublic
    exact ⟨hkind, hreason.symm, hcontenders⟩
  | acknowledgeOnly =>
    rw [heffect] at hok hok'
    obtain rfl := hok
    obtain rfl := hok'
    exact (HostPromptPublicResolution.acknowledged.inj hpublic).2.symm
  | advanceRevote => trivial
  | advanceNight => trivial
  | skipNextDay => trivial

/-- Prompts resolved alike have one effect and one public resolution. -/
theorem ResolvedAlike.settled (hlike : ResolvedAlike pack.hostPromptResolutionEffects decision first last)
    (h : hostPromptEffect pack.hostPromptResolutionEffects pack.phases last decision stream = .ok effect) :
    hostPromptEffect pack.hostPromptResolutionEffects pack.phases first decision stream = .ok effect ∧
      hostPromptPublicResolution last effect = hostPromptPublicResolution first effect ∧
      ∀ selected contenders, effect = .pkKill selected contenders →
        first.kind = last.kind ∧ first.reason = last.reason := by
  obtain ⟨hphase, chosen, chosen', hchosen, hchosen', heffects, hsame⟩ := hlike
  rw [hostPromptEffect_eq hchosen] at h
  rw [hostPromptEffect_eq hchosen']
  have hdecision : chosen'.decision = chosen.decision :=
    (policyOf?_decision hchosen').trans (policyOf?_decision hchosen).symm
  have hok := settle_ok h
  cases heffect : chosen.effect with
  | pkKill =>
    rw [heffect] at hok hsame
    obtain ⟨hkind, hreason, hcontenders⟩ := hsame
    exact ⟨settle_congr hdecision heffects hphase (fun _ => hcontenders) h,
      publicResolution_congr hphase.symm fun _ => hreason.symm, fun _ _ _ => ⟨hkind, hreason⟩⟩
  | acknowledgeOnly =>
    rw [heffect] at hok hsame
    obtain rfl := hok
    exact ⟨settle_congr hdecision heffects hphase (by simp [heffect]) h,
      publicResolution_congr hphase.symm fun _ => hsame.symm, by simp⟩
  | advanceRevote | advanceNight =>
    rw [heffect] at hok
    obtain ⟨phaseId, rfl⟩ := hok
    exact ⟨settle_congr hdecision heffects hphase (by simp [heffect]) h,
      publicResolution_congr hphase.symm fun hplain => absurd rfl (hplain _ _ _), by simp⟩
  | skipNextDay =>
    rw [heffect] at hok
    obtain ⟨phaseId, skipped, rfl⟩ := hok
    exact ⟨settle_congr hdecision heffects hphase (by simp [heffect]) h,
      publicResolution_congr hphase.symm fun hplain => absurd rfl (hplain _ _ _), by simp⟩

end Compared

theorem issuedUnder_id {stream : List StreamEvent} {prompt : HostPromptRow}
    (h : prompt ∈ issuedUnder stream promptId) : prompt.promptId = promptId := by
  simpa using (List.mem_filter.1 h).2

/-- The rerun rebuilds what an accepted decision appended exactly if the prompt first issued under its
id is resolved as the one issued last. -/
theorem rerun_iff {stream : List StreamEvent}
    (h : resolveHostPromptEvents pack document gameId alive (({} : Game).persist stream) promptId
      decision = .ok appended) :
    rerunStoredHostPrompt pack document gameId stream appended.resolved = .ok appended.envelope ↔
      Recalled pack stream promptId decision := by
  obtain ⟨prompt, effect, hprompt, heffect, hresolved, henvelope⟩ := resolveHostPromptEvents_ok h
  have hid : prompt.promptId = promptId := by simpa using List.find?_some hprompt
  obtain ⟨last, hlast, hsame⟩ := last_issued hprompt
  obtain ⟨hphases, -, hkinds, hreasons, -⟩ := HostPromptRow.mk.inj hsame
  obtain ⟨first, hfirst⟩ : ∃ first, (issuedUnder stream promptId).head? = some first := by
    cases hissued : issuedUnder stream promptId with
    | nil => exact absurd (hissued ▸ hlast) (by simp)
    | cons first _ => exact ⟨first, rfl⟩
  have hfirstId := issuedUnder_id (List.mem_of_mem_head? hfirst)
  have hstream : (({} : Game).persist stream).stream = stream := persist_stream stream
  have hfirst' : (issuedUnder stream appended.resolved.promptId).head? = some first := by
    rw [hresolved, hid]
    exact hfirst
  have hrecalled : Recalled pack stream promptId decision ↔
      ResolvedAlike pack.hostPromptResolutionEffects decision first last := by
    unfold Recalled
    rw [hfirst, hlast]
    simp
  rw [hstream, hostPromptEffect_issued hsame] at heffect
  rw [hstream] at henvelope
  rw [hrecalled, rerunStoredHostPrompt_eq hfirst', hresolved]
  dsimp only
  rw [hostPromptPublicResolution_issued hsame]
  constructor
  · intro hrerun
    obtain ⟨effect', heffect', hrerun⟩ := Fallible.bind_eq_ok.1 hrerun
    split at hrerun
    case isFalse => cases hrerun
    case isTrue hpublic =>
      refine resolvedAlike_of_rerun heffect heffect' hpublic ?_
      rintro selected contenders selected' contenders' rfl rfl
      obtain ⟨envelope, hsome, hbuild⟩ := henvelope
      obtain ⟨envelope', hbuild', hrerun⟩ := Fallible.bind_eq_ok.1 hrerun
      obtain rfl := Option.some.inj ((Except.ok.inj hrerun).trans hsome)
      obtain ⟨-, hkind, hcontenders⟩ := buildPk_ok hbuild
      obtain ⟨-, hkind', hcontenders'⟩ := buildPk_ok hbuild'
      exact ⟨hkind'.symm.trans (hkind.trans hkinds), hcontenders'.symm.trans hcontenders⟩
  · intro hlike
    obtain ⟨heffect', hpublic, hkill⟩ := hlike.settled heffect
    refine Fallible.bind_eq_ok.2 ⟨effect, heffect', ?_⟩
    rw [if_pos hpublic]
    cases effect with
    | pkKill selected contenders =>
      obtain ⟨envelope, hsome, hbuild⟩ := henvelope
      obtain ⟨hkind, hreason⟩ := hkill _ _ rfl
      have hbuilds := @buildPk_congr F _ document gameId selected first prompt contenders decision
        (stream.length + 1) (hfirstId.trans hid.symm) (hlike.1.trans hphases.symm)
        (hkind.trans hkinds.symm) (hreason.trans hreasons.symm)
      refine Fallible.bind_eq_ok.2 ⟨envelope, hbuilds.trans hbuild, ?_⟩
      rw [hsome]
      rfl
    | advancePhase | acknowledgeOnly =>
      rw [henvelope]
      rfl

end Paths

/-! ## Every game -/

/-- The history of a game: its stream, and every decision accepted, with the stream before it. -/
inductive History [Float64 F] (pack : PhasePack) (document : Pack F) (gameId : String) :
    List StreamEvent → List (List StreamEvent × PromptEvents F) → Prop where
  | start : History pack document gameId [] []
  | other {stream : List StreamEvent} {past : List (List StreamEvent × PromptEvents F)}
      (history : History pack document gameId stream past) (events : List StreamEvent) :
      History pack document gameId (stream ++ events) past
  | resolved {stream : List StreamEvent} {past : List (List StreamEvent × PromptEvents F)}
      (history : History pack document gameId stream past) {alive : String → Bool} {promptId : String}
      {decision : HostPromptDecision} {appended : PromptEvents F}
      (accepted : resolveHostPromptEvents pack document gameId alive (({} : Game).persist stream)
        promptId decision = .ok appended) :
      History pack document gameId (stream ++ appended.events) (past ++ [(stream, appended)])

section Histories

variable [Float64 F] {pack : PhasePack} {document : Pack F} {gameId : String}
  {stream : List StreamEvent} {past : List (List StreamEvent × PromptEvents F)}

/-- Every decision of a history was accepted on the stream before it, which the stream goes on from. -/
theorem History.accepted (h : History pack document gameId stream past) :
    ∀ entry ∈ past, entry.1 ++ entry.2.events <+: stream ∧
      ∃ alive promptId, resolveHostPromptEvents pack document gameId alive
        (({} : Game).persist entry.1) promptId entry.2.resolved.decision = .ok entry.2 ∧
        entry.2.resolved.promptId = promptId := by
  induction h with
  | start => simp
  | other _ events ih =>
    intro entry hentry
    obtain ⟨hbefore, haccepted⟩ := ih entry hentry
    exact ⟨hbefore.trans (List.prefix_append _ _), haccepted⟩
  | @resolved _ _ _ alive promptId decision appended haccepted ih =>
    intro entry hentry
    rcases List.mem_append.1 hentry with hearlier | hlast
    · obtain ⟨hbefore, hearlier⟩ := ih entry hearlier
      exact ⟨hbefore.trans (List.prefix_append _ _), hearlier⟩
    · obtain rfl := List.mem_singleton.1 hlast
      obtain ⟨prompt, effect, hprompt, -, hresolved, -⟩ := resolveHostPromptEvents_ok haccepted
      have hid : prompt.promptId = promptId := by simpa using List.find?_some hprompt
      refine ⟨List.prefix_rfl, alive, promptId, ?_, ?_⟩
      · rw [hresolved]
        exact haccepted
      · rw [hresolved]
        exact hid

/-- In every history, each decision is rerun on the stream up to its event, and rebuilt as it was
appended exactly if the prompt first issued under its id is resolved as the one issued last. -/
theorem audit_iff (h : History pack document gameId stream past) :
    ∀ entry ∈ past, entry.1 ++ entry.2.events <+: stream ∧
      (rerunStoredHostPrompt pack document gameId entry.1 entry.2.resolved = .ok entry.2.envelope ↔
        Recalled pack entry.1 entry.2.resolved.promptId entry.2.resolved.decision) := by
  intro entry hentry
  obtain ⟨hbefore, alive, promptId, haccepted, hid⟩ := h.accepted entry hentry
  rw [hid]
  exact ⟨hbefore, rerun_iff haccepted⟩

end Histories

/-! ## A tied day -/

open Resolver

/-- The row of an issued prompt, as `HostPromptIssued` is projected. -/
def promptRow (prompt : HostPromptIssued) : HostPromptRow where
  phaseId := prompt.phaseId
  promptId := prompt.promptId
  kind := prompt.kind
  reason := prompt.reason
  contenders := prompt.metadata.contenders

/-- The prompts a resolution issues. -/
def promptsOf (events : List (InnerEvent F)) : List HostPromptRow :=
  events.filterMap fun
    | .hostPromptIssued prompt => some (promptRow prompt)
    | _ => none

/-- A village whose host decides ties by a prompt for each of these reasons. -/
def pkVillage (reasons : List String) : Pack Rat :=
  { villagePack [] with
    vote := { (villagePack []).vote with method := .plurality, tieBreaker := .hostDecides }
    dayVotePromptPolicies := reasons.map fun reason =>
      { id := reason, statuses := [.tie], promptKind := "pk", promptReason := reason } }

/-- Whatever the reason, the slot chosen dies. -/
def pkPack (reasons : List String) : PhasePack where
  phases := { cadence := [.day, .night] }
  hostPromptResolutionEffects := reasons.map fun reason =>
    ⟨reason, "pk", reason, .selectSlot, .pkKill⟩

/-- A day with two votes for `"a"` and two for `"c"`. -/
def tiedDay (reasons : List String) : ResolutionInput Rat :=
  village ⟨pkVillage reasons, [], .of_plain (by decide) rfl rfl⟩
    { phaseId := .first .day
      slots := [townie "a", townie "b", townie "c", townie "d", goon "g"] }
    ([("a", "c"), ("b", "c"), ("d", "a"), ("g", "a")].zipIdx.map fun ((voter, target), turn) =>
      { actionId := voter, actor := voter, templateId := "day_vote", targets := [target]
        phaseId := .first .day, submittedAt := turn })

/-- The stream of the game once the tied day is resolved. -/
def tiedStream (reasons : List String) : List StreamEvent :=
  .gameStarted (.first .day) :: ((resolve (tiedDay reasons)).toOption.map fun out =>
      .resolutionApplied (.first .day) (promptsOf (out.applied.events.map (·.event)))).toList

/-- The prompt that asks the host to choose. -/
def pkPrompt (reason : String) : HostPromptRow where
  phaseId := .first .day
  promptId := "D01:pk:Tie"
  kind := "pk"
  reason
  contenders := ["a", "c"]

/-- The host's choice of `"a"` on the tied day. -/
def chooseA (reasons : List String) : Except Reject (PromptEvents Rat) :=
  resolveHostPromptEvents (pkPack reasons) (pkVillage reasons) "village" (fun _ => true)
    (({} : Game).persist (tiedStream reasons)) "D01:pk:Tie" (.selectSlot "a")

theorem chooseA_id {reasons : List String} {appended : PromptEvents Rat}
    (h : chooseA reasons = .ok appended) :
    appended.resolved.promptId = "D01:pk:Tie" ∧ appended.resolved.decision = .selectSlot "a" := by
  obtain ⟨prompt, effect, hprompt, -, hresolved, -⟩ := resolveHostPromptEvents_ok h
  have hid : prompt.promptId = "D01:pk:Tie" := by simpa using List.find?_some hprompt
  rw [hresolved]
  exact ⟨hid, rfl⟩

theorem chooseA_history {reasons : List String} {appended : PromptEvents Rat}
    (h : chooseA reasons = .ok appended) :
    History (pkPack reasons) (pkVillage reasons) "village" (tiedStream reasons ++ appended.events)
      [(tiedStream reasons, appended)] :=
  .resolved (.other .start (tiedStream reasons)) h

/-- Where one prompt is issued, the choice is rebuilt. -/
theorem oneReason_rebuilt : ∃ appended, chooseA ["tie"] = .ok appended ∧ appended.envelope.isSome = true ∧
      rerunStoredHostPrompt (pkPack ["tie"]) (pkVillage ["tie"]) "village" (tiedStream ["tie"])
        appended.resolved = .ok appended.envelope := by
  have hissued : issuedUnder (tiedStream ["tie"]) "D01:pk:Tie" = [pkPrompt "tie"] := by
    decide +kernel
  have hchoice : (chooseA ["tie"]).toOption.map (·.envelope.isSome) = some true := by decide +kernel
  cases haccepted : chooseA ["tie"] with
  | error _ => exact absurd hchoice (by simp [haccepted, Except.toOption])
  | ok appended =>
    have hsome : appended.envelope.isSome = true := by
      simpa [haccepted, Except.toOption] using hchoice
    obtain ⟨hid, hdecision⟩ := chooseA_id haccepted
    refine ⟨appended, rfl, hsome, (audit_iff (chooseA_history haccepted) _ List.mem_cons_self).2.2 ?_⟩
    rw [hid, hdecision]
    intro first hfirst last hlast
    rw [hissued] at hfirst hlast
    obtain rfl := Option.some.inj hfirst
    obtain rfl := Option.some.inj hlast
    exact ⟨rfl, _, _, rfl, rfl, rfl, rfl, rfl, rfl⟩

/-- Where a tie issues two prompts under one id, the host resolves the last one and the rerun goes by
the first: the audit finds drift in a stream nobody has touched. -/
theorem twoReasons_drift : ∃ appended, chooseA ["tie", "runoff"] = .ok appended ∧
      History (pkPack ["tie", "runoff"]) (pkVillage ["tie", "runoff"]) "village"
        (tiedStream ["tie", "runoff"] ++ appended.events) [(tiedStream ["tie", "runoff"], appended)] ∧
      rerunStoredHostPrompt (pkPack ["tie", "runoff"]) (pkVillage ["tie", "runoff"]) "village"
        (tiedStream ["tie", "runoff"]) appended.resolved ≠ .ok appended.envelope := by
  have hissued : issuedUnder (tiedStream ["tie", "runoff"]) "D01:pk:Tie" =
      [pkPrompt "tie", pkPrompt "runoff"] := by
    decide +kernel
  have hchoice : (chooseA ["tie", "runoff"]).toOption.isSome = true := by decide +kernel
  cases haccepted : chooseA ["tie", "runoff"] with
  | error _ => exact absurd hchoice (by simp [haccepted, Except.toOption])
  | ok appended =>
    refine ⟨appended, rfl, chooseA_history haccepted, fun hrerun => ?_⟩
    have hrecalled := (rerun_iff haccepted).1 hrerun (pkPrompt "tie") (by rw [hissued]; rfl)
      (pkPrompt "runoff") (by rw [hissued]; rfl)
    obtain ⟨-, chosen, chosen', hchosen, -, -, hsame⟩ := hrecalled
    obtain rfl := Option.some.inj hchosen
    exact absurd hsame.2.1 (by decide)

end Fmarch.Commands
