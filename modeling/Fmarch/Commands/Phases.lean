import Fmarch.Domain.Pack
import Fmarch.Lib.Fallible
import Fmarch.Platform.Values

/-!
# Phases in order (`commands`, `host_prompt_resolution`)

After a game has started, its phase changes when the host advances it, when a scheduler advances it
past its deadline, and when the host resolves a prompt with a revote, with the night or with the next
day skipped. Each command reads the stream and the projections, appends events and folds them into the
projections. Every other command appends events that enter no phase.

Game order is by cycle, then by the place in the pack's cadence, then by revote attempt. Advancing keeps
it. A prompt does not: it is resolved against the phase it was issued in, whatever the phase is by then,
and the night it opens is the one of its own cycle, wherever the cadence puts it.

**`phases_in_order`**: as long as every prompt that moves the phase is `Timely`, each phase entered is
later than all before it, and none is entered twice; and a prompt resolved in such a game keeps the order
exactly if it is timely. Two prompts of one phase are enough for one not to be (`skipTwice_reenters`).

Who may issue a command is decided before and can only refuse it; it is not modelled.
-/

namespace Fmarch.Commands

open Domain Platform

/-! ## The stream and its projections -/

/-- `HostPromptDecision`, less the metadata that is only stored. -/
inductive HostPromptDecision where
  | selectSlot (slot : String)
  | acknowledge
  | selectPolicy (policy : String)

/-- The columns of `host_prompt` the commands read. -/
structure HostPromptRow where
  phaseId : PhaseId
  promptId : String
  kind : String
  reason : String
  contenders : List String := []
  pending : Bool := true
  deriving DecidableEq

structure PhaseStateRow where
  phaseId : PhaseId
  locked : Bool := false
  deadline : Option Int := none

/-- The payload of `PhaseAdvanced`. -/
structure PhaseAdvanced where
  phaseId : PhaseId
  sourcePhaseId : PhaseId
  reason : String
  sourcePromptId : Option String := none
  skippedPhaseId : Option PhaseId := none

/-- The events that the phase commands read or that change what they read. -/
inductive StreamEvent where
  | gameStarted (phaseId : PhaseId)
  | phaseAdvanced (payload : PhaseAdvanced)
  | phaseDeadlineElapsed (phaseId : PhaseId) (deadlineAt observedAt : Int)
  | deadlineSet (phaseId : PhaseId) (deadline : Int)
  | threadLocked (locked : Bool)
  | resolutionApplied (phaseId : PhaseId) (prompts : List HostPromptRow)
  | hostPromptResolved (promptId : String) (phaseId : PhaseId) (decision : HostPromptDecision)

/-- The phase an event enters. -/
def StreamEvent.enters : StreamEvent → Option PhaseId
  | .gameStarted phaseId => some phaseId
  | .phaseAdvanced payload => some payload.phaseId
  | _ => none

/-- The stream of a game, and the projections folded from it; the prompts stand in the order of the
query `host_prompts`. -/
structure Game where
  stream : List StreamEvent := []
  phase : Option PhaseStateRow := none
  prompts : List HostPromptRow := []

/-- The upsert of an issued prompt: a row with its id takes its columns, but stays resolved if it is. -/
def upsertPrompt (rows : List HostPromptRow) (prompt : HostPromptRow) : List HostPromptRow :=
  if rows.any (·.promptId = prompt.promptId) then
    rows.map fun row =>
      if row.promptId = prompt.promptId then { prompt with pending := row.pending } else row
  else rows ++ [{ prompt with pending := true }]

namespace Game

/-- The fold of one event into `phase_state` and `host_prompt`. -/
def project (game : Game) : StreamEvent → Game
  | .gameStarted phaseId => { game with phase := some { phaseId } }
  | .phaseAdvanced payload => { game with phase := some { phaseId := payload.phaseId } }
  | .deadlineSet phaseId deadline =>
    let row := game.phase.getD { phaseId }
    { game with phase := some (if row.phaseId = phaseId then { row with deadline } else row) }
  | .threadLocked locked => { game with phase := game.phase.map ({ · with locked }) }
  | .resolutionApplied _ prompts => { game with prompts := prompts.foldl upsertPrompt game.prompts }
  | .hostPromptResolved promptId _ _ =>
    { game with prompts := game.prompts.map fun row =>
        if row.promptId = promptId then { row with pending := false } else row }
  | .phaseDeadlineElapsed .. => game

/-- One event appended and folded. -/
def append (game : Game) (event : StreamEvent) : Game :=
  { game.project event with stream := game.stream ++ [event] }

def persist (game : Game) (events : List StreamEvent) : Game := events.foldl append game

/-- The phases entered, in order. -/
def entered (game : Game) : List PhaseId := game.stream.filterMap StreamEvent.enters

end Game

/-! ## The pack -/

inductive HostPromptDecisionKind where
  | selectSlot
  | selectPolicy
  | acknowledge
  deriving DecidableEq

inductive HostPromptResolutionEffect where
  | pkKill
  | advanceRevote
  | advanceNight
  | skipNextDay
  | acknowledgeOnly
  deriving DecidableEq

structure HostPromptResolutionEffectPolicy where
  id : String
  promptKind : String
  promptReason : String
  decision : HostPromptDecisionKind
  effect : HostPromptResolutionEffect

/-- The parts of the game's pack that the phase commands read. -/
structure PhasePack where
  phases : PhasePolicy
  hostPromptResolutionEffects : List HostPromptResolutionEffectPolicy := []

/-- The rejections of the phase commands. -/
inductive Reject where
  | invalidTarget
  | phaseLocked
  | unknownPrompt
  | promptAlreadyResolved
  | invalidPromptDecision
  | slotNotAlive
  | internal (message : String)

/-! ## The next phase -/

/-- `u32::checked_add`. -/
def checkedAddU32 (a b : Nat) : Option Nat := if a + b < 2 ^ 32 then some (a + b) else none

def validatePhaseIdForPolicy (policy : PhasePolicy) (phaseId : PhaseId) : Except Reject Unit :=
  if phaseId.kind ∉ policy.cadence then .error .invalidTarget
  else if phaseId.kind = .twilight ∧ policy.twilight = false then .error .invalidTarget
  else .ok ()

def nextDeclaredPhaseId (policy : PhasePolicy) (source : PhaseId) : Except Reject PhaseId := do
  let some sourceIndex := policy.cadence.idxOf? source.kind | .error .invalidTarget
  let nextIndex := (sourceIndex + 1) % policy.cadence.length
  let some nextKind := policy.cadence[nextIndex]? | .error .invalidTarget
  let some nextNumber :=
    (if nextIndex ≤ sourceIndex then checkedAddU32 source.number 1 else some source.number)
    | .error .invalidTarget
  let some phaseId := PhaseId.compose nextKind nextNumber | .error .invalidTarget
  validatePhaseIdForPolicy policy phaseId
  return phaseId

/-- The latest revote attempt of a phase that was entered. -/
def maxExistingAttempt (stream : List StreamEvent) (base : PhaseId) : Nat :=
  (((stream.filterMap StreamEvent.enters).filter fun phaseId => phaseId.revoteBase = base).filterMap
    (·.revote)).max?.getD 0

def nextRevotePhaseId (stream : List StreamEvent) (source : PhaseId) : Except Reject PhaseId := do
  let base := source.revoteBase
  let some nextAttempt := checkedAddU32 (maxExistingAttempt stream base) 1
    | .error (.internal "revote attempt overflowed the canonical phase-id range")
  let some phaseId := PhaseId.composeWithRevote base.kind base.number nextAttempt
    | .error (.internal "cannot compose revote phase id")
  return phaseId

def noMajorityAdvanceNightTarget (source : PhaseId) : Except Reject PhaseId :=
  match PhaseId.compose .night source.number with
  | some phaseId => .ok phaseId
  | none => .error (.internal "cannot compose next night phase")

def skipNextDayTarget (source : PhaseId) : Except Reject (PhaseId × PhaseId) := do
  let some nextNumber := checkedAddU32 source.number 1
    | .error (.internal "phase ordinal overflowed the canonical range")
  let some skippedDay := PhaseId.compose .day nextNumber
    | .error (.internal "cannot compose skipped day phase")
  let some nextNight := PhaseId.compose .night nextNumber
    | .error (.internal "cannot compose next night phase")
  return (skippedDay, nextNight)

/-! ## Host prompts -/

inductive HostPromptEffect where
  | pkKill (selected : String) (contenders : List String)
  | advancePhase (phaseId : PhaseId) (reason : String) (skippedPhaseId : Option PhaseId)
  | acknowledgeOnly

def hostPromptDecisionKind : HostPromptDecision → HostPromptDecisionKind
  | .selectSlot _ => .selectSlot
  | .selectPolicy _ => .selectPolicy
  | .acknowledge => .acknowledge

def hostPromptSelectedPolicy : HostPromptDecision → Option String
  | .selectPolicy policy => some policy
  | _ => none

/-- The policy that `host_prompt_effect` goes by. -/
def policyOf? (policies : List HostPromptResolutionEffectPolicy) (prompt : HostPromptRow)
    (decision : HostPromptDecision) : Option HostPromptResolutionEffectPolicy :=
  (policies.filter fun policy =>
      policy.promptKind = prompt.kind ∧ policy.promptReason = prompt.reason).find? fun policy =>
    policy.decision == hostPromptDecisionKind decision &&
      (hostPromptSelectedPolicy decision).all (policy.id == ·)

def hostPromptEffect (policies : List HostPromptResolutionEffectPolicy) (phasePolicy : PhasePolicy)
    (prompt : HostPromptRow) (decision : HostPromptDecision) (stream : List StreamEvent) :
    Except Reject HostPromptEffect := do
  if (policies.filter fun policy =>
      policy.promptKind = prompt.kind ∧ policy.promptReason = prompt.reason).isEmpty then
    .error (.internal s!"pack has no host prompt resolution effect for {prompt.kind}:{prompt.reason}")
  else
    let some policy := policyOf? policies prompt decision | .error .invalidPromptDecision
    match policy.decision, policy.effect with
    | .selectPolicy, .advanceRevote | .acknowledge, .advanceRevote =>
      let phaseId ← nextRevotePhaseId stream prompt.phaseId
      validatePhaseIdForPolicy phasePolicy phaseId
      return .advancePhase phaseId "revote" none
    | .selectPolicy, .advanceNight =>
      let phaseId ← noMajorityAdvanceNightTarget prompt.phaseId
      validatePhaseIdForPolicy phasePolicy phaseId
      return .advancePhase phaseId "no_majority_no_lynch" none
    | .selectPolicy, .acknowledgeOnly | .acknowledge, .acknowledgeOnly => return .acknowledgeOnly
    | .acknowledge, .skipNextDay =>
      let (skippedPhaseId, phaseId) ← skipNextDayTarget prompt.phaseId
      validatePhaseIdForPolicy phasePolicy skippedPhaseId
      validatePhaseIdForPolicy phasePolicy phaseId
      return .advancePhase phaseId "skip_next_day" (some skippedPhaseId)
    | .selectSlot, .pkKill =>
      let .selectSlot selected := decision | .error .invalidPromptDecision
      if selected ∈ prompt.contenders then return .pkKill selected prompt.contenders
      else .error .invalidPromptDecision
    | _, _ => .error (.internal s!"invalid host prompt resolution effect policy `{policy.id}`")

/-- `resolve_host_prompt`; `alive` are the slots `require_slot_alive` finds alive. -/
def resolveHostPrompt (pack : PhasePack) (alive : String → Bool) (game : Game) (promptId : String)
    (decision : HostPromptDecision) : Except Reject Game := do
  let some prompt := game.prompts.find? (·.promptId = promptId) | .error .unknownPrompt
  if prompt.pending then
    let effect ← hostPromptEffect pack.hostPromptResolutionEffects pack.phases prompt decision
      game.stream
    let resolved := StreamEvent.hostPromptResolved promptId prompt.phaseId decision
    match effect with
    | .pkKill selected _ =>
      if alive selected then
        return game.persist [resolved, .resolutionApplied prompt.phaseId []]
      else .error .slotNotAlive
    | .advancePhase phaseId reason skippedPhaseId =>
      return game.persist [resolved, .phaseAdvanced
        { phaseId, sourcePhaseId := prompt.phaseId, reason, sourcePromptId := some promptId
          skippedPhaseId }]
    | .acknowledgeOnly => return game.persist [resolved]
  else .error .promptAlreadyResolved

/-! ## Advancing -/

def phaseHasPendingPrompt (game : Game) (phaseId : PhaseId) : Bool :=
  game.prompts.any fun prompt => prompt.phaseId = phaseId ∧ prompt.pending

/-- `resolved_locked_phase_stream`. -/
def resolvedLockedPhase (game : Game) : Except Reject PhaseStateRow := do
  let some phase := game.phase | .error .phaseLocked
  if !phase.locked || phaseHasPendingPrompt game phase.phaseId then .error .invalidTarget
  else if game.stream.any fun | .resolutionApplied phaseId _ => phaseId = phase.phaseId | _ => false then
    return phase
  else .error .invalidTarget

def advancePhase (pack : PhasePack) (game : Game) : Except Reject Game := do
  let phase ← resolvedLockedPhase game
  let phaseId ← nextDeclaredPhaseId pack.phases phase.phaseId
  return game.persist [.phaseAdvanced { phaseId, sourcePhaseId := phase.phaseId, reason := "resolved_phase" }]

def advancePhaseByDeadline (pack : PhasePack) (game : Game) (phaseId : PhaseId) (observedAt : Int) :
    Except Reject Game := do
  let phase ← resolvedLockedPhase game
  if phase.phaseId ≠ phaseId then .error .invalidTarget
  else
    let some deadlineAt := phase.deadline | .error .invalidTarget
    if observedAt < deadlineAt then .error .invalidTarget
    else
      let next ← nextDeclaredPhaseId pack.phases phase.phaseId
      return game.persist [.phaseDeadlineElapsed phase.phaseId deadlineAt observedAt,
        .phaseAdvanced { phaseId := next, sourcePhaseId := phase.phaseId, reason := "deadline_elapsed" }]

/-- The commands after the start of the game; `other` stands for those that enter no phase. -/
inductive Command where
  | advancePhase
  | advancePhaseByDeadline (phaseId : PhaseId) (observedAt : Int)
  | resolveHostPrompt (alive : String → Bool) (promptId : String) (decision : HostPromptDecision)
  | other (events : List StreamEvent)

/-- A command that is accepted. -/
inductive Step (pack : PhasePack) (game : Game) : Command → Game → Prop where
  | advancePhase {next : Game} (accepted : advancePhase pack game = .ok next) :
      Step pack game .advancePhase next
  | advancePhaseByDeadline {next : Game} {phaseId : PhaseId} {observedAt : Int}
      (accepted : advancePhaseByDeadline pack game phaseId observedAt = .ok next) :
      Step pack game (.advancePhaseByDeadline phaseId observedAt) next
  | resolveHostPrompt {next : Game} {alive : String → Bool} {promptId : String}
      {decision : HostPromptDecision}
      (accepted : resolveHostPrompt pack alive game promptId decision = .ok next) :
      Step pack game (.resolveHostPrompt alive promptId decision) next
  | other {events : List StreamEvent} (plain : ∀ event ∈ events, event.enters = none) :
      Step pack game (.other events) (game.persist events)

/-- The game's current phase. -/
def Game.At (game : Game) (phaseId : PhaseId) : Prop :=
  ∃ row, game.phase = some row ∧ row.phaseId = phaseId

/-- The game has just started. -/
def Started (game : Game) : Prop := ∃ phaseId, game.entered = [phaseId] ∧ game.At phaseId

/-! ## Game order -/

/-- The phase comes earlier: in an earlier cycle, earlier in the cadence, or at an earlier attempt. -/
def Before (cadence : List PhaseKind) (a b : PhaseId) : Prop :=
  a.number < b.number ∨ a.number = b.number ∧ (cadence.idxOf a.kind < cadence.idxOf b.kind ∨
      cadence.idxOf a.kind = cadence.idxOf b.kind ∧ a.revote.getD 0 < b.revote.getD 0)

/-- Each phase is entered after the ones before it in game order. -/
def InOrder (cadence : List PhaseKind) (game : Game) : Prop :=
  game.entered.Pairwise (Before cadence)

section Order

variable {cadence : List PhaseKind} {a b c : PhaseId}

theorem Before.trans (hab : Before cadence a b) (hbc : Before cadence b c) : Before cadence a c := by
  unfold Before at *
  omega

theorem Before.ne (h : Before cadence a b) : a ≠ b := by
  rintro rfl
  unfold Before at h
  omega

theorem InOrder.nodup {game : Game} (h : InOrder cadence game) : game.entered.Nodup :=
  List.Pairwise.imp Before.ne h

theorem idxOf_eq {a b : PhaseKind} (hb : b ∈ cadence) (h : cadence.idxOf a = cadence.idxOf b) : a = b := by
  have ha : a ∈ cadence := List.idxOf_lt_length_iff.1 (h ▸ List.idxOf_lt_length_iff.2 hb)
  exact (List.idxOf_inj ha).1 h

end Order

/-! ## Events and phases -/

section Events

variable {game : Game} {event : StreamEvent} {events : List StreamEvent} {phaseId : PhaseId}

theorem append_stream : (game.append event).stream = game.stream ++ [event] := rfl

theorem append_entered : (game.append event).entered = game.entered ++ event.enters.toList := by
  unfold Game.entered
  rw [append_stream, List.filterMap_append]
  cases h : event.enters <;> simp [h]

/-- An event that enters no phase leaves the game where it is. -/
theorem Game.At.append (h : game.At phaseId) (hplain : event.enters = none) :
    (game.append event).At phaseId := by
  obtain ⟨row, hrow, rfl⟩ := h
  cases event with
  | gameStarted | phaseAdvanced => exact absurd hplain (by simp [StreamEvent.enters])
  | deadlineSet other deadline =>
    refine ⟨_, rfl, ?_⟩
    rw [hrow, Option.getD_some]
    by_cases hother : row.phaseId = other
    · rw [if_pos hother]
    · rw [if_neg hother]
  | threadLocked locked => exact ⟨{ row with locked }, by simp [Game.append, Game.project, hrow], rfl⟩
  | resolutionApplied => exact ⟨row, hrow, rfl⟩
  | hostPromptResolved => exact ⟨row, hrow, rfl⟩
  | phaseDeadlineElapsed => exact ⟨row, hrow, rfl⟩

/-- An event that enters a phase takes the game there. -/
theorem append_at (h : event.enters = some phaseId) : (game.append event).At phaseId := by
  cases event with
  | gameStarted started | phaseAdvanced payload => exact ⟨_, rfl, Option.some.inj h⟩
  | deadlineSet
  | threadLocked
  | resolutionApplied
  | hostPromptResolved
  | phaseDeadlineElapsed => exact absurd h (by simp [StreamEvent.enters])

/-- The phases of a game stand in order, and the last one is its phase. -/
def Ordered (cadence : List PhaseKind) (game : Game) : Prop :=
  InOrder cadence game ∧ ∃ earlier current, game.entered = earlier ++ [current] ∧ game.At current

theorem Started.ordered {cadence : List PhaseKind} (h : Started game) : Ordered cadence game := by
  obtain ⟨phaseId, hentered, hat⟩ := h
  refine ⟨?_, [], phaseId, hentered, hat⟩
  unfold InOrder
  rw [hentered]
  exact List.pairwise_singleton ..

variable {cadence : List PhaseKind}

theorem Ordered.append (h : Ordered cadence game) (hplain : event.enters = none) :
    Ordered cadence (game.append event) := by
  obtain ⟨horder, earlier, current, hentered, hat⟩ := h
  have hsame : (game.append event).entered = game.entered := by
    rw [append_entered, hplain, Option.toList_none, List.append_nil]
  refine ⟨?_, earlier, current, hsame.trans hentered, hat.append hplain⟩
  unfold InOrder
  rw [hsame]
  exact horder

theorem Ordered.persist (h : Ordered cadence game) (hplain : ∀ event ∈ events, event.enters = none) :
    Ordered cadence (game.persist events) := by
  unfold Game.persist
  induction events generalizing game with
  | nil => exact h
  | cons event events ih =>
    exact ih (h.append (hplain event List.mem_cons_self))
      fun other hother => hplain other (List.mem_cons_of_mem _ hother)

/-- Entering a phase keeps the order exactly if the game's phase is before it. -/
theorem Ordered.enter_iff (h : Ordered cadence game) {current : PhaseId} (hat : game.At current)
    (henters : event.enters = some phaseId) :
    InOrder cadence (game.append event) ↔ Before cadence current phaseId := by
  obtain ⟨horder, earlier, last, hentered, row, hrow, rfl⟩ := h
  obtain ⟨row', hrow', rfl⟩ := hat
  obtain rfl := Option.some.inj (hrow.symm.trans hrow')
  unfold InOrder at horder ⊢
  rw [append_entered, henters, Option.toList_some, List.pairwise_append]
  constructor
  · rintro ⟨-, -, hbefore⟩
    exact hbefore _ (hentered ▸ List.mem_append_right _ List.mem_cons_self) _ List.mem_cons_self
  · intro hbefore
    refine ⟨horder, List.pairwise_singleton .., fun phase hphase target htarget => ?_⟩
    obtain rfl := List.mem_singleton.1 htarget
    rw [hentered] at hphase horder
    rcases List.mem_append.1 hphase with hearlier | hlast
    · have hlast := (List.pairwise_append.1 horder).2.2 phase hearlier _ List.mem_cons_self
      exact hlast.trans hbefore
    · exact List.mem_singleton.1 hlast ▸ hbefore

theorem Ordered.enter (h : Ordered cadence game) {current : PhaseId} (hat : game.At current)
    (henters : event.enters = some phaseId) (hbefore : Before cadence current phaseId) :
    Ordered cadence (game.append event) := by
  refine ⟨(h.enter_iff hat henters).2 hbefore, game.entered, phaseId, ?_, append_at henters⟩
  rw [append_entered, henters]
  rfl

end Events

/-! ## The phase a command enters -/

theorem checkedAddU32_eq_some {a b sum : Nat} (h : checkedAddU32 a b = some sum) : sum = a + b := by
  unfold checkedAddU32 at h
  split at h
  · exact (Option.some.inj h).symm
  · cases h

theorem validatePhaseIdForPolicy_mem {policy : PhasePolicy} {phaseId : PhaseId}
    (h : validatePhaseIdForPolicy policy phaseId = .ok ()) : phaseId.kind ∈ policy.cadence := by
  unfold validatePhaseIdForPolicy at h
  by_contra hmissing
  rw [if_pos hmissing] at h
  cases h

variable {next source : PhaseId}

/-- The next declared phase comes later. -/
theorem nextDeclared_before {policy : PhasePolicy} (hnodup : policy.cadence.Nodup)
    (h : nextDeclaredPhaseId policy source = .ok next) :
    Before policy.cadence source next := by
  unfold nextDeclaredPhaseId at h
  dsimp only at h
  split at h
  case h_2 => cases h
  case h_1 sourceIndex hsource =>
    split at h
    case h_2 => cases h
    case h_1 nextKind hnext =>
      split at h
      case h_2 => cases h
      case h_1 nextNumber hnumber =>
        split at h
        case h_2 => cases h
        case h_1 phaseId hcompose =>
          obtain ⟨_, -, h⟩ := Fallible.bind_eq_ok.1 h
          obtain rfl := Except.ok.inj h
          obtain ⟨rfl, rfl, -⟩ := PhaseId.compose_eq_some hcompose
          have hfrom : policy.cadence.idxOf source.kind = sourceIndex := by
            rw [List.idxOf_eq_getD_idxOf?, hsource, Option.getD_some]
          have hto : policy.cadence.idxOf phaseId.kind = (sourceIndex + 1) % policy.cadence.length := by
            obtain ⟨hlt, hget⟩ := List.getElem?_eq_some_iff.1 hnext
            rw [← hget, hnodup.idxOf_getElem]
          unfold Before
          rw [hfrom, hto]
          by_cases hwraps : (sourceIndex + 1) % policy.cadence.length ≤ sourceIndex
          · rw [if_pos hwraps] at hnumber
            exact .inl (by rw [checkedAddU32_eq_some hnumber]; omega)
          · rw [if_neg hwraps] at hnumber
            exact .inr ⟨Option.some.inj hnumber, .inl (by omega)⟩

/-- The attempt of every phase entered is at most the latest one. -/
theorem attempt_le {stream : List StreamEvent} {base phaseId : PhaseId}
    (hentered : phaseId ∈ stream.filterMap StreamEvent.enters) (hbase : phaseId.revoteBase = base) :
    phaseId.revote.getD 0 ≤ maxExistingAttempt stream base := by
  cases hrevote : phaseId.revote with
  | none => exact Nat.zero_le _
  | some attempt =>
    have hmem : attempt ∈ ((stream.filterMap StreamEvent.enters).filter
        fun phaseId => phaseId.revoteBase = base).filterMap (·.revote) :=
      List.mem_filterMap.2 ⟨phaseId, List.mem_filter.2 ⟨hentered, decide_eq_true hbase⟩, hrevote⟩
    unfold maxExistingAttempt
    rw [Option.getD_some]
    obtain ⟨latest, hlatest⟩ := Option.isSome_iff_exists.1
      (List.isSome_max?_of_mem hmem)
    rw [hlatest, Option.getD_some]
    exact (List.max?_eq_some_iff.1 hlatest).2 attempt hmem

theorem nextRevote_ok {stream : List StreamEvent} (h : nextRevotePhaseId stream source = .ok next) :
    next.kind = source.kind ∧ next.number = source.number ∧
      next.revote = some (maxExistingAttempt stream source.revoteBase + 1) := by
  unfold nextRevotePhaseId at h
  dsimp only at h
  split at h
  case h_2 => cases h
  case h_1 attempt hattempt =>
    split at h
    case h_2 => cases h
    case h_1 phaseId hcompose =>
      obtain rfl := Except.ok.inj h
      obtain rfl := checkedAddU32_eq_some hattempt
      exact PhaseId.composeWithRevote_eq_some hcompose

theorem advanceNight_ok (h : noMajorityAdvanceNightTarget source = .ok next) :
    next.kind = .night ∧ next.number = source.number ∧ next.revote = none := by
  unfold noMajorityAdvanceNightTarget at h
  split at h
  case h_2 => cases h
  case h_1 phaseId hcompose =>
    obtain rfl := Except.ok.inj h
    exact PhaseId.compose_eq_some hcompose

theorem skipNextDay_ok {skipped : PhaseId} (h : skipNextDayTarget source = .ok (skipped, next)) :
    next.kind = .night ∧ next.number = source.number + 1 ∧ next.revote = none := by
  unfold skipNextDayTarget at h
  split at h
  case h_2 => cases h
  case h_1 number hnumber =>
    split at h
    case h_2 => cases h
    case h_1 day hday =>
      split at h
      case h_2 => cases h
      case h_1 night hnight =>
        obtain ⟨-, rfl⟩ := Prod.mk.inj (Except.ok.inj h)
        obtain rfl := checkedAddU32_eq_some hnumber
        exact PhaseId.compose_eq_some hnight

/-! ## Prompts that are resolved in time -/

/-- The game is not past the window in which the prompt's effect takes place: the prompt's own for a
revote, the night of its cycle, or the night of the next one. -/
def InTime (cadence : List PhaseKind) (current source : PhaseId) : HostPromptResolutionEffect → Prop
  | .advanceRevote => current.number < source.number ∨
      current.number = source.number ∧ cadence.idxOf current.kind ≤ cadence.idxOf source.kind
  | .advanceNight => current.number < source.number ∨
      current.number = source.number ∧ cadence.idxOf current.kind < cadence.idxOf .night
  | .skipNextDay => current.number < source.number + 1 ∨
      current.number = source.number + 1 ∧ cadence.idxOf current.kind < cadence.idxOf .night
  | .pkKill | .acknowledgeOnly => True

/-- The prompt is resolved in time. -/
def Timely (pack : PhasePack) (game : Game) (promptId : String) (decision : HostPromptDecision) : Prop :=
  ∀ prompt policy current, game.prompts.find? (·.promptId = promptId) = some prompt →
    policyOf? pack.hostPromptResolutionEffects prompt decision = some policy → game.At current →
    InTime pack.phases.cadence current prompt.phaseId policy.effect

/-- A command that moves the phase by a prompt does so in time. -/
def Command.Timely (pack : PhasePack) (game : Game) : Command → Prop
  | .resolveHostPrompt _ promptId decision => Commands.Timely pack game promptId decision
  | _ => True

section Prompts

variable {pack : PhasePack} {game next : Game} {prompt : HostPromptRow}
  {decision : HostPromptDecision} {current : PhaseId}

variable {cadence : List PhaseKind}

theorem revote_before_iff {source target : PhaseId} (hcurrent : current ∈ game.entered)
    (h : nextRevotePhaseId game.stream source = .ok target) (hvalid : target.kind ∈ cadence) :
    Before cadence current target ↔ InTime cadence current source .advanceRevote := by
  obtain ⟨hkind, hnumber, hrevote⟩ := nextRevote_ok h
  unfold Before InTime
  rw [hkind, hnumber, hrevote, Option.getD_some]
  constructor
  · intro hbefore
    omega
  · intro htime
    by_cases hsame : current.number = source.number ∧ cadence.idxOf current.kind = cadence.idxOf source.kind
    · have hbase : current.revoteBase = source.revoteBase := by
        have hkinds := idxOf_eq (hkind ▸ hvalid) hsame.2
        unfold PhaseId.revoteBase
        simp only [hkinds, hsame.1]
      have hattempt := attempt_le hcurrent hbase
      omega
    · omega

theorem night_before_iff {target : PhaseId} {number : Nat} (hkind : target.kind = .night)
    (hnumber : target.number = number) (hrevote : target.revote = none) :
    Before cadence current target ↔ current.number < number ∨
      current.number = number ∧ cadence.idxOf current.kind < cadence.idxOf .night := by
  unfold Before
  rw [hkind, hnumber, hrevote, Option.getD_none]
  omega

/-- A prompt that moves the phase goes to a later one than the game's exactly if it is in time; any
other is always in time. -/
theorem hostPromptEffect_ok {policies : List HostPromptResolutionEffectPolicy} {policy : PhasePolicy}
    {effect : HostPromptEffect} (hcurrent : current ∈ game.entered)
    (h : hostPromptEffect policies policy prompt decision game.stream = .ok effect) :
    ∃ chosen, policyOf? policies prompt decision = some chosen ∧ match effect with
      | .advancePhase target _ _ => Before policy.cadence current target ↔
          InTime policy.cadence current prompt.phaseId chosen.effect
      | _ => InTime policy.cadence current prompt.phaseId chosen.effect := by
  unfold hostPromptEffect at h
  split at h
  case isTrue => cases h
  case isFalse =>
    split at h
    case h_2 => cases h
    case h_1 chosen hchosen =>
      refine ⟨chosen, hchosen, ?_⟩
      split at h
      case h_1 heffect | h_2 heffect =>
        obtain ⟨phaseId, hnext, h⟩ := Fallible.bind_eq_ok.1 h
        obtain ⟨⟨⟩, hvalid, h⟩ := Fallible.bind_eq_ok.1 h
        obtain rfl := Except.ok.inj h
        rw [heffect]
        exact revote_before_iff hcurrent hnext (validatePhaseIdForPolicy_mem hvalid)
      case h_3 heffect =>
        obtain ⟨phaseId, hnext, h⟩ := Fallible.bind_eq_ok.1 h
        obtain ⟨-, -, h⟩ := Fallible.bind_eq_ok.1 h
        obtain rfl := Except.ok.inj h
        obtain ⟨hkind, hnumber, hrevote⟩ := advanceNight_ok hnext
        rw [heffect]
        exact night_before_iff hkind hnumber hrevote
      case h_4 heffect | h_5 heffect =>
        obtain rfl := Except.ok.inj h
        rw [heffect]
        trivial
      case h_6 heffect =>
        obtain ⟨⟨day, phaseId⟩, hnext, h⟩ := Fallible.bind_eq_ok.1 h
        obtain ⟨-, -, h⟩ := Fallible.bind_eq_ok.1 h
        obtain ⟨-, -, h⟩ := Fallible.bind_eq_ok.1 h
        obtain rfl := Except.ok.inj h
        obtain ⟨hkind, hnumber, hrevote⟩ := skipNextDay_ok hnext
        rw [heffect]
        exact night_before_iff hkind hnumber hrevote
      case h_7 heffect =>
        split at h
        case h_2 => cases h
        case h_1 selected =>
          split at h
          case isFalse => cases h
          case isTrue =>
            obtain rfl := Except.ok.inj h
            rw [heffect]
            trivial
      case h_8 => cases h

theorem at_mem (h : Ordered cadence game) (hat : game.At current) : current ∈ game.entered := by
  obtain ⟨-, earlier, last, hentered, row, hrow, rfl⟩ := h
  obtain ⟨row', hrow', rfl⟩ := hat
  obtain rfl := Option.some.inj (hrow.symm.trans hrow')
  exact hentered ▸ List.mem_append_right _ List.mem_cons_self

/-- A prompt resolved in a game in order keeps it in order exactly if it is timely, and then the game
goes on from its last phase. -/
theorem resolveHostPrompt_iff {alive : String → Bool} {promptId : String}
    (hordered : Ordered pack.phases.cadence game)
    (h : resolveHostPrompt pack alive game promptId decision = .ok next) :
    (InOrder pack.phases.cadence next ↔ Timely pack game promptId decision) ∧
      (Timely pack game promptId decision → Ordered pack.phases.cadence next) := by
  have hlast := hordered.2
  obtain ⟨-, current, -, hat⟩ := hlast
  have hcurrent := at_mem hordered hat
  unfold resolveHostPrompt at h
  split at h
  case h_2 => cases h
  case h_1 found hfound =>
    split at h
    case isFalse => cases h
    case isTrue =>
      obtain ⟨effect, heffect, h⟩ := Fallible.bind_eq_ok.1 h
      obtain ⟨chosen, hchosen, hin⟩ := hostPromptEffect_ok hcurrent heffect
      have htimely : Timely pack game promptId decision ↔
          InTime pack.phases.cadence current found.phaseId chosen.effect := by
        constructor
        · intro h
          exact h found chosen current hfound hchosen hat
        · intro hin prompt policy phase hprompt hpolicy hphase
          obtain rfl := Option.some.inj (hfound.symm.trans hprompt)
          obtain rfl := Option.some.inj (hchosen.symm.trans hpolicy)
          obtain ⟨row, hrow, rfl⟩ := hat
          obtain ⟨row', hrow', rfl⟩ := hphase
          obtain rfl := Option.some.inj (hrow.symm.trans hrow')
          exact hin
      have hplain : (StreamEvent.hostPromptResolved promptId found.phaseId decision).enters = none := rfl
      have hresolved := hordered.append hplain
      have hresolvedAt := hat.append hplain
      rw [htimely]
      cases effect with
      | pkKill selected contenders =>
        dsimp only at h hin
        split at h
        case isFalse => cases h
        case isTrue =>
          obtain rfl := Except.ok.inj h
          have happlied : (StreamEvent.resolutionApplied found.phaseId []).enters = none := rfl
          have hnext := hresolved.append happlied
          exact ⟨iff_of_true hnext.1 hin, fun _ => hnext⟩
      | acknowledgeOnly =>
        obtain rfl := Except.ok.inj h
        exact ⟨iff_of_true hresolved.1 hin, fun _ => hresolved⟩
      | advancePhase target reason skipped =>
        obtain rfl := Except.ok.inj h
        have hbefore : Before pack.phases.cadence current target ↔ _ := hin
        rw [← hbefore]
        exact ⟨hresolved.enter_iff hresolvedAt rfl, hresolved.enter hresolvedAt rfl⟩

end Prompts

/-! ## Every run -/

section Runs

variable {pack : PhasePack} {game next : Game}

theorem resolvedLockedPhase_ok {phase : PhaseStateRow} (h : resolvedLockedPhase game = .ok phase) :
    game.phase = some phase := by
  unfold resolvedLockedPhase at h
  split at h
  case h_2 => cases h
  case h_1 row hrow =>
    split at h
    case isTrue => cases h
    case isFalse =>
      split at h
      case isFalse => cases h
      case isTrue => exact hrow.trans (congrArg some (Except.ok.inj h))

/-- A command that is in time keeps the game in order. -/
theorem Ordered.step {command : Command} (hnodup : pack.phases.cadence.Nodup)
    (h : Ordered pack.phases.cadence game) (htimely : command.Timely pack game)
    (hstep : Step pack game command next) : Ordered pack.phases.cadence next := by
  cases hstep with
  | advancePhase haccepted =>
    obtain ⟨phase, hphase, haccepted⟩ := Fallible.bind_eq_ok.1 haccepted
    obtain ⟨target, htarget, haccepted⟩ := Fallible.bind_eq_ok.1 haccepted
    obtain rfl := Except.ok.inj haccepted
    exact h.enter ⟨phase, resolvedLockedPhase_ok hphase, rfl⟩ rfl (nextDeclared_before hnodup htarget)
  | @advancePhaseByDeadline _ _ observedAt haccepted =>
    obtain ⟨phase, hphase, haccepted⟩ := Fallible.bind_eq_ok.1 haccepted
    split at haccepted
    case isTrue => cases haccepted
    case isFalse =>
      split at haccepted
      case h_2 => cases haccepted
      case h_1 deadlineAt _ =>
        split at haccepted
        case isTrue => cases haccepted
        case isFalse =>
          obtain ⟨target, htarget, haccepted⟩ := Fallible.bind_eq_ok.1 haccepted
          obtain rfl := Except.ok.inj haccepted
          have hat : game.At phase.phaseId := ⟨phase, resolvedLockedPhase_ok hphase, rfl⟩
          have hplain : (StreamEvent.phaseDeadlineElapsed phase.phaseId deadlineAt observedAt).enters =
              none := rfl
          exact (h.append hplain).enter (hat.append hplain) rfl (nextDeclared_before hnodup htarget)
  | resolveHostPrompt haccepted => exact (resolveHostPrompt_iff h haccepted).2 htimely
  | other hplain => exact h.persist hplain

/-- A run of accepted commands, each in time. -/
def TimelyRun (pack : PhasePack) : Game → Game → Prop :=
  Relation.ReflTransGen fun game next =>
    ∃ command : Command, command.Timely pack game ∧ Step pack game command next

theorem TimelyRun.ordered {start : Game} (hnodup : pack.phases.cadence.Nodup) (hstart : Started start)
    (hrun : TimelyRun pack start game) : Ordered pack.phases.cadence game := by
  induction hrun with
  | refl => exact hstart.ordered
  | tail _ hstep ih =>
    obtain ⟨command, htimely, hstep⟩ := hstep
    exact ih.step hnodup htimely hstep

/-- In every run after the start whose prompts are resolved in time, each phase is entered after the
ones before it in game order, and none twice; and the next prompt that is resolved keeps it so exactly
if it is in time. -/
theorem phases_in_order {start : Game} (hnodup : pack.phases.cadence.Nodup) (hstart : Started start)
    (hrun : TimelyRun pack start game) :
    InOrder pack.phases.cadence game ∧ game.entered.Nodup ∧ ∀ alive promptId decision next,
        resolveHostPrompt pack alive game promptId decision = .ok next →
          (InOrder pack.phases.cadence next ↔ Timely pack game promptId decision) := by
  have hordered := hrun.ordered hnodup hstart
  exact ⟨hordered.1, hordered.1.nodup, fun _ _ _ _ haccepted => (resolveHostPrompt_iff hordered haccepted).1⟩

end Runs

/-- The first night. -/
def firstNight : PhaseId := .first .night

/-- A pack of days and nights that skips the next day when a beloved princess dies. -/
def princessPack : PhasePack where
  phases := { cadence := [.day, .night] }
  hostPromptResolutionEffects :=
    [⟨"beloved_princess_skip_next_day", "skip_next_day", "beloved_princess_death", .acknowledge,
      .skipNextDay⟩]

/-- The prompt about one princess who died in the first night. -/
def princessPrompt (promptId : String) : HostPromptRow :=
  { phaseId := firstNight, promptId, kind := "skip_next_day", reason := "beloved_princess_death" }

/-- The game starts with the first night. -/
def nightStart : Game := ({} : Game).persist [.gameStarted firstNight]

/-- The first night is resolved, and two princesses have died in it. -/
def twoPrincesses : Game :=
  nightStart.persist [.resolutionApplied firstNight
    [princessPrompt "N01:skip_next_day:slot_1", princessPrompt "N01:skip_next_day:slot_2"]]

/-- The host acknowledges the first prompt. -/
def skipOnce : Game :=
  twoPrincesses.persist [.hostPromptResolved "N01:skip_next_day:slot_1" firstNight .acknowledge,
    .phaseAdvanced ⟨.second .night, firstNight, "skip_next_day",
      some "N01:skip_next_day:slot_1", some (.second .day)⟩]

/-- The host acknowledges the second prompt as well. -/
def skipTwice : Game :=
  skipOnce.persist [.hostPromptResolved "N01:skip_next_day:slot_2" firstNight .acknowledge,
    .phaseAdvanced ⟨.second .night, firstNight, "skip_next_day",
      some "N01:skip_next_day:slot_2", some (.second .day)⟩]

theorem nightStart_started : Started nightStart := ⟨firstNight, rfl, _, rfl, rfl⟩

theorem skipOnce_accepted : resolveHostPrompt princessPack (fun _ => true) twoPrincesses
    "N01:skip_next_day:slot_1" .acknowledge = .ok skipOnce := by
  rfl

theorem skipTwice_accepted : resolveHostPrompt princessPack (fun _ => true) skipOnce
    "N01:skip_next_day:slot_2" .acknowledge = .ok skipTwice := by
  rfl

theorem twoPrincesses_step : ∃ command : Command, command.Timely princessPack nightStart ∧
      Step princessPack nightStart command twoPrincesses :=
  ⟨.other _, trivial, .other (by simp [StreamEvent.enters])⟩

/-- The second night is entered twice, each time by an accepted command. -/
theorem skipTwice_reenters : princessPack.phases.cadence.Nodup ∧ Started nightStart ∧
      Relation.ReflTransGen (fun game next => ∃ command, Step princessPack game command next)
        nightStart skipTwice ∧
      ¬ InOrder princessPack.phases.cadence skipTwice ∧ ¬ skipTwice.entered.Nodup := by
  have htwice : ¬ skipTwice.entered.Nodup := by decide
  obtain ⟨_, -, hresolved⟩ := twoPrincesses_step
  exact ⟨by decide, nightStart_started, ((Relation.ReflTransGen.single ⟨_, hresolved⟩).tail
      ⟨_, .resolveHostPrompt skipOnce_accepted⟩).tail ⟨_, .resolveHostPrompt skipTwice_accepted⟩,
    fun horder => htwice horder.nodup, htwice⟩

/-- The first prompt is resolved in time, so the game is still in order after it. -/
theorem skipOnce_in_order : InOrder princessPack.phases.cadence skipOnce ∧ skipOnce.entered.Nodup := by
  have hin : (Command.resolveHostPrompt (fun _ => true) "N01:skip_next_day:slot_1"
      .acknowledge).Timely princessPack twoPrincesses := by
    intro prompt policy current hprompt hpolicy hat
    obtain rfl : princessPrompt "N01:skip_next_day:slot_1" = prompt := Option.some.inj hprompt
    obtain rfl := Option.some.inj hpolicy
    obtain ⟨row, hrow, rfl⟩ := hat
    obtain rfl := Option.some.inj hrow
    exact .inl (by decide)
  have hrun : TimelyRun princessPack nightStart skipOnce :=
    (Relation.ReflTransGen.single twoPrincesses_step).tail
      ⟨_, hin, .resolveHostPrompt skipOnce_accepted⟩
  have hordered := phases_in_order (by decide) nightStart_started hrun
  exact ⟨hordered.1, hordered.2.1⟩

end Fmarch.Commands
