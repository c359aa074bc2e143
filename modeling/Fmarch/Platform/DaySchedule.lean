import Fmarch.Domain.Phase
import Fmarch.Platform.Values
import Mathlib.Order.Lattice

/-!
# Day event schedules (`game_platform::day_schedule`)

A day event opens and locks by a schedule: at fixed times, at offsets from the start of a phase, on a
phase signal, or by the host. `evaluate` decides from the phase timeline what is due at an observation
time; `next_observation_at` names the next time at which something can be, from the current phase alone
and the recorded opening.

`evaluate_scheduled_ne_nil`, `evaluate_open_ne_nil`, `reached_nextOpening` and `reached_earliest` say when
each of the two finds an event due.
-/

namespace Fmarch.Platform

open Domain

/-! ## Definitions of day events -/

inductive PhaseScope where
  | duringDay (number : Nat)
  | anyRunning
  | explicitWindow (opensAt closesAt : Int)
  deriving DecidableEq

inductive ProgramTrigger where
  | phaseOpened (phaseId : PhaseId)
  | phaseLocked (phaseId : PhaseId)
  | phaseResolved (phaseId : PhaseId)
  deriving DecidableEq

inductive DayEventSchedule where
  | absolute (openAt : Int) (lockAt : Option Int)
  | relativeToPhase (phaseId : PhaseId) (openOffset : Int) (lockOffset : Option Int)
  | hostOpened
  | onTrigger (trigger : ProgramTrigger)
  deriving DecidableEq

inductive DayEventState where
  | scheduled
  | open
  | locked
  | resolved
  | cancelled
  deriving DecidableEq

/-- `DayEventResolutionMode`, less the policy of an automatic one. -/
inductive DayEventResolutionMode where
  | hostDecision
  | auto
  deriving DecidableEq

/-- The fields of `DayEvent` that its life cycle goes by. -/
structure DayEvent where
  id : String
  phaseScope : PhaseScope
  schedule : DayEventSchedule
  resolution : DayEventResolutionMode
  /-- `participation.limits.minimum`. -/
  minimum : Nat
  deriving DecidableEq

def PhaseScope.validate : PhaseScope → Bool
  | .explicitWindow opensAt closesAt => opensAt < closesAt
  | _ => true

def DayEventSchedule.validate : DayEventSchedule → Bool
  | .absolute openAt (some lockAt) => openAt < lockAt
  | .relativeToPhase _ openOffset (some lockOffset) => openOffset < lockOffset
  | _ => true

/-- The schedule goes by the clock. -/
def DayEventSchedule.timed : DayEventSchedule → Bool
  | .absolute .. | .relativeToPhase .. => true
  | .hostOpened | .onTrigger _ => false

namespace DaySchedule

/-! ## Compiled schedules -/

inductive ScheduleOpening where
  | manual
  | absolute (openAt : Int)
  | relativeToPhase (phaseId : PhaseId) (openOffset : Int)
  | onTrigger (trigger : ProgramTrigger)

inductive ScheduleLock where
  | absolute (lockAt : Int)
  | relativeToPhase (phaseId : PhaseId) (lockOffset : Int)

structure CompiledSchedule where
  opening : ScheduleOpening
  lock : Option ScheduleLock

def compile : DayEventSchedule → CompiledSchedule
  | .absolute openAt lockAt => { opening := .absolute openAt, lock := lockAt.map .absolute }
  | .relativeToPhase phaseId openOffset lockOffset =>
    { opening := .relativeToPhase phaseId openOffset
      lock := lockOffset.map (.relativeToPhase phaseId) }
  | .hostOpened => { opening := .manual, lock := none }
  | .onTrigger trigger => { opening := .onTrigger trigger, lock := none }

/-! ## The context -/

inductive PhaseSignalKind where
  | opened
  | locked
  | resolved
  deriving DecidableEq

structure PhaseSignal where
  kind : PhaseSignalKind
  phaseId : PhaseId
  deriving DecidableEq

/-- `ScheduleTimeline`; the map is the function it looks up. -/
structure ScheduleTimeline where
  phaseOpenedAt : PhaseId → Option Int := fun _ => none
  phaseSignals : List PhaseSignal := []

structure ScheduleContext where
  observedAt : Int
  currentPhaseId : PhaseId
  currentDayNumber : Option Nat
  timeline : ScheduleTimeline

inductive ScheduleIntentKind where
  | open
  | lock

structure ScheduleIntent where
  kind : ScheduleIntentKind
  dueAt : Int
  source : String

/-! ## Deciding -/

/-- The signal a trigger waits for. -/
def triggerSignal : ProgramTrigger → PhaseSignal
  | .phaseOpened phaseId => ⟨.opened, phaseId⟩
  | .phaseLocked phaseId => ⟨.locked, phaseId⟩
  | .phaseResolved phaseId => ⟨.resolved, phaseId⟩

def triggerPhaseId (trigger : ProgramTrigger) : PhaseId := (triggerSignal trigger).phaseId

def triggerSeen (trigger : ProgramTrigger) (signals : List PhaseSignal) : Bool :=
  signals.contains (triggerSignal trigger)

def triggerSource : ProgramTrigger → String
  | .phaseOpened phaseId => "trigger:phase_opened:" ++ phaseId.canonical
  | .phaseLocked phaseId => "trigger:phase_locked:" ++ phaseId.canonical
  | .phaseResolved phaseId => "trigger:phase_resolved:" ++ phaseId.canonical

/-- The due time of an opening and its source. -/
def openingDueAt (opening : ScheduleOpening) (context : ScheduleContext) : Option (Int × String) :=
  match opening with
  | .manual => none
  | .absolute openAt => some (openAt, "absolute")
  | .relativeToPhase phaseId openOffset =>
    if context.currentPhaseId = phaseId then do
      let opened ← context.timeline.phaseOpenedAt phaseId
      let dueAt ← checkedAdd opened openOffset
      some (dueAt, "relative_to_phase:" ++ phaseId.canonical)
    else none
  | .onTrigger trigger =>
    if triggerPhaseId trigger = context.currentPhaseId ∧
        triggerSeen trigger context.timeline.phaseSignals then
      some (context.observedAt, triggerSource trigger)
    else none

def openingDue (opening : ScheduleOpening) (context : ScheduleContext) : Option ScheduleIntent := do
  let (dueAt, source) ← openingDueAt opening context
  if dueAt ≤ context.observedAt then some ⟨.open, dueAt, source⟩ else none

/-- The due time of a lock and its source. -/
def lockDueAt (lock : ScheduleLock) (context : ScheduleContext) : Option (Int × String) :=
  match lock with
  | .absolute lockAt => some (lockAt, "absolute")
  | .relativeToPhase phaseId lockOffset => do
    let opened ← context.timeline.phaseOpenedAt phaseId
    let dueAt ← checkedAdd opened lockOffset
    some (dueAt, "relative_to_phase:" ++ phaseId.canonical)

def lockDue (lock : ScheduleLock) (context : ScheduleContext) : Option ScheduleIntent := do
  let (dueAt, source) ← lockDueAt lock context
  if dueAt ≤ context.observedAt then some ⟨.lock, dueAt, source⟩ else none

def explicitScopeLock (scope : PhaseScope) (context : ScheduleContext) : Option ScheduleIntent :=
  match scope with
  | .explicitWindow _ closesAt =>
    if closesAt ≤ context.observedAt then some ⟨.lock, closesAt, "explicit_window"⟩ else none
  | _ => none

def earliestLock (left right : Option ScheduleIntent) : Option ScheduleIntent :=
  match left, right with
  | some left, some right => some (if right.dueAt < left.dueAt then right else left)
  | some left, none => some left
  | none, right => right

def phaseScopeAllowsOpen (scope : PhaseScope) (context : ScheduleContext) : Bool :=
  match scope with
  | .duringDay number => context.currentDayNumber == some number
  | .anyRunning => true
  | .explicitWindow opensAt closesAt =>
    decide (opensAt ≤ context.observedAt) && decide (context.observedAt < closesAt)

def evaluate (event : DayEvent) (state : DayEventState) (context : ScheduleContext) : List ScheduleIntent :=
  if state = .resolved ∨ state = .cancelled then []
  else
    let schedule := compile event.schedule
    let opening := (openingDue schedule.opening context).filter fun _ =>
      state == .scheduled && phaseScopeAllowsOpen event.phaseScope context
    if state = .open ∨ opening.isSome then
      opening.toList ++ (earliestLock (schedule.lock.bind (lockDue · context))
          (explicitScopeLock event.phaseScope context)).toList
    else opening.toList

/-! ## The next observation -/

def phaseScopeCanOpen (scope : PhaseScope) (currentDayNumber : Option Nat) : Bool :=
  match scope with
  | .duringDay number => currentDayNumber == some number
  | .anyRunning | .explicitWindow .. => true

/-- The opening of a timed schedule, from the current phase and its start. -/
def scheduledOpening (event : DayEvent) (currentPhaseId : Option PhaseId)
    (phaseOpenedAt : Option Int) : Option Int :=
  match (compile event.schedule).opening with
  | .manual | .onTrigger _ => none
  | .absolute openAt => some openAt
  | .relativeToPhase phaseId openOffset =>
    if currentPhaseId = some phaseId then phaseOpenedAt.bind (checkedAdd · openOffset) else none

/-- The opening within its scope: an explicit window holds it back, and drops it past its end. -/
def scopedOpening (scope : PhaseScope) (opening : Int) : Option Int :=
  match scope with
  | .explicitWindow opensAt closesAt =>
    let dueAt := max opening opensAt
    if dueAt < closesAt then some dueAt else none
  | _ => some opening

/-- The time `next_observation_at` gives an event that is scheduled. -/
def nextOpening (event : DayEvent) (currentPhaseId : Option PhaseId)
    (currentDayNumber : Option Nat) (phaseOpenedAt : Option Int) : Option Int :=
  if phaseScopeCanOpen event.phaseScope currentDayNumber then do
    let opening ← scheduledOpening event currentPhaseId phaseOpenedAt
    scopedOpening event.phaseScope opening
  else none

/-- The start of the phase a relative lock counts from, as `next_observation_at` finds it. -/
def lockAnchor (opening : ScheduleOpening) (phaseId : PhaseId) (currentPhaseId : Option PhaseId)
    (phaseOpenedAt recordedOpenDueAt : Option Int) : Option Int :=
  if currentPhaseId = some phaseId then phaseOpenedAt
  else
    match opening, recordedOpenDueAt with
    | .relativeToPhase _ openOffset, some openDueAt => checkedSub openDueAt openOffset
    | _, _ => none

/-- The earlier of two times that may be missing. -/
def earliest (left right : Option Int) : Option Int :=
  match left, right with
  | some left, some right => some (min left right)
  | some left, none => some left
  | none, right => right

/-- The end of an explicit window. -/
def scopeClose : PhaseScope → Option Int
  | .explicitWindow _ closesAt => some closesAt
  | _ => none

/-- The time `next_observation_at` gives an event that is open. -/
def nextLock (event : DayEvent) (currentPhaseId : Option PhaseId)
    (phaseOpenedAt recordedOpenDueAt : Option Int) : Option Int :=
  let schedule := compile event.schedule
  let scheduleLock :=
    match schedule.lock with
    | some (.absolute lockAt) => some lockAt
    | some (.relativeToPhase phaseId lockOffset) =>
      (lockAnchor schedule.opening phaseId currentPhaseId phaseOpenedAt recordedOpenDueAt).bind
        (checkedAdd · lockOffset)
    | none => none
  earliest scheduleLock (scopeClose event.phaseScope)

def nextObservationAt (event : DayEvent) (state : DayEventState) (currentPhaseId : Option PhaseId)
    (currentDayNumber : Option Nat) (phaseOpenedAt recordedOpenDueAt : Option Int) : Option Int :=
  match state with
  | .scheduled => nextOpening event currentPhaseId currentDayNumber phaseOpenedAt
  | .open => nextLock event currentPhaseId phaseOpenedAt recordedOpenDueAt
  | .locked | .resolved | .cancelled => none

/-! ## When a timed event is due -/

/-- A time is known and has come. -/
def Reached (now : Int) (time : Option Int) : Prop := ∃ due, time = some due ∧ due ≤ now

variable {now : Int} {scope : PhaseScope} {intent : ScheduleIntent}

@[simp]
theorem reached_none : ¬ Reached now none := by simp [Reached]

@[simp]
theorem reached_some {due : Int} : Reached now (some due) ↔ due ≤ now := by
  unfold Reached
  constructor
  · rintro ⟨_, h, hle⟩
    obtain rfl := Option.some.inj h
    exact hle
  · exact fun h => ⟨due, rfl, h⟩

theorem reached_earliest {left right : Option Int} :
    Reached now (earliest left right) ↔ Reached now left ∨ Reached now right := by
  cases left <;> cases right <;> simp [earliest]

/-- The time of the opening in a context. -/
def openingTime (event : DayEvent) (context : ScheduleContext) : Option Int :=
  (openingDueAt (compile event.schedule).opening context).map (·.1)

/-- The time of the schedule's lock in a context. -/
def lockTime (event : DayEvent) (context : ScheduleContext) : Option Int :=
  ((compile event.schedule).lock.bind (lockDueAt · context)).map (·.1)

variable {event : DayEvent} {context : ScheduleContext}

theorem openingDue_isSome {opening : ScheduleOpening} : (openingDue opening context).isSome ↔
      Reached context.observedAt ((openingDueAt opening context).map (·.1)) := by
  unfold openingDue
  cases openingDueAt opening context with
  | none => simp
  | some due =>
    by_cases h : due.1 ≤ context.observedAt <;> simp [h]

theorem lockDue_isSome {lock : ScheduleLock} : (lockDue lock context).isSome ↔
      Reached context.observedAt ((lockDueAt lock context).map (·.1)) := by
  unfold lockDue
  cases lockDueAt lock context with
  | none => simp
  | some due =>
    by_cases h : due.1 ≤ context.observedAt <;> simp [h]

theorem explicitScopeLock_isSome :
    (explicitScopeLock scope context).isSome ↔ Reached context.observedAt (scopeClose scope) := by
  unfold explicitScopeLock scopeClose
  cases scope with
  | explicitWindow opensAt closesAt =>
    by_cases h : closesAt ≤ context.observedAt <;> simp [h]
  | duringDay number => simp
  | anyRunning => simp

theorem earliestLock_isSome {left right : Option ScheduleIntent} :
    (earliestLock left right).isSome ↔ left.isSome ∨ right.isSome := by
  cases left <;> cases right <;> simp [earliestLock]

/-- A scheduled event has an intent exactly if its opening has come and its scope admits it. -/
theorem evaluate_scheduled_ne_nil : evaluate event .scheduled context ≠ [] ↔
      Reached context.observedAt (openingTime event context) ∧
        phaseScopeAllowsOpen event.phaseScope context := by
  unfold openingTime
  rw [← openingDue_isSome]
  simp only [evaluate]
  cases openingDue (compile event.schedule).opening context with
  | none => simp
  | some intent =>
    cases hscope : phaseScopeAllowsOpen event.phaseScope context <;> simp

/-- An open event has an intent exactly if a lock of its schedule or of its scope has come. -/
theorem evaluate_open_ne_nil : evaluate event .open context ≠ [] ↔
      Reached context.observedAt (lockTime event context) ∨
        Reached context.observedAt (scopeClose event.phaseScope) := by
  have hlock : ((compile event.schedule).lock.bind (lockDue · context)).isSome ↔
      Reached context.observedAt (lockTime event context) := by
    unfold lockTime
    cases (compile event.schedule).lock with
    | none => simp
    | some lock => exact lockDue_isSome
  rw [← hlock, ← explicitScopeLock_isSome, ← earliestLock_isSome]
  have hopening : ((openingDue (compile event.schedule).opening context).filter fun _ =>
      DayEventState.open == .scheduled && phaseScopeAllowsOpen event.phaseScope context) = none := by
    simp
  simp only [evaluate, hopening]
  cases earliestLock ((compile event.schedule).lock.bind (lockDue · context))
    (explicitScopeLock event.phaseScope context) <;> simp

theorem evaluate_eq_nil {state : DayEventState} (hscheduled : state ≠ .scheduled)
    (hopen : state ≠ .open) : evaluate event state context = [] := by
  have hopening : ((openingDue (compile event.schedule).opening context).filter fun _ =>
      state == .scheduled && phaseScopeAllowsOpen event.phaseScope context) = none := by
    simp [hscheduled]
  simp only [evaluate, hopening]
  simp [hopen]

theorem kind_openingDue {opening : ScheduleOpening} (h : openingDue opening context = some intent) : intent.kind = .open := by
  obtain ⟨_, -, h⟩ := Option.bind_eq_some_iff.1 h
  obtain ⟨-, h⟩ := Option.ite_none_right_eq_some.1 h
  exact Option.some.inj h ▸ rfl

theorem kind_lockDue {lock : ScheduleLock} (h : lockDue lock context = some intent) : intent.kind = .lock := by
  obtain ⟨_, -, h⟩ := Option.bind_eq_some_iff.1 h
  obtain ⟨-, h⟩ := Option.ite_none_right_eq_some.1 h
  exact Option.some.inj h ▸ rfl

theorem kind_explicitScopeLock (h : explicitScopeLock scope context = some intent) : intent.kind = .lock := by
  unfold explicitScopeLock at h
  split at h
  · obtain ⟨-, h⟩ := Option.ite_none_right_eq_some.1 h
    exact Option.some.inj h ▸ rfl
  · cases h

/-- The lock found is one of the two. -/
theorem earliestLock_eq_some {left right : Option ScheduleIntent}
    (h : earliestLock left right = some intent) : left = some intent ∨ right = some intent := by
  unfold earliestLock at h
  split at h
  · split at h
    · exact .inr h
    · exact .inl h
  · exact .inl h
  · exact .inr h

/-- `evaluate` finds nothing, an opening and what locks come with it, or the lock of an open event. -/
theorem evaluate_cases (event : DayEvent) (state : DayEventState) (context : ScheduleContext) :
    evaluate event state context = [] ∨ (∃ opening locks, state = .scheduled ∧ opening.kind = .open ∧
        (∀ lock ∈ locks, lock.kind = .lock) ∧ evaluate event state context = opening :: locks) ∨
      (state = .open ∧ ∃ lock, lock.kind = .lock ∧ evaluate event state context = [lock]) := by
  have hlock {intent : ScheduleIntent}
      (h : earliestLock ((compile event.schedule).lock.bind (lockDue · context))
        (explicitScopeLock event.phaseScope context) = some intent) : intent.kind = .lock := by
    rcases earliestLock_eq_some h with h | h
    · obtain ⟨lock, -, h⟩ := Option.bind_eq_some_iff.1 h
      exact kind_lockDue h
    · exact kind_explicitScopeLock h
  by_cases hscheduled : state = .scheduled
  · subst hscheduled
    simp only [evaluate]
    cases hopening : (openingDue (compile event.schedule).opening context).filter fun _ =>
        DayEventState.scheduled == .scheduled && phaseScopeAllowsOpen event.phaseScope context with
    | none => simp
    | some opening =>
      refine .inr (.inl ⟨opening, _, trivial, kind_openingDue (Option.filter_eq_some_iff.1 hopening).1,
        fun lock h => hlock (Option.mem_toList.1 h), ?_⟩)
      simp
  · by_cases hopen : state = .open
    · subst hopen
      have hnone : ((openingDue (compile event.schedule).opening context).filter fun _ =>
          DayEventState.open == .scheduled && phaseScopeAllowsOpen event.phaseScope context) = none := by
        simp
      simp only [evaluate, hnone]
      cases h : earliestLock ((compile event.schedule).lock.bind (lockDue · context))
        (explicitScopeLock event.phaseScope context) with
      | none => simp
      | some lock => exact .inr (.inr ⟨trivial, lock, hlock h, by simp⟩)
    · exact .inl (evaluate_eq_nil hscheduled hopen)

theorem reached_scopedOpening {opening : Int} : Reached now (scopedOpening scope opening) ↔
      opening ≤ now ∧ ∀ opensAt closesAt, scope = .explicitWindow opensAt closesAt →
        opensAt ≤ now ∧ max opening opensAt < closesAt := by
  unfold scopedOpening
  cases scope with
  | duringDay number => simp
  | anyRunning => simp
  | explicitWindow opensAt closesAt =>
    constructor
    · rintro ⟨due, hdue, hle⟩
      obtain ⟨hbefore, hmax⟩ := Option.ite_none_right_eq_some.1 hdue
      obtain rfl := Option.some.inj hmax
      refine ⟨le_trans (le_max_left ..) hle, ?_⟩
      rintro _ _ ⟨rfl, rfl⟩
      exact ⟨le_trans (le_max_right ..) hle, hbefore⟩
    · rintro ⟨hopening, hwindow⟩
      obtain ⟨hopens, hbefore⟩ := hwindow _ _ rfl
      exact ⟨_, if_pos hbefore, max_le hopening hopens⟩

/-- The opening `next_observation_at` gives has come exactly if the scope can open and both the
schedule's opening and the start of an explicit window have come, the later before the window's end. -/
theorem reached_nextOpening {currentPhaseId : Option PhaseId} {currentDayNumber : Option Nat}
    {phaseOpenedAt : Option Int} :
    Reached now (nextOpening event currentPhaseId currentDayNumber phaseOpenedAt) ↔
      phaseScopeCanOpen event.phaseScope currentDayNumber ∧
        ∃ opening, scheduledOpening event currentPhaseId phaseOpenedAt = some opening ∧
          opening ≤ now ∧ ∀ opensAt closesAt, event.phaseScope = .explicitWindow opensAt closesAt →
            opensAt ≤ now ∧ max opening opensAt < closesAt := by
  unfold nextOpening
  split
  case isFalse hscope => exact iff_of_false reached_none fun h => hscope h.1
  case isTrue hscope =>
    cases scheduledOpening event currentPhaseId phaseOpenedAt with
    | none => simp
    | some opening => simp [hscope, reached_scopedOpening]

end DaySchedule

end Fmarch.Platform
