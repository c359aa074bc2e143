import Fmarch.Lib.Steps
import Fmarch.Platform.DaySchedule
import Mathlib.Data.List.Nodup

/-!
# Day events (`day_runtime`, `fold_event`)

The host schedules day events, opens those that only a host opens, locks, resolves and cancels them; a
scheduler observes the game and opens and locks the timed ones. It is woken by the time in its work row,
which is computed again at every event that can change it, from the rows of the projection; what it does
when woken it decides from the stream's phase timeline.

**`woken_iff`**: in every state commands can reach, the work row wakes the scheduler for an event exactly
when it has something to do about it, if and only if the event is `Woken` at that time. It is not in four
cases. A revote of a day is that day to the scheduler and none to the work row; an explicit window that has
passed keeps the work row due (`missedWindow_stays_due`), as does an opening before the game's first phase;
and after a second start of the phase that a lock counts from, the two count from different starts.

`none` is a rejection. Who may issue a command is decided before and can only refuse it, as can the checks
of a definition that do not concern its schedule; neither is modelled. Every other command that enters a
phase appends the `PhaseAdvanced` that `OpenDayPhase` appends, whose phase the host names. A completed game
has no work row and is not observed.
-/

namespace Fmarch.Commands.DayEvents

open Domain Platform Platform.DaySchedule

/-! ## The stream and its projections -/

/-- The events of a game that its day events depend on. -/
inductive StreamEvent where
  | gameStarted (phaseId : PhaseId) (phaseOpenedAt : Int)
  | phaseAdvanced (phaseId : PhaseId) (phaseOpenedAt : Int)
  | threadLocked (phaseId : Option PhaseId)
  | resolutionApplied (phaseId : PhaseId) (runId : String)
  | dayEventScheduled (event : DayEvent)
  | dayEventOpenDue (eventId : String) (dueAt observedAt : Int)
  | dayEventLockDue (eventId : String) (dueAt observedAt : Int)
  | dayEventOpened (eventId : String)
  | dayEventLocked (eventId : String)
  | dayEventCancelled (eventId : String)
  | dayEventResolved (eventId : String)

/-- The columns of `phase_state` that schedules read. -/
structure PhaseStateRow where
  phaseId : PhaseId
  phaseOpenedAt : Option Int

/-- `DayEventRow`, less the columns that only a resolution writes. -/
structure DayEventRow where
  definition : DayEvent
  state : DayEventState := .scheduled
  openDueAt : Option Int := none
  openObservedAt : Option Int := none
  lockDueAt : Option Int := none
  lockObservedAt : Option Int := none
  deriving DecidableEq

/-- The `event_id` column. -/
def DayEventRow.eventId (row : DayEventRow) : String := row.definition.id

/-- The stream of a game, its `phase_state` row and its `day_event` rows. -/
structure Game where
  stream : List StreamEvent := []
  phase : Option PhaseStateRow := none
  dayEvents : List DayEventRow := []

/-- `UPDATE day_event … WHERE event_id = …` for one row. -/
def updateWhere (eventId : String) (update : DayEventRow → DayEventRow) (row : DayEventRow) :
    DayEventRow :=
  if row.eventId = eventId then update row else row

/-- What an event writes in a row that exists. -/
def StreamEvent.writes : StreamEvent → DayEventRow → DayEventRow
  | .dayEventOpenDue eventId dueAt observedAt => updateWhere eventId fun row =>
    { row with
      openDueAt := row.openDueAt <|> some dueAt
      openObservedAt := row.openObservedAt <|> some observedAt }
  | .dayEventLockDue eventId dueAt observedAt => updateWhere eventId fun row =>
    { row with
      lockDueAt := row.lockDueAt <|> some dueAt
      lockObservedAt := row.lockObservedAt <|> some observedAt }
  | .dayEventOpened eventId => updateWhere eventId ({ · with state := .open })
  | .dayEventLocked eventId => updateWhere eventId ({ · with state := .locked })
  | .dayEventCancelled eventId => updateWhere eventId ({ · with state := .cancelled })
  | .dayEventResolved eventId => updateWhere eventId ({ · with state := .resolved })
  | _ => id

namespace Game

/-- The fold of one event into `phase_state` and `day_event`. -/
def project (game : Game) (event : StreamEvent) : Option Game :=
  match event with
  | .gameStarted phaseId phaseOpenedAt | .phaseAdvanced phaseId phaseOpenedAt =>
    some { game with phase := some { phaseId, phaseOpenedAt := some phaseOpenedAt } }
  | .dayEventScheduled definition =>
    -- The primary key of the table is the event's id.
    if definition.phaseScope.validate ∧ definition.schedule.validate ∧
        definition.id ∉ game.dayEvents.map (·.eventId) then
      some { game with dayEvents := game.dayEvents ++ [{ definition }] }
    else none
  | .dayEventOpenDue _ dueAt observedAt | .dayEventLockDue _ dueAt observedAt =>
    if observedAt < dueAt then none
    else some { game with dayEvents := game.dayEvents.map event.writes }
  | _ => some { game with dayEvents := game.dayEvents.map event.writes }

/-- One event appended and folded. -/
def append (game : Game) (event : StreamEvent) : Option Game :=
  (game.project event).map fun projected => { projected with stream := game.stream ++ [event] }

def persist (game : Game) (events : List StreamEvent) : Option Game := events.foldlM append game

def loadDayEvent (game : Game) (eventId : String) : Option DayEventRow :=
  game.dayEvents.find? (·.eventId = eventId)

end Game

/-! ## The timeline -/

/-- One iteration of `day_schedule_timeline`, with the phase it is in. -/
def timelineStep (state : ScheduleTimeline × Option PhaseId) (event : StreamEvent) :
    ScheduleTimeline × Option PhaseId :=
  let (timeline, current) := state
  let signal (kind : PhaseSignalKind) (phaseId : PhaseId) : ScheduleTimeline :=
    { timeline with phaseSignals := ⟨kind, phaseId⟩ :: timeline.phaseSignals }
  match event with
  | .gameStarted phaseId phaseOpenedAt | .phaseAdvanced phaseId phaseOpenedAt =>
    ({ signal .opened phaseId with
        phaseOpenedAt := Function.update timeline.phaseOpenedAt phaseId (some phaseOpenedAt) },
      some phaseId)
  | .threadLocked phaseId =>
    match phaseId <|> current with
    | some phaseId => (signal .locked phaseId, current)
    | none => state
  | .resolutionApplied phaseId runId =>
    if runId.startsWith "resolution:" then (signal .resolved phaseId, current) else state
  | _ => state

def dayScheduleTimeline (stream : List StreamEvent) : ScheduleTimeline :=
  (stream.foldl timelineStep ({}, none)).1

/-- The context `observe_day_event_schedules_in_tx` builds for the current phase. -/
def scheduleContext (game : Game) (phase : PhaseStateRow) (observedAt : Int) : ScheduleContext where
  observedAt
  currentPhaseId := phase.phaseId
  currentDayNumber := if phase.phaseId.kind = .day then some phase.phaseId.number else none
  timeline := dayScheduleTimeline game.stream

/-! ## The scheduler -/

/-- The facts appended for one intent. -/
def intentFacts (row : DayEventRow) (observedAt : Int) (intent : ScheduleIntent) : List StreamEvent :=
  match intent.kind with
  | .open =>
    (if row.openObservedAt.isNone then
      [.dayEventOpenDue row.eventId intent.dueAt observedAt] else []) ++
      [.dayEventOpened row.eventId]
  | .lock =>
    (if row.lockObservedAt.isNone then
      [.dayEventLockDue row.eventId intent.dueAt observedAt] else []) ++
      [.dayEventLocked row.eventId]

/-- The intents the scheduler finds for an event; without a phase the observation is rejected. -/
def observed (game : Game) (row : DayEventRow) (observedAt : Int) : List ScheduleIntent :=
  match game.phase with
  | none => []
  | some phase => evaluate row.definition row.state (scheduleContext game phase observedAt)

/-- `observe_day_event_schedules_in_tx`. -/
def observeDayEventSchedules (game : Game) (observedAt : Int) : Option Game := do
  let _ ← game.phase
  game.persist (game.dayEvents.flatMap fun row =>
    (observed game row observedAt).flatMap (intentFacts row observedAt))

/-- `advance_day_event_automation_in_tx`; `select` says whether `select_winners` finds the winners. -/
def advanceDayEventAutomation (select : DayEventRow → Bool) (game : Game) (observedAt : Int) :
    Option Game := do
  let pendingAuto := game.dayEvents.filter fun row =>
    row.state = .locked ∧ row.definition.resolution = .auto
  let game ← observeDayEventSchedules game observedAt
  if pendingAuto.all select then
    game.persist (pendingAuto.map fun row => .dayEventResolved row.eventId)
  else none

/-- `current_day_number` of `refresh_day_event_schedule_work`. -/
def currentDayNumber (phase : PhaseStateRow) : Option Nat :=
  if phase.phaseId.kind = .day then phase.phaseId.plainNumber else none

/-- The candidate of one row in `refresh_day_event_schedule_work`. -/
def workDueAt (game : Game) (row : DayEventRow) : Option Int :=
  nextObservationAt row.definition row.state (game.phase.map (·.phaseId))
    (game.phase.bind currentDayNumber) (game.phase.bind (·.phaseOpenedAt)) row.openDueAt

/-- `next_due_at` of `refresh_day_event_schedule_work`. -/
def nextDueAt (game : Game) : Option Int :=
  (game.dayEvents.filter fun row => row.state ≠ .resolved ∧ row.state ≠ .cancelled).foldl
    (fun nextDueAt row => earliest nextDueAt (workDueAt game row)) none

/-! ## Commands -/

/-- The commands of the host and of the scheduler. -/
inductive Command where
  | startGame (phaseId : PhaseId) (now : Int)
  | openDayPhase (phaseId : PhaseId) (now : Int)
  | lockThread
  | applyResolution (phaseId : PhaseId) (runId : String)
  | scheduleDayEvent (event : DayEvent)
  | attachDayProgram (events : List DayEvent)
  | openDayEvent (eventId : String)
  | lockDayEvent (eventId : String) (participants : Nat)
  | cancelDayEvent (eventId : String)
  | resolveDayEvent (eventId : String)
  | advanceDayEventAutomation (select : DayEventRow → Bool) (observedAt : Int)

def openDayEvent (game : Game) (eventId : String) : Option Game := do
  let row ← game.loadDayEvent eventId
  let phase ← game.phase
  if row.state = .scheduled ∧ row.definition.schedule = .hostOpened then
    match row.definition.phaseScope with
    | .duringDay number =>
      if phase.phaseId.kind = .day ∧ phase.phaseId.number = number then
        game.persist [.dayEventOpened eventId]
      else none
    | .anyRunning => game.persist [.dayEventOpened eventId]
    | .explicitWindow .. => none
  else none

def lockDayEvent (game : Game) (eventId : String) (participants : Nat) : Option Game := do
  let row ← game.loadDayEvent eventId
  if row.state = .open ∧ row.definition.minimum ≤ participants then
    game.persist [.dayEventLocked eventId]
  else none

def cancelDayEvent (game : Game) (eventId : String) : Option Game := do
  let row ← game.loadDayEvent eventId
  if row.state = .resolved ∨ row.state = .cancelled then none
  else game.persist [.dayEventCancelled eventId]

def resolveDayEvent (game : Game) (eventId : String) : Option Game := do
  let row ← game.loadDayEvent eventId
  if row.state = .locked ∧ row.definition.resolution = .hostDecision then
    game.persist [.dayEventResolved eventId]
  else none

/-- The state after a command that is accepted. -/
def run (game : Game) : Command → Option Game
  | .startGame phaseId now => game.persist [.gameStarted phaseId now]
  | .openDayPhase phaseId now => game.persist [.phaseAdvanced phaseId now]
  | .lockThread => do
    let _ ← game.phase
    game.persist [.threadLocked none]
  | .applyResolution phaseId runId => game.persist [.resolutionApplied phaseId runId]
  | .scheduleDayEvent event => game.persist [.dayEventScheduled event]
  | .attachDayProgram events => game.persist (events.map .dayEventScheduled)
  | .openDayEvent eventId => openDayEvent game eventId
  | .lockDayEvent eventId participants => lockDayEvent game eventId participants
  | .cancelDayEvent eventId => cancelDayEvent game eventId
  | .resolveDayEvent eventId => resolveDayEvent game eventId
  | .advanceDayEventAutomation select observedAt => advanceDayEventAutomation select game observedAt

/-- The states commands lead to. -/
def Reachable (game : Game) : Prop := ∃ commands : List Command, commands.foldlM run {} = some game

/-! ## When the work row is right -/

/-- The opening of a timed schedule; one relative to a phase has one only in that phase. -/
def opening (game : Game) : DayEventSchedule → Option Int
  | .absolute openAt _ => some openAt
  | .relativeToPhase phaseId openOffset _ =>
    if game.phase.map (·.phaseId) = some phaseId then
      (game.phase.bind (·.phaseOpenedAt)).bind (checkedAdd · openOffset)
    else none
  | .hostOpened | .onTrigger _ => none

/-- The game is in a revote of the day. -/
def InRevote (game : Game) (number : Nat) : Prop :=
  ∃ phase, game.phase = some phase ∧ phase.phaseId.kind = .day ∧ phase.phaseId.number = number ∧
    phase.phaseId.revote ≠ none

/-- The start of its phase that an event opened in that phase was opened by. -/
def startWhenOpened (row : DayEventRow) (openOffset : Int) : Option Int :=
  row.openDueAt.bind (checkedSub · openOffset)

/-- The last start of a phase. -/
def lastStart (game : Game) (phaseId : PhaseId) : Option Int :=
  (dayScheduleTimeline game.stream).phaseOpenedAt phaseId

/-- A scheduled event is woken for at a time, if its opening has come: when its scope is a day, then the
game is in no revote of it; otherwise the game has a phase, and a window that was to open has not ended. -/
def WokenToOpen (game : Game) (event : DayEvent) (now : Int) : Prop :=
  Reached now (opening game event.schedule) →
    match event.phaseScope with
    | .duringDay number => ¬ InRevote game number
    | .anyRunning => game.phase ≠ none
    | .explicitWindow opensAt closesAt =>
      opensAt ≤ now → if closesAt ≤ now then ∀ due, opening game event.schedule = some due →
        closesAt ≤ max due opensAt else game.phase ≠ none

/-- An open event is woken for at a time: if its lock counts from a phase that is not the current one,
then its window has ended, or the lock is due counted from the phase's start at the opening exactly if
it is due counted from the phase's last start. -/
def WokenToLock (game : Game) (row : DayEventRow) (now : Int) : Prop :=
  ∀ phaseId openOffset lockOffset,
    row.definition.schedule = .relativeToPhase phaseId openOffset (some lockOffset) →
    game.phase.map (·.phaseId) ≠ some phaseId →
    Reached now (scopeClose row.definition.phaseScope) ∨
      (Reached now ((startWhenOpened row openOffset).bind (checkedAdd · lockOffset)) ↔
        Reached now ((lastStart game phaseId).bind (checkedAdd · lockOffset)))

/-- The work row is right about an event at a time. -/
def Woken (game : Game) (row : DayEventRow) (now : Int) : Prop :=
  match row.state with
  | .scheduled => WokenToOpen game row.definition now
  | .open => WokenToLock game row now
  | .locked | .resolved | .cancelled => True

/-! ## Invariants -/

/-- What holds of the row of an event. -/
structure RowOk (phase : Option PhaseStateRow) (row : DayEventRow) : Prop where
  unobserved : row.state = .scheduled → row.openObservedAt = none
  running : row.state = .open → phase ≠ none
  dated : row.state = .open → ∀ phaseId openOffset lockOffset,
    row.definition.schedule = .relativeToPhase phaseId openOffset lockOffset → row.openDueAt ≠ none

/-- What holds of a game that commands can reach. -/
structure Ok (game : Game) : Prop where
  distinct : (game.dayEvents.map (·.eventId)).Nodup
  anchored : ∀ phase, game.phase = some phase → lastStart game phase.phaseId = phase.phaseOpenedAt
  rows : ∀ row ∈ game.dayEvents, RowOk game.phase row

variable {row : DayEventRow} {event : StreamEvent} {game next : Game} {events : List StreamEvent}

variable {phase : Option PhaseStateRow}

theorem RowOk.of_state (hscheduled : row.state ≠ .scheduled) (hopen : row.state ≠ .open) : RowOk phase row :=
  ⟨fun h => absurd h hscheduled, fun h => absurd h hopen, fun h => absurd h hopen⟩

theorem definition_updateWhere {eventId : String} {update : DayEventRow → DayEventRow}
    (hupdate : (update row).definition = row.definition) :
    (updateWhere eventId update row).definition = row.definition := by
  unfold updateWhere
  split
  · exact hupdate
  · rfl

theorem definition_writes (event : StreamEvent) (row : DayEventRow) :
    (event.writes row).definition = row.definition := by
  cases event <;> simp only [StreamEvent.writes, id_eq] <;> apply definition_updateWhere <;> rfl

/-- The event whose row an event writes. -/
def StreamEvent.about : StreamEvent → Option String
  | .dayEventOpenDue eventId .. | .dayEventLockDue eventId .. | .dayEventOpened eventId
  | .dayEventLocked eventId | .dayEventCancelled eventId | .dayEventResolved eventId => some eventId
  | _ => none

theorem writes_other (h : event.about ≠ some row.eventId) : event.writes row = row := by
  cases event <;> simp only [StreamEvent.writes, id_eq] <;>
    exact if_neg fun heq => h (congrArg some heq.symm)

/-! ## Facts about one event -/

/-- What an event about a row does to the game. -/
theorem append_fact (hfact : event.about ≠ none) (h : game.append event = some next) :
    next = { game with
      stream := game.stream ++ [event]
      dayEvents := game.dayEvents.map event.writes } := by
  obtain ⟨projected, hproject, rfl⟩ := Option.map_eq_some_iff.1 h
  cases event with
  | dayEventOpenDue _ dueAt observedAt | dayEventLockDue _ dueAt observedAt =>
    obtain ⟨-, hprojected⟩ := Option.ite_none_left_eq_some.1 hproject
    obtain rfl := Option.some.inj hprojected
    rfl
  | dayEventOpened | dayEventLocked | dayEventCancelled | dayEventResolved =>
    obtain rfl := Option.some.inj hproject
    rfl
  | gameStarted | phaseAdvanced | threadLocked | resolutionApplied | dayEventScheduled =>
    exact absurd rfl hfact

/-- What events about rows do to the game. -/
theorem persist_facts (hfacts : ∀ event ∈ events, event.about ≠ none) (h : game.persist events = some next) :
    next = { game with
      stream := game.stream ++ events
      dayEvents := game.dayEvents.map fun row => events.foldl (fun row event => event.writes row) row } := by
  induction events generalizing game with
  | nil =>
    obtain rfl := Option.some.inj h
    simp
  | cons event events ih =>
    obtain ⟨middle, hmiddle, hrest⟩ := Option.bind_eq_some_iff.1 h
    obtain rfl := append_fact (hfacts event List.mem_cons_self) hmiddle
    rw [ih (fun other hother => hfacts other (List.mem_cons_of_mem event hother)) hrest]
    simp [Function.comp_def]

theorem timelineStep_fact (hfact : event.about ≠ none) (state : ScheduleTimeline × Option PhaseId) : timelineStep state event = state := by
  cases event <;> first
    | rfl
    | exact absurd rfl hfact

theorem lastStart_facts {stream : List StreamEvent} (hfacts : ∀ event ∈ events, event.about ≠ none) :
    dayScheduleTimeline (stream ++ events) = dayScheduleTimeline stream := by
  unfold dayScheduleTimeline
  rw [List.foldl_append]
  congr 1
  exact Steps.foldl_inv (· = stream.foldl timelineStep ({}, none))
    (fun state event hevent heq => (timelineStep_fact (hfacts event hevent) state).trans heq) rfl

theorem eventId_facts (events : List StreamEvent) (row : DayEventRow) :
    (events.foldl (fun row event => event.writes row) row).eventId = row.eventId :=
  Steps.foldl_inv (fun written => written.eventId = row.eventId)
    (fun written event _ heq => (congrArg DayEvent.id (definition_writes event written)).trans heq) rfl

theorem facts_other (h : ∀ event ∈ events, event.about ≠ some row.eventId) :
    events.foldl (fun row event => event.writes row) row = row :=
  Steps.foldl_inv (· = row) (fun written event hevent heq => by
    subst heq
    exact writes_other (h event hevent)) rfl

/-- Facts about rows with distinct ids write each row by its own facts. -/
theorem facts_own {rows : List DayEventRow} (hdistinct : (rows.map (·.eventId)).Nodup)
    {facts : DayEventRow → List StreamEvent}
    (habout : ∀ row, ∀ event ∈ facts row, event.about = some row.eventId) (hrow : row ∈ rows) :
    (rows.flatMap facts).foldl (fun row event => event.writes row) row =
      (facts row).foldl (fun row event => event.writes row) row := by
  obtain ⟨before, after, rfl⟩ := List.append_of_mem hrow
  rw [List.map_append, List.map_cons, List.nodup_append] at hdistinct
  obtain ⟨-, hafter, hbefore⟩ := hdistinct
  have other {others : List DayEventRow} {written : DayEventRow}
      (hne : ∀ other ∈ others, other.eventId ≠ written.eventId) :
      (others.flatMap facts).foldl (fun row event => event.writes row) written = written := by
    refine facts_other fun event hevent => ?_
    obtain ⟨other, hother, hfact⟩ := List.mem_flatMap.1 hevent
    rw [habout other event hfact]
    exact fun heq => hne other hother (Option.some.inj heq)
  rw [List.flatMap_append, List.flatMap_cons, List.foldl_append, List.foldl_append]
  rw [other fun r hr => hbefore r.eventId (List.mem_map_of_mem hr) row.eventId List.mem_cons_self]
  refine other fun r hr heq => ?_
  rw [eventId_facts] at heq
  exact (List.nodup_cons.1 hafter).1 (heq ▸ List.mem_map_of_mem hr)

/-- Facts about rows keep the invariant if they keep that of each row. -/
theorem Ok.persist_facts (ok : Ok game) (hfacts : ∀ event ∈ events, event.about ≠ none)
    (h : game.persist events = some next)
    (hrows : ∀ row ∈ game.dayEvents, RowOk game.phase (events.foldl (fun row event => event.writes row) row)) : Ok next := by
  obtain rfl := DayEvents.persist_facts hfacts h
  refine ⟨?_, ?_, ?_⟩
  · simpa [Function.comp_def, eventId_facts] using ok.distinct
  · intro phase hphase
    unfold lastStart
    rw [lastStart_facts hfacts]
    exact ok.anchored phase hphase
  · intro row hrow
    obtain ⟨source, hsource, rfl⟩ := List.mem_map.1 hrow
    exact hrows source hsource

/-! ## Commands keep the invariant -/

section Commands

variable {game next : Game}

variable {game next : Game} {eventId : String} {row : DayEventRow} {intent : ScheduleIntent}
   {now : Int}

/-- An event that names no row keeps the invariant. -/
theorem Ok.append {event : StreamEvent} (ok : Ok game) (hplain : event.about = none)
    (h : game.append event = some next) : Ok next := by
  obtain ⟨projected, hproject, rfl⟩ := Option.map_eq_some_iff.1 h
  cases event with
  | gameStarted phaseId phaseOpenedAt | phaseAdvanced phaseId phaseOpenedAt =>
    obtain rfl := Option.some.inj hproject
    refine ⟨ok.distinct, ?_, fun row hrow => ?_⟩
    · intro phase hphase
      obtain rfl := Option.some.inj hphase
      simp [lastStart, dayScheduleTimeline, timelineStep]
    · obtain ⟨hunobserved, -, hdated⟩ := ok.rows row hrow
      exact ⟨hunobserved, fun _ => by simp, hdated⟩
  | threadLocked | resolutionApplied =>
    obtain rfl := Option.some.inj hproject
    refine ⟨by simpa [StreamEvent.writes] using ok.distinct, ?_, ?_⟩
    · intro phase hphase
      rw [← ok.anchored phase hphase]
      simp only [lastStart, dayScheduleTimeline, List.foldl_append, List.foldl_cons, List.foldl_nil,
        timelineStep]
      split <;> rfl
    · simpa [StreamEvent.writes] using ok.rows
  | dayEventScheduled definition =>
    obtain ⟨⟨-, -, hfresh⟩, hprojected⟩ := Option.ite_none_right_eq_some.1 hproject
    obtain rfl := Option.some.inj hprojected
    refine ⟨?_, ?_, ?_⟩
    · simp only [List.map_append, List.map_cons, List.map_nil]
      refine List.nodup_append.2 ⟨ok.distinct, by simp, fun id hid other hother heq => hfresh ?_⟩
      rw [heq, List.mem_singleton.1 hother] at hid
      exact hid
    · intro phase hphase
      rw [← ok.anchored phase hphase]
      simp [lastStart, dayScheduleTimeline, timelineStep]
    · intro row hrow
      rcases List.mem_append.1 hrow with hrow | hrow
      · exact ok.rows row hrow
      · obtain rfl := List.mem_singleton.1 hrow
        exact ⟨fun _ => rfl, by simp, by simp⟩
  | dayEventOpenDue | dayEventLockDue | dayEventOpened | dayEventLocked | dayEventCancelled
  | dayEventResolved => exact absurd hplain (by simp [StreamEvent.about])

/-- Events that name no row keep the invariant. -/
theorem Ok.persist {events : List StreamEvent} (ok : Ok game)
    (hplain : ∀ event ∈ events, event.about = none) (h : game.persist events = some next) :
    Ok next := by
  induction events generalizing game with
  | nil => exact Option.some.inj h ▸ ok
  | cons event events ih =>
    obtain ⟨middle, hmiddle, hrest⟩ := Option.bind_eq_some_iff.1 h
    exact ih (ok.append (hplain event List.mem_cons_self) hmiddle)
      (fun other hother => hplain other (List.mem_cons_of_mem event hother)) hrest

theorem RowOk.close (hrow : RowOk phase row) {state : DayEventState}
    (hscheduled : state ≠ .scheduled) (hopen : state ≠ .open) : RowOk phase (updateWhere eventId ({ · with state }) row) := by
  unfold updateWhere
  split
  · exact .of_state hscheduled hopen
  · exact hrow

/-- Locking, cancelling and resolving events keeps the invariant. -/
theorem Ok.close {events : List StreamEvent} (ok : Ok game)
    (hclose : ∀ event ∈ events, ∃ eventId, event = .dayEventLocked eventId ∨ event = .dayEventCancelled eventId ∨ event = .dayEventResolved eventId)
    (h : game.persist events = some next) : Ok next := by
  refine ok.persist_facts (fun event hevent => ?_) h fun row hrow => ?_
  · obtain ⟨eventId, rfl | rfl | rfl⟩ := hclose event hevent <;> simp [StreamEvent.about]
  · refine Steps.foldl_inv (RowOk game.phase) (fun written event hevent hwritten => ?_)
      (ok.rows row hrow)
    obtain ⟨eventId, rfl | rfl | rfl⟩ := hclose event hevent <;>
      exact hwritten.close (by decide) (by decide)

theorem mem_of_loadDayEvent (h : game.loadDayEvent eventId = some row) : row ∈ game.dayEvents ∧ row.eventId = eventId :=
  ⟨List.mem_of_find?_eq_some h, by simpa using List.find?_some h⟩

/-- The host opens only events that only a host opens. -/
theorem Ok.openDayEvent (ok : Ok game) (h : openDayEvent game eventId = some next) : Ok next := by
  obtain ⟨row, hload, h⟩ := Option.bind_eq_some_iff.1 h
  obtain ⟨phase, hphase, h⟩ := Option.bind_eq_some_iff.1 h
  obtain ⟨⟨-, hhost⟩, h⟩ := Option.ite_none_right_eq_some.1 h
  obtain ⟨hrow, hid⟩ := mem_of_loadDayEvent hload
  have hpersist : game.persist [.dayEventOpened eventId] = some next := by
    split at h
    · exact (Option.ite_none_right_eq_some.1 h).2
    · exact h
    · cases h
  refine ok.persist_facts (fun event hevent => ?_) hpersist fun other hother => ?_
  · obtain rfl := List.mem_singleton.1 hevent
    simp [StreamEvent.about]
  · by_cases heq : other.eventId = eventId
    · obtain rfl : other = row :=
        List.inj_on_of_nodup_map ok.distinct hother hrow (heq.trans hid.symm)
      simp only [List.foldl_cons, List.foldl_nil, StreamEvent.writes, updateWhere, if_pos heq]
      refine ⟨by simp, fun _ => by simp [hphase], fun _ phaseId openOffset lockOffset hrelative => ?_⟩
      cases hrelative.symm.trans hhost
    · simpa [StreamEvent.writes, updateWhere, heq] using ok.rows other hother

theorem about_intentFacts {event : StreamEvent} (h : event ∈ intentFacts row now intent) :
    event.about = some row.eventId := by
  unfold intentFacts at h
  split at h <;> split at h <;> simp at h
  · obtain rfl | rfl := h <;> rfl
  · exact h ▸ rfl
  · obtain rfl | rfl := h <;> rfl
  · exact h ▸ rfl

theorem updateWhere_own (row : DayEventRow) {written : DayEventRow} (hid : written.eventId = row.eventId)
    (update : DayEventRow → DayEventRow) : updateWhere row.eventId update written = update written :=
  if_pos hid

/-- The facts of a lock leave the row locked. -/
theorem RowOk.lockFacts {written : DayEventRow}
    (hlock : intent.kind = .lock) (hid : written.eventId = row.eventId) :
    RowOk phase
      ((intentFacts row now intent).foldl (fun row event => event.writes row) written) := by
  simp only [intentFacts, hlock]
  have hlocked (written : DayEventRow) (hid : written.eventId = row.eventId) :
      RowOk phase (StreamEvent.writes (.dayEventLocked row.eventId) written) := by
    simp only [StreamEvent.writes, updateWhere_own row hid]
    exact .of_state (by simp) (by simp)
  split
  · refine hlocked _ ?_
    rw [← hid]
    exact congrArg DayEvent.id (definition_writes _ written)
  · exact hlocked written hid

/-- The facts of an opening date the row and leave it open. -/
theorem RowOk.openFacts {phase : PhaseStateRow} (hopen : intent.kind = .open)
    (hunobserved : row.openObservedAt = none) :
    RowOk (some phase)
      ((intentFacts row now intent).foldl (fun row event => event.writes row) row) := by
  simp only [intentFacts, hopen, hunobserved, Option.isNone_none, if_true, List.cons_append,
    List.nil_append, List.foldl_cons, List.foldl_nil, StreamEvent.writes]
  rw [updateWhere_own row rfl, updateWhere_own row (by rfl)]
  refine ⟨by simp, by simp, fun _ phaseId openOffset lockOffset _ => ?_⟩
  cases row.openDueAt <;> simp

/-- What an observation writes in a row keeps its invariant. -/
theorem RowOk.observe {phase : PhaseStateRow} (ok : RowOk (some phase) row)
    (context : ScheduleContext) (now : Int) :
    RowOk (some phase) (((evaluate row.definition row.state context).flatMap
      (intentFacts row now)).foldl (fun row event => event.writes row) row) := by
  have hlocks (locks : List ScheduleIntent) (hlocks : ∀ lock ∈ locks, lock.kind = .lock)
      (written : DayEventRow) (hwritten : RowOk (some phase) written)
      (hid : written.eventId = row.eventId) :
      RowOk (some phase)
        ((locks.flatMap (intentFacts row now)).foldl (fun row event => event.writes row) written) := by
    induction locks generalizing written with
    | nil => exact hwritten
    | cons lock locks ih =>
      rw [List.flatMap_cons, List.foldl_append]
      exact ih (fun other hother => hlocks other (List.mem_cons_of_mem lock hother)) _
        (.lockFacts (hlocks lock List.mem_cons_self) hid) ((eventId_facts _ written).trans hid)
  rcases evaluate_cases row.definition row.state context with
    hnone | ⟨opening, locks, hscheduled, hopen, hlock, heq⟩ | ⟨-, lock, hlock, heq⟩
  · rw [hnone]
    exact ok
  · rw [heq, List.flatMap_cons, List.foldl_append]
    exact hlocks locks hlock _ (.openFacts hopen (ok.unobserved hscheduled)) (eventId_facts _ row)
  · rw [heq]
    exact hlocks [lock] (by simpa using hlock) row ok rfl

/-- An observation keeps the invariant. -/
theorem Ok.observe (ok : Ok game) (h : observeDayEventSchedules game now = some next) : Ok next := by
  obtain ⟨phase, hphase, h⟩ := Option.bind_eq_some_iff.1 h
  have habout (row : DayEventRow) : ∀ event ∈ (observed game row now).flatMap (intentFacts row now),
      event.about = some row.eventId := by
    intro event hevent
    obtain ⟨intent, -, hfact⟩ := List.mem_flatMap.1 hevent
    exact about_intentFacts hfact
  refine ok.persist_facts (fun event hevent => ?_) h fun row hrow => ?_
  · obtain ⟨row, -, hfact⟩ := List.mem_flatMap.1 hevent
    rw [habout row event hfact]
    simp
  · rw [facts_own ok.distinct habout hrow]
    have hok := ok.rows row hrow
    unfold observed
    rw [hphase] at hok ⊢
    exact hok.observe (scheduleContext game phase now) now

/-- Every command that is accepted keeps the invariant. -/
theorem Ok.run {command : Command} (ok : Ok game) (h : run game command = some next) : Ok next := by
  cases command with
  | startGame | openDayPhase | applyResolution | scheduleDayEvent | attachDayProgram events =>
    exact ok.persist (by simp [StreamEvent.about]) h
  | lockThread =>
    obtain ⟨phase, -, h⟩ := Option.bind_eq_some_iff.1 h
    exact ok.persist (by simp [StreamEvent.about]) h
  | openDayEvent => exact ok.openDayEvent h
  | lockDayEvent | resolveDayEvent =>
    obtain ⟨row, -, h⟩ := Option.bind_eq_some_iff.1 h
    exact ok.close (by simp) (Option.ite_none_right_eq_some.1 h).2
  | cancelDayEvent =>
    obtain ⟨row, -, h⟩ := Option.bind_eq_some_iff.1 h
    exact ok.close (by simp) (Option.ite_none_left_eq_some.1 h).2
  | advanceDayEventAutomation =>
    obtain ⟨observed, hobserve, h⟩ := Option.bind_eq_some_iff.1 h
    refine (ok.observe hobserve).close (fun event hevent => ?_) (Option.ite_none_right_eq_some.1 h).2
    obtain ⟨row, -, rfl⟩ := List.mem_map.1 hevent
    exact ⟨row.eventId, .inr (.inr rfl)⟩

end Commands

theorem Reachable.ok (reachable : Reachable game) : Ok game := by
  obtain ⟨commands, hrun⟩ := reachable
  exact Steps.foldlM_inv Ok (fun _ _ _ hstep ok => ok.run hstep) hrun ⟨by simp, by simp, by simp⟩

/-! ## Waking -/

section Waking

variable {game : Game} {row : DayEventRow} {now : Int}

/-- In a phase that has started, both sides find the same opening. -/
theorem openingTime_eq (ok : Ok game) {phase : PhaseStateRow} (hphase : game.phase = some phase)
    {event : DayEvent} (htimed : event.schedule.timed) :
    openingTime event (scheduleContext game phase now) = opening game event.schedule := by
  unfold openingTime opening
  cases hschedule : event.schedule with
  | absolute openAt lockAt => simp [compile, openingDueAt]
  | hostOpened | onTrigger =>
    rw [hschedule] at htimed
    exact absurd htimed (by simp [DayEventSchedule.timed])
  | relativeToPhase phaseId openOffset lockOffset =>
    have hanchored : (dayScheduleTimeline game.stream).phaseOpenedAt phase.phaseId =
        phase.phaseOpenedAt := ok.anchored phase hphase
    simp only [compile, openingDueAt, scheduleContext, hphase, Option.map_some, Option.bind_some,
      Option.some.injEq]
    by_cases hcurrent : phase.phaseId = phaseId
    · subst hcurrent
      rw [hanchored]
      cases phase.phaseOpenedAt with
      | none => simp
      | some opened => cases h : checkedAdd opened openOffset <;> simp [h]
    · simp [hcurrent]

theorem scheduledOpening_eq {event : DayEvent} :
    scheduledOpening event (game.phase.map (·.phaseId)) (game.phase.bind (·.phaseOpenedAt)) =
      opening game event.schedule := by
  unfold scheduledOpening opening
  cases event.schedule <;> rfl

/-- What the scheduler finds for a scheduled event. -/
theorem observed_scheduled (ok : Ok game) (htimed : row.definition.schedule.timed)
    (hstate : row.state = .scheduled) :
    observed game row now ≠ [] ↔ Reached now (opening game row.definition.schedule) ∧
      ∃ phase, game.phase = some phase ∧
        phaseScopeAllowsOpen row.definition.phaseScope (scheduleContext game phase now) := by
  unfold observed
  cases hphase : game.phase with
  | none => simp
  | some phase =>
    simp only [hstate]
    rw [evaluate_scheduled_ne_nil, openingTime_eq ok hphase htimed]
    simp [scheduleContext]

/-- What the work row finds for a scheduled event whose opening has come. -/
theorem workDueAt_scheduled (hstate : row.state = .scheduled) {due : Int}
    (hdue : opening game row.definition.schedule = some due) (hle : due ≤ now) :
    Reached now (workDueAt game row) ↔
      phaseScopeCanOpen row.definition.phaseScope (game.phase.bind currentDayNumber) ∧
        ∀ opensAt closesAt, row.definition.phaseScope = .explicitWindow opensAt closesAt →
          opensAt ≤ now ∧ max due opensAt < closesAt := by
  unfold workDueAt nextObservationAt
  rw [hstate, reached_nextOpening, scheduledOpening_eq, hdue]
  simp [hle]

/-- The scheduler takes a day and its revotes for the day, the work row the day alone. -/
theorem dayNumber_iff {number : Nat} : ((∃ phase, game.phase = some phase ∧
        phaseScopeAllowsOpen (.duringDay number) (scheduleContext game phase now)) ↔
      phaseScopeCanOpen (.duringDay number) (game.phase.bind currentDayNumber)) ↔ ¬ InRevote game number := by
  unfold InRevote phaseScopeAllowsOpen phaseScopeCanOpen
  cases game.phase with
  | none => simp
  | some phase =>
    by_cases hday : phase.phaseId.kind = .day
    · cases hrevote : phase.phaseId.revote <;>
        simp [scheduleContext, currentDayNumber, PhaseId.plainNumber, PhaseId.isPlain, hday, hrevote]
    · simp [scheduleContext, currentDayNumber, hday]

theorem inWindow_iff {opensAt closesAt : Int} : (∃ phase, game.phase = some phase ∧
        phaseScopeAllowsOpen (.explicitWindow opensAt closesAt) (scheduleContext game phase now)) ↔
      game.phase ≠ none ∧ opensAt ≤ now ∧ now < closesAt := by
  simp only [phaseScopeAllowsOpen, Bool.and_eq_true, decide_eq_true_eq]
  cases game.phase <;> simp [scheduleContext]

/-- A scheduled event is woken for exactly when something is to be done about it, if it is woken to
open. -/
theorem wokenToOpen_iff (ok : Ok game) (htimed : row.definition.schedule.timed)
    (hstate : row.state = .scheduled) :
    (observed game row now ≠ [] ↔ Reached now (workDueAt game row)) ↔
      WokenToOpen game row.definition now := by
  rw [observed_scheduled ok htimed hstate]
  unfold WokenToOpen
  by_cases hreached : Reached now (opening game row.definition.schedule)
  · obtain ⟨due, hdue, hle⟩ := id hreached
    rw [workDueAt_scheduled hstate hdue hle]
    cases hscope : row.definition.phaseScope with
    | duringDay number =>
      simp only [hreached, true_and, forall_const]
      rw [← @dayNumber_iff game now]
      simp
    | anyRunning =>
      simp [hreached, phaseScopeAllowsOpen, phaseScopeCanOpen, Option.ne_none_iff_exists']
    | explicitWindow opensAt closesAt =>
      rw [inWindow_iff]
      by_cases hopens : opensAt ≤ now
      · by_cases hcloses : closesAt ≤ now
        · simp [hopens, hcloses, hdue, phaseScopeCanOpen]
          omega
        · have hnow : now < closesAt := not_le.1 hcloses
          have hbefore : due < closesAt ∧ opensAt < closesAt := by omega
          simp [hreached, hopens, hcloses, phaseScopeCanOpen, hbefore, hnow]
      · simp [hopens, phaseScopeCanOpen]
  · have hdue : ¬ Reached now (workDueAt game row) := by
      unfold workDueAt nextObservationAt
      rw [hstate, reached_nextOpening, scheduledOpening_eq]
      rintro ⟨-, due, hdue, hle, -⟩
      exact hreached ⟨due, hdue, hle⟩
    simp [hreached, hdue]

/-- An open event is woken for exactly when something is to be done about it, if it is woken to lock. -/
theorem wokenToLock_iff (ok : Ok game) (hrow : row ∈ game.dayEvents)
    (htimed : row.definition.schedule.timed) (hstate : row.state = .open) :
    (observed game row now ≠ [] ↔ Reached now (workDueAt game row)) ↔ WokenToLock game row now := by
  have rowOk := ok.rows row hrow
  obtain ⟨phase, hphase⟩ := Option.ne_none_iff_exists'.1 (rowOk.running hstate)
  have hobserved : observed game row now ≠ [] ↔
      Reached now (lockTime row.definition (scheduleContext game phase now)) ∨
        Reached now (scopeClose row.definition.phaseScope) := by
    unfold observed
    rw [hphase]
    simp only [hstate]
    exact evaluate_open_ne_nil
  rw [hobserved]
  unfold workDueAt nextObservationAt
  simp only [hstate, nextLock, reached_earliest]
  unfold lockTime WokenToLock
  cases hschedule : row.definition.schedule with
  | absolute openAt lockAt =>
    cases lockAt <;> simp [compile, lockDueAt]
  | hostOpened | onTrigger =>
    rw [hschedule] at htimed
    exact absurd htimed (by simp [DayEventSchedule.timed])
  | relativeToPhase phaseId openOffset lockOffset =>
    cases lockOffset with
    | none => simp [compile]
    | some lockOffset =>
      obtain ⟨openDueAt, hopenDueAt⟩ :=
        Option.ne_none_iff_exists'.1 (rowOk.dated hstate phaseId openOffset lockOffset hschedule)
      have hlast : ((lockDueAt (.relativeToPhase phaseId lockOffset)
          (scheduleContext game phase now)).map (·.1)) =
            (lastStart game phaseId).bind (checkedAdd · lockOffset) := by
        simp only [lockDueAt, lastStart, scheduleContext]
        cases (dayScheduleTimeline game.stream).phaseOpenedAt phaseId with
        | none => rfl
        | some opened => cases h : checkedAdd opened lockOffset <;> simp [h]
      simp only [compile, Option.map_some, Option.bind_some, hlast, hphase]
      by_cases hcurrent : phase.phaseId = phaseId
      · have hanchored := ok.anchored phase hphase
        rw [hcurrent] at hanchored
        simp [lockAnchor, hcurrent, hanchored]
      · have hanchor : lockAnchor (.relativeToPhase phaseId openOffset) phaseId
            (some phase.phaseId) phase.phaseOpenedAt row.openDueAt = startWhenOpened row openOffset := by
          simp [lockAnchor, startWhenOpened, hcurrent, hopenDueAt]
        rw [hanchor]
        constructor
        · rintro hiff _ _ _ ⟨rfl, rfl, rfl⟩ -
          tauto
        · intro hwoken
          have := hwoken phaseId openOffset lockOffset rfl (by simpa using hcurrent)
          tauto

end Waking

/-- **The work row wakes the scheduler for an event exactly when it has something to do about it, if and
only if the event is woken.** -/
theorem woken_iff {game : Game} (reachable : Reachable game) {row : DayEventRow}
    (hrow : row ∈ game.dayEvents) (htimed : row.definition.schedule.timed) (now : Int) :
    (observed game row now ≠ [] ↔ Reached now (workDueAt game row)) ↔ Woken game row now := by
  have ok := reachable.ok
  unfold Woken
  split
  case h_1 hstate => exact wokenToOpen_iff ok htimed hstate
  case h_2 hstate => exact wokenToLock_iff ok hrow htimed hstate
  all_goals
    rename_i hstate
    refine iff_of_true (iff_of_false ?_ ?_) trivial
    · unfold observed
      cases game.phase with
      | none => simp
      | some phase => simp [evaluate_eq_nil, hstate]
    · simp [workDueAt, hstate, nextObservationAt]

/-! ## A window that has passed -/

/-- An event that opens at 10 within the window from 5 to 20. -/
def windowed : DayEvent where
  id := "e"
  phaseScope := .explicitWindow 5 20
  schedule := .absolute 10 none
  resolution := .hostDecision
  minimum := 0

/-- A game in its first day with that event scheduled. -/
def windowedGame : Game where
  stream := [.gameStarted (.first .day) 0, .dayEventScheduled windowed]
  phase := some { phaseId := .first .day, phaseOpenedAt := some 0 }
  dayEvents := [{ definition := windowed }]

theorem windowedGame_reachable : Reachable windowedGame :=
  ⟨[.startGame (.first .day) 0, .scheduleDayEvent windowed], rfl⟩

/-- Within the window the work row is right about the event. -/
theorem windowed_woken : (observed windowedGame { definition := windowed } 15 ≠ [] ↔
        Reached 15 (workDueAt windowedGame { definition := windowed })) ↔
      Woken windowedGame { definition := windowed } 15 :=
  woken_iff windowedGame_reachable List.mem_cons_self rfl 15

/-- **Past the window** the work row stays due, and nothing is to be done. -/
theorem missedWindow_stays_due : Reachable windowedGame ∧
    ({ definition := windowed } : DayEventRow) ∈ windowedGame.dayEvents ∧
    windowed.schedule.timed ∧
    ¬ (observed windowedGame { definition := windowed } 25 ≠ [] ↔
      Reached 25 (workDueAt windowedGame { definition := windowed })) := by
  refine ⟨windowedGame_reachable, List.mem_cons_self, rfl, fun h => ?_⟩
  exact h.2 ⟨10, rfl, by decide⟩ rfl

end Fmarch.Commands.DayEvents
