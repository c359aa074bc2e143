import Fmarch.Commands.DayEvents

/-!
# Day events and who takes part in them

While a day event is open, slots take part in it and withdraw (`submit_day_event_participation`). These
commands run beside those of the host and the scheduler (`Commands/DayEvents.lean`), in any order.

**`dayEvents_lawful`**: each event a command appends moves a day event along `can_transition_to` or leaves
its state; an event that is over is left as it is, with those who took part; and nobody takes part twice,
or more than the maximum.

Who may take part and with which payload can only refuse a command, and the private channel of an event is
not looked at; neither is modelled. `maximum` is `participation.limits.maximum` of the definition of an event,
which `DayEvent` leaves out.
-/

namespace Fmarch.Commands.DayEvents

open Platform DaySchedule

/-- `DayEventState::can_transition_to`. -/
def canTransitionTo : DayEventState → DayEventState → Bool
  | .scheduled, .open | .scheduled, .cancelled | .open, .locked | .open, .cancelled | .locked, .resolved
  | .locked, .cancelled => true
  | _, _ => false

/-- The event is over. -/
def terminal (state : DayEventState) : Prop := state = .resolved ∨ state = .cancelled

/-! ## The commands -/

/-- A game and its rows of `day_event_participation`, by event and slot. -/
structure Roster where
  game : Game := {}
  participation : List (String × String) := []

namespace Roster

/-- `projections::day_event_participation`. -/
def participants (roster : Roster) (eventId : String) : List String :=
  (roster.participation.filter (·.1 = eventId)).map (·.2)

def submitDayEventParticipation (maximum : String → Option Nat) (roster : Roster) (eventId actorSlot : String) :
    Option Roster := do
  let row ← roster.game.loadDayEvent eventId
  if row.state = .open ∧ actorSlot ∉ roster.participants eventId ∧
      ¬ (maximum eventId).any ((roster.participants eventId).length ≥ ·) then
    some { roster with participation := roster.participation ++ [(eventId, actorSlot)] }
  else none

def withdrawDayEventParticipation (roster : Roster) (eventId actorSlot : String) : Option Roster := do
  let row ← roster.game.loadDayEvent eventId
  if row.state = .open ∧ actorSlot ∈ roster.participants eventId then
    some { roster with participation := roster.participation.filter (· ≠ (eventId, actorSlot)) }
  else none

end Roster

/-- The commands of slots, beside those of the host and the scheduler. -/
inductive RosterCommand where
  | submit (eventId actorSlot : String)
  | withdraw (eventId actorSlot : String)
  | game (command : Command)

/-- The host's lock counts the participants there are. -/
def Roster.counted (roster : Roster) : Command → Command
  | .lockDayEvent eventId _ => .lockDayEvent eventId (roster.participants eventId).length
  | command => command

/-- The state after a command that is accepted. -/
def Roster.run (maximum : String → Option Nat) (roster : Roster) : RosterCommand → Option Roster
  | .submit eventId actorSlot => roster.submitDayEventParticipation maximum eventId actorSlot
  | .withdraw eventId actorSlot => roster.withdrawDayEventParticipation eventId actorSlot
  | .game command => (DayEvents.run roster.game (roster.counted command)).map ({ roster with game := · })

/-! ## What events may do to a row -/

/-- An event leaves a row, or moves one that is not over along `can_transition_to` or not at all. -/
def Legal (row : DayEventRow) (event : StreamEvent) : Prop :=
  event.writes row = row ∨ ¬ terminal row.state ∧
    ((event.writes row).state = row.state ∨ canTransitionTo row.state (event.writes row).state)

/-- Each event in turn. -/
def LegalRun : DayEventRow → List StreamEvent → Prop
  | _, [] => True
  | row, event :: events => Legal row event ∧ LegalRun (event.writes row) events

section
variable {row : DayEventRow} {event : StreamEvent} {game next : Game} {events events' : List StreamEvent}
  {eventId : String} {now : Int}

theorem legalRun_append : LegalRun row (events ++ events') ↔
    LegalRun row events ∧ LegalRun (events.foldl (fun row event => event.writes row) row) events' := by
  induction events generalizing row with
  | nil => simp [LegalRun]
  | cons event events ih => simp [LegalRun, ih, and_assoc]

theorem legalRun_other (h : ∀ event ∈ events, event.about ≠ some row.eventId) : LegalRun row events := by
  induction events with
  | nil => trivial
  | cons event events ih =>
    obtain ⟨hfirst, hrest⟩ := List.forall_mem_cons.1 h
    rw [LegalRun, writes_other hfirst]
    exact ⟨.inl (writes_other hfirst), ih hrest⟩

theorem legalRun_own {rows : List DayEventRow} (hdistinct : (rows.map (·.eventId)).Nodup)
    {facts : DayEventRow → List StreamEvent}
    (habout : ∀ row, ∀ event ∈ facts row, event.about = some row.eventId) (hrow : row ∈ rows)
    (h : LegalRun row (facts row)) : LegalRun row (rows.flatMap facts) := by
  obtain ⟨before, after, rfl⟩ := List.append_of_mem hrow
  rw [List.map_append, List.map_cons, List.nodup_append] at hdistinct
  obtain ⟨-, hafter, hbefore⟩ := hdistinct
  have hother : ∀ others : List DayEventRow, (∀ other ∈ others, other.eventId ≠ row.eventId) →
      ∀ event ∈ others.flatMap facts, event.about ≠ some row.eventId := by
    intro others hne event hevent
    obtain ⟨other, hmem, hfact⟩ := List.mem_flatMap.1 hevent
    rw [habout other event hfact]
    exact fun heq => hne other hmem (Option.some.inj heq)
  have hfirst := hother before fun r hr => hbefore r.eventId (List.mem_map_of_mem hr) row.eventId List.mem_cons_self
  rw [List.flatMap_append, List.flatMap_cons, legalRun_append, facts_other hfirst, legalRun_append]
  refine ⟨legalRun_other hfirst, h, legalRun_other ?_⟩
  rw [eventId_facts]
  exact hother after fun r hr heq => (List.nodup_cons.1 hafter).1 (heq ▸ List.mem_map_of_mem hr)

/-- A row that is over stays. -/
theorem LegalRun.over (h : LegalRun row events) (hover : terminal row.state) :
    events.foldl (fun row event => event.writes row) row = row := by
  induction events with
  | nil => rfl
  | cons event events ih =>
    rcases h.1 with hsame | ⟨hlive, -⟩
    · rw [List.foldl_cons, hsame]
      exact ih (hsame ▸ h.2)
    · exact absurd hover hlive

/-- An event that sets the state of the one row it names, along `can_transition_to`. -/
theorem legal_of_moves (ok : Ok game) (hrow : row ∈ game.dayEvents) {own : DayEventRow} (hown : own ∈ game.dayEvents)
    (habout : event.about = some own.eventId) (hlive : ¬ terminal own.state)
    (hmoves : canTransitionTo own.state (event.writes own).state) : Legal row event := by
  by_cases heq : row.eventId = own.eventId
  · obtain rfl := List.inj_on_of_nodup_map ok.distinct hrow hown heq
    exact .inr ⟨hlive, .inr hmoves⟩
  · exact .inl (writes_other fun h => heq (Option.some.inj (h.symm.trans habout)))


/-! ## Commands are legal -/

/-- The state an intent moves a row to. -/
def intentState (intent : ScheduleIntent) : DayEventState :=
  match intent.kind with
  | .open => .open
  | .lock => .locked

/-- A fact that dates a move may stand before the fact of the move. -/
theorem legalRun_move {due moved : StreamEvent} {target : DayEventState} (dated : Bool)
    (hdue : (due.writes row).state = row.state)
    (hmoved : ∀ written : DayEventRow, written.eventId = row.eventId → (moved.writes written).state = target)
    (hlive : ¬ terminal row.state) (hmove : target = row.state ∨ canTransitionTo row.state target) :
    LegalRun row ((if dated then [due] else []) ++ [moved]) ∧
      (((if dated then [due] else []) ++ [moved]).foldl (fun row event => event.writes row) row).state = target := by
  have hown := hmoved (due.writes row) (eventId_facts [due] row)
  cases dated with
  | false => exact ⟨⟨.inr ⟨hlive, hmoved row rfl ▸ hmove⟩, trivial⟩, hmoved row rfl⟩
  | true => exact ⟨⟨.inr ⟨hlive, .inl hdue⟩, .inr ⟨hdue ▸ hlive, hown ▸ hdue ▸ hmove⟩, trivial⟩, hown⟩

/-- The facts of an intent are legal where the move is, and make it. -/
theorem legalRun_intentFacts {written : DayEventRow} {intent : ScheduleIntent} (now : Int)
    (hid : written.eventId = row.eventId) (hlive : ¬ terminal written.state)
    (hmove : intentState intent = written.state ∨ canTransitionTo written.state (intentState intent)) :
    LegalRun written (intentFacts row now intent) ∧
      ((intentFacts row now intent).foldl (fun row event => event.writes row) written).state =
        intentState intent := by
  cases hkind : intent.kind with
  | «open» | lock =>
    simp only [intentState, intentFacts, hkind] at hmove ⊢
    refine legalRun_move _ ?_ (fun written' hid' => ?_) hlive hmove
    · rw [StreamEvent.writes, updateWhere_own row hid]
    · rw [StreamEvent.writes, updateWhere_own row (hid'.trans hid)]

/-- What an observation writes in a row is legal. -/
theorem legalRun_observe (row : DayEventRow) (context : ScheduleContext) (now : Int) :
    LegalRun row ((evaluate row.definition row.state context).flatMap (intentFacts row now)) := by
  have hlocks : ∀ locks : List ScheduleIntent, (∀ lock ∈ locks, lock.kind = .lock) → ∀ written : DayEventRow,
      written.eventId = row.eventId → written.state = .open ∨ written.state = .locked →
        LegalRun written (locks.flatMap (intentFacts row now)) := by
    intro locks hlocks
    induction locks with
    | nil => exact fun _ _ _ => trivial
    | cons lock locks ih =>
      intro written hid hstate
      have hkind : intentState lock = .locked := by rw [intentState, hlocks lock List.mem_cons_self]
      obtain ⟨hlegal, hlocked⟩ := @legalRun_intentFacts row written lock now hid
        (by rcases hstate with h | h <;> simp [terminal, h])
        (by rcases hstate with h | h <;> simp [hkind, h, canTransitionTo])
      rw [List.flatMap_cons, legalRun_append]
      exact ⟨hlegal, ih (fun other hother => hlocks other (List.mem_cons_of_mem _ hother)) _
        ((eventId_facts _ written).trans hid) (.inr (hlocked.trans hkind))⟩
  rcases evaluate_cases row.definition row.state context with
    hnone | ⟨opening, locks, hscheduled, hopen, hlock, heq⟩ | ⟨hopen, lock, hlock, heq⟩
  · rw [hnone]
    trivial
  · rw [heq, List.flatMap_cons, legalRun_append]
    have hkind : intentState opening = .open := by rw [intentState, hopen]
    obtain ⟨hlegal, hopened⟩ := @legalRun_intentFacts row row opening now rfl
      (by simp [terminal, hscheduled]) (by simp [hkind, hscheduled, canTransitionTo])
    exact ⟨hlegal, hlocks locks hlock _ (eventId_facts _ row) (.inl (hopened.trans hkind))⟩
  · rw [heq]
    exact hlocks [lock] (by simpa using hlock) row rfl (.inl hopen)

/-- What a command did: the rows there were have gone through the events it appended, and others are new. -/
def Went (game next : Game) : Prop :=
  ∃ events added, next.stream = game.stream ++ events ∧
    next.dayEvents = game.dayEvents.map (fun row => events.foldl (fun row event => event.writes row) row) ++ added ∧
    (∀ row ∈ added, row.state = .scheduled) ∧ ∀ row ∈ game.dayEvents, LegalRun row events

/-- Events that name no row. -/
theorem went_of_plain (hplain : ∀ event ∈ events, event.about = none) (h : game.persist events = some next) :
    Went game next := by
  have hother : ∀ row : DayEventRow, ∀ event ∈ events, event.about ≠ some row.eventId := by
    intro row event hevent
    simp [hplain event hevent]
  suffices hadds : ∃ added, next.stream = game.stream ++ events ∧ next.dayEvents = game.dayEvents ++ added ∧
      ∀ row ∈ added, row.state = .scheduled by
    obtain ⟨added, hstream, hrows, hadded⟩ := hadds
    refine ⟨events, added, hstream, ?_, hadded, fun row _ => legalRun_other (hother row)⟩
    rw [hrows, List.map_congr_left fun row _ => facts_other (hother row), List.map_id']
  clear hother
  induction events generalizing game with
  | nil =>
    obtain rfl := Option.some.inj h
    exact ⟨[], by simp, by simp, by simp⟩
  | cons event events ih =>
    obtain ⟨middle, hmiddle, hrest⟩ := Option.bind_eq_some_iff.1 h
    obtain ⟨hfirst, hplain⟩ := List.forall_mem_cons.1 hplain
    obtain ⟨added, hstream, hrows, hadded⟩ := ih hplain hrest
    obtain ⟨projected, hproject, rfl⟩ := Option.map_eq_some_iff.1 hmiddle
    have hnew : ∃ new, projected.dayEvents = game.dayEvents ++ new ∧ ∀ row ∈ new, row.state = .scheduled := by
      cases event with
      | gameStarted | phaseAdvanced | threadLocked | resolutionApplied =>
        obtain rfl := Option.some.inj hproject
        exact ⟨[], by simp [StreamEvent.writes], by simp⟩
      | dayEventScheduled definition =>
        obtain ⟨-, hproject⟩ := Option.ite_none_right_eq_some.1 hproject
        obtain rfl := Option.some.inj hproject
        exact ⟨_, rfl, by simp⟩
      | dayEventOpenDue | dayEventLockDue | dayEventOpened | dayEventLocked | dayEventCancelled
      | dayEventResolved => exact absurd hfirst (by simp [StreamEvent.about])
    obtain ⟨new, hnewRows, hnewState⟩ := hnew
    refine ⟨new ++ added, by simp [hstream], by simp [hrows, hnewRows], fun row hrow => ?_⟩
    exact (List.mem_append.1 hrow).elim (hnewState row) (hadded row)

theorem went_of_facts (hfacts : ∀ event ∈ events, event.about ≠ none) (h : game.persist events = some next)
    (hlegal : ∀ row ∈ game.dayEvents, LegalRun row events) : Went game next := by
  obtain rfl := persist_facts hfacts h
  exact ⟨events, [], rfl, by simp, by simp, hlegal⟩

theorem went_of_move (ok : Ok game) {own : DayEventRow} (hload : game.loadDayEvent eventId = some own)
    (habout : event.about = some eventId) (hlive : ¬ terminal own.state)
    (hmoves : canTransitionTo own.state (event.writes own).state) (h : game.persist [event] = some next) :
    Went game next := by
  obtain ⟨hown, rfl⟩ := mem_of_loadDayEvent hload
  exact went_of_facts (by simp [habout]) h fun row hrow => ⟨legal_of_moves ok hrow hown habout hlive hmoves, trivial⟩

/-- An observation, and the resolution of what was locked before it. -/
theorem went_of_advance (ok : Ok game) {select : DayEventRow → Bool}
    (h : advanceDayEventAutomation select game now = some next) : Went game next := by
  obtain ⟨middle, hobserve, h⟩ := Option.bind_eq_some_iff.1 h
  obtain ⟨-, hresolve⟩ := Option.ite_none_right_eq_some.1 h
  obtain ⟨phase, hphase, hobserve⟩ := Option.bind_eq_some_iff.1 hobserve
  let facts (row : DayEventRow) := (observed game row now).flatMap (intentFacts row now)
  let due := game.dayEvents.filter fun row => row.state = .locked ∧ row.definition.resolution = .auto
  have habout : ∀ row, ∀ event ∈ facts row, event.about = some row.eventId := by
    intro row event hevent
    obtain ⟨intent, -, hfact⟩ := List.mem_flatMap.1 hevent
    exact about_intentFacts hfact
  have hfacts : ∀ event ∈ game.dayEvents.flatMap facts, event.about ≠ none := by
    intro event hevent
    obtain ⟨row, -, hfact⟩ := List.mem_flatMap.1 hevent
    simp [habout row event hfact]
  have hresolved : ∀ event ∈ due.map fun row => StreamEvent.dayEventResolved row.eventId, event.about ≠ none := by
    simp [StreamEvent.about]
  obtain rfl := persist_facts hfacts hobserve
  obtain rfl := persist_facts hresolved hresolve
  refine ⟨game.dayEvents.flatMap facts ++ due.map fun row => .dayEventResolved row.eventId, [], by simp, ?_, by simp,
    fun row hrow => legalRun_append.2 ⟨?_, ?_⟩⟩
  · simp [Function.comp_def, List.foldl_append]
  · refine legalRun_own ok.distinct habout hrow ?_
    simp only [facts, observed, hphase]
    exact legalRun_observe row _ now
  · by_cases hdue : row ∈ due
    · obtain ⟨-, hlocked, -⟩ := by simpa [due] using hdue
      have hquiet : facts row = [] := by
        simp [facts, observed, hphase, evaluate_eq_nil, hlocked]
      rw [facts_own ok.distinct habout hrow, hquiet, List.foldl_nil, List.map_eq_flatMap]
      refine legalRun_own ((List.filter_sublist.map _).nodup ok.distinct) (by simp [StreamEvent.about]) hdue ?_
      exact ⟨.inr ⟨by simp [terminal, hlocked], .inr (by simp [hlocked, StreamEvent.writes, updateWhere, canTransitionTo])⟩,
        trivial⟩
    · refine legalRun_other fun event hevent => ?_
      obtain ⟨other, hother, rfl⟩ := List.mem_map.1 hevent
      rw [eventId_facts]
      intro heq
      exact hdue (List.inj_on_of_nodup_map ok.distinct (List.mem_of_mem_filter hother) hrow (Option.some.inj heq) ▸ hother)

/-- What every accepted command does. -/
theorem went_of_run (ok : Ok game) {command : Command} (h : run game command = some next) : Went game next := by
  cases command with
  | startGame | openDayPhase | applyResolution | scheduleDayEvent | attachDayProgram =>
    exact went_of_plain (by simp [StreamEvent.about]) h
  | lockThread =>
    obtain ⟨phase, -, h⟩ := Option.bind_eq_some_iff.1 h
    exact went_of_plain (by simp [StreamEvent.about]) h
  | openDayEvent eventId =>
    obtain ⟨own, hload, h⟩ := Option.bind_eq_some_iff.1 h
    obtain ⟨phase, -, h⟩ := Option.bind_eq_some_iff.1 h
    obtain ⟨⟨hstate, -⟩, h⟩ := Option.ite_none_right_eq_some.1 h
    have hpersist : game.persist [.dayEventOpened eventId] = some next := by
      split at h
      · exact (Option.ite_none_right_eq_some.1 h).2
      · exact h
      · cases h
    refine went_of_move ok hload rfl (by simp [terminal, hstate]) ?_ hpersist
    simp [StreamEvent.writes, updateWhere, (mem_of_loadDayEvent hload).2, hstate, canTransitionTo]
  | lockDayEvent eventId participants | resolveDayEvent eventId =>
    obtain ⟨own, hload, h⟩ := Option.bind_eq_some_iff.1 h
    obtain ⟨⟨hstate, -⟩, h⟩ := Option.ite_none_right_eq_some.1 h
    refine went_of_move ok hload rfl (by simp [terminal, hstate]) ?_ h
    simp [StreamEvent.writes, updateWhere, (mem_of_loadDayEvent hload).2, hstate, canTransitionTo]
  | cancelDayEvent eventId =>
    obtain ⟨own, hload, h⟩ := Option.bind_eq_some_iff.1 h
    obtain ⟨hlive, h⟩ := Option.ite_none_left_eq_some.1 h
    refine went_of_move ok hload rfl hlive ?_ h
    cases hstate : own.state <;> simp_all [StreamEvent.writes, updateWhere, (mem_of_loadDayEvent hload).2, canTransitionTo]
  | advanceDayEventAutomation select observedAt => exact went_of_advance ok h

end

/-! ## Runs -/

/-- What commands lead to, in any order. -/
def Roster.Reachable (maximum : String → Option Nat) (roster : Roster) : Prop :=
  ∃ commands : List RosterCommand, commands.foldlM (Roster.run maximum) {} = some roster

/-- What holds of a roster that commands can reach. -/
structure RosterOk (maximum : String → Option Nat) (roster : Roster) : Prop where
  game : Ok roster.game
  once : ∀ eventId, (roster.participants eventId).Nodup
  within : ∀ eventId, ∀ most ∈ maximum eventId, (roster.participants eventId).length ≤ most

section
variable {maximum : String → Option Nat} {roster next : Roster} {eventId actorSlot : String} {command : RosterCommand}

theorem submit_spec (h : roster.submitDayEventParticipation maximum eventId actorSlot = some next) :
    next.game = roster.game ∧ (∃ row, roster.game.loadDayEvent eventId = some row ∧ row.state = .open) ∧
      actorSlot ∉ roster.participants eventId ∧
      (∀ most ∈ maximum eventId, (roster.participants eventId).length < most) ∧
      ∀ other, next.participants other =
        if eventId = other then roster.participants other ++ [actorSlot] else roster.participants other := by
  obtain ⟨row, hload, h⟩ := Option.bind_eq_some_iff.1 h
  obtain ⟨⟨hopen, hfresh, hroom⟩, h⟩ := Option.ite_none_right_eq_some.1 h
  obtain rfl := Option.some.inj h
  refine ⟨rfl, ⟨row, hload, hopen⟩, hfresh, fun most hmost => ?_, fun other => ?_⟩
  · rw [Option.mem_def.1 hmost] at hroom
    simpa using hroom
  · by_cases heq : eventId = other <;> simp [Roster.participants, heq]

theorem withdraw_spec (h : roster.withdrawDayEventParticipation eventId actorSlot = some next) :
    next.game = roster.game ∧ (∃ row, roster.game.loadDayEvent eventId = some row ∧ row.state = .open) ∧
      ∀ other, (next.participants other).Sublist (roster.participants other) ∧
        (eventId ≠ other → next.participants other = roster.participants other) := by
  obtain ⟨row, hload, h⟩ := Option.bind_eq_some_iff.1 h
  obtain ⟨⟨hopen, -⟩, h⟩ := Option.ite_none_right_eq_some.1 h
  obtain rfl := Option.some.inj h
  refine ⟨rfl, ⟨row, hload, hopen⟩, fun other => ⟨?_, fun hne => ?_⟩⟩
  · exact (List.filter_sublist.filter _).map _
  · simp only [Roster.participants, List.filter_filter]
    congr 1
    refine List.filter_congr fun entry _ => ?_
    by_cases heq : entry.1 = other
    · simp [heq, Prod.ext_iff, hne.symm]
    · simp [heq]

theorem RosterOk.run (ok : RosterOk maximum roster) (h : roster.run maximum command = some next) :
    RosterOk maximum next := by
  cases command with
  | submit eventId actorSlot =>
    obtain ⟨hgame, -, hfresh, hroom, hparticipants⟩ := submit_spec h
    refine ⟨hgame ▸ ok.game, fun other => ?_, fun other most hmost => ?_⟩
    · rw [hparticipants]
      split
      case isTrue heq => simpa [List.nodup_append, heq] using ⟨ok.once other, fun slot hslot hsame => hfresh (heq ▸ hsame ▸ hslot)⟩
      case isFalse => exact ok.once other
    · rw [hparticipants]
      split
      case isTrue heq =>
        subst heq
        rw [List.length_append]
        exact hroom most hmost
      case isFalse => exact ok.within other most hmost
  | withdraw eventId actorSlot =>
    obtain ⟨hgame, -, hparticipants⟩ := withdraw_spec h
    refine ⟨hgame ▸ ok.game, fun other => (hparticipants other).1.nodup (ok.once other), fun other most hmost => ?_⟩
    exact (hparticipants other).1.length_le.trans (ok.within other most hmost)
  | game command =>
    obtain ⟨game, hrun, rfl⟩ := Option.map_eq_some_iff.1 h
    exact ⟨ok.game.run hrun, ok.once, ok.within⟩

/-- What every accepted command does, to the rows and to those who take part. -/
theorem RosterOk.went (ok : RosterOk maximum roster) (h : roster.run maximum command = some next) :
    Went roster.game next.game ∧ ∀ row ∈ roster.game.dayEvents, terminal row.state →
      row ∈ next.game.dayEvents ∧ next.participants row.eventId = roster.participants row.eventId := by
  have hsame : Went roster.game roster.game := ⟨[], [], by simp, by simp, by simp, fun _ _ => trivial⟩
  have hrows : ∀ {row own : DayEventRow}, row ∈ roster.game.dayEvents → terminal row.state →
      ∀ {eventId}, roster.game.loadDayEvent eventId = some own → own.state = .open → eventId ≠ row.eventId := by
    rintro row own hrow hover eventId hload hopen rfl
    obtain ⟨hown, hid⟩ := mem_of_loadDayEvent hload
    obtain rfl := List.inj_on_of_nodup_map ok.game.distinct hown hrow hid
    simp [terminal, hopen] at hover
  cases command with
  | submit eventId actorSlot =>
    obtain ⟨hgame, ⟨own, hload, hopen⟩, -, -, hparticipants⟩ := submit_spec h
    refine ⟨hgame ▸ hsame, fun row hrow hover => ⟨hgame ▸ hrow, ?_⟩⟩
    rw [hparticipants, if_neg (hrows hrow hover hload hopen)]
  | withdraw eventId actorSlot =>
    obtain ⟨hgame, ⟨own, hload, hopen⟩, hparticipants⟩ := withdraw_spec h
    refine ⟨hgame ▸ hsame, fun row hrow hover => ⟨hgame ▸ hrow, ?_⟩⟩
    exact (hparticipants row.eventId).2 (hrows hrow hover hload hopen)
  | game command =>
    obtain ⟨game, hrun, rfl⟩ := Option.map_eq_some_iff.1 h
    have hwent := went_of_run ok.game hrun
    refine ⟨hwent, fun row hrow hover => ⟨?_, rfl⟩⟩
    obtain ⟨events, added, -, hevents, -, hlegal⟩ := hwent
    refine hevents ▸ List.mem_append_left _ (List.mem_map.2 ⟨row, hrow, ?_⟩)
    exact (hlegal row hrow).over hover

end

/-- Whatever commands have been run, in any order: nobody takes part in a day event twice, or more than its
maximum; and whatever command is run next, each event it appends moves a day event along
`can_transition_to` or leaves its state, and what is over stays as it is, with those who took part. -/
theorem dayEvents_lawful (maximum : String → Option Nat) (roster : Roster) (h : roster.Reachable maximum) :
    (∀ eventId, (roster.participants eventId).Nodup ∧
      ∀ most ∈ maximum eventId, (roster.participants eventId).length ≤ most) ∧
    ∀ command next, roster.run maximum command = some next →
      Went roster.game next.game ∧ ∀ row ∈ roster.game.dayEvents, terminal row.state →
        row ∈ next.game.dayEvents ∧ next.participants row.eventId = roster.participants row.eventId := by
  obtain ⟨commands, hrun⟩ := h
  have ok := Steps.foldlM_inv (RosterOk maximum) (fun _ _ _ hstep ok => ok.run hstep) hrun
    ⟨⟨by simp, by simp, by simp⟩, by simp [Roster.participants], by simp [Roster.participants]⟩
  exact ⟨fun eventId => ⟨ok.once eventId, ok.within eventId⟩, fun command next => ok.went⟩

/-- A quiz the host opens, for one at most. -/
def quizCommands : List RosterCommand :=
  [.game (.startGame (.first .day) 0), .game (.scheduleDayEvent ⟨"quiz", .anyRunning, .hostOpened, .hostDecision, 1⟩),
    .game (.openDayEvent "quiz"), .submit "quiz" "a", .game (.lockDayEvent "quiz" 0), .game (.cancelDayEvent "quiz")]

/-- One takes part, and the event is locked and cancelled. -/
theorem dayEvents_lawful_quiz : ∃ roster, quizCommands.foldlM (Roster.run fun _ => some 1) {} = some roster ∧
    roster.game.dayEvents.map (·.state) = [.cancelled] ∧ (roster.participants "quiz").Nodup := by
  have hrun : (quizCommands.foldlM (Roster.run fun _ => some 1) {}).any (fun roster =>
      roster.game.dayEvents.map (·.state) = [.cancelled]) := by decide +kernel
  obtain ⟨roster, hroster, hstates⟩ := (Option.any_eq_true _ _).1 hrun
  exact ⟨roster, hroster, by simpa using hstates,
    ((dayEvents_lawful (fun _ => some 1) roster ⟨quizCommands, hroster⟩).1 "quiz").1⟩

end Fmarch.Commands.DayEvents
