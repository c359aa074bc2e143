import Fmarch.Platform.DaySchedule
import Mathlib.Data.List.Defs

/-!
# Polling a schedule

The scheduler evaluates a day event at the times it wakes and takes what is due. The deadlines of a timed
schedule do not go by the time of observation, so without a window of its own an event opens and locks the
same however often it was looked at before: **`polls_eq_poll`**.
-/

namespace Fmarch.Platform.DaySchedule

open Domain

/-- The state an intent moves an event to. -/
def ScheduleIntent.take (_ : DayEventState) (intent : ScheduleIntent) : DayEventState :=
  match intent.kind with
  | .open => .open
  | .lock => .locked

/-- The context at another time of observation. -/
def ScheduleContext.observed (context : ScheduleContext) (now : Int) : ScheduleContext :=
  { context with observedAt := now }

/-- One observation: every intent found is taken. -/
def poll (event : DayEvent) (context : ScheduleContext) (state : DayEventState) (now : Int) : DayEventState :=
  (evaluate event state (context.observed now)).foldl ScheduleIntent.take state

/-- Observations at one time, until one finds nothing. -/
inductive Settles (event : DayEvent) (context : ScheduleContext) (now : Int) :
    DayEventState → DayEventState → Prop where
  | quiet {state : DayEventState} (h : evaluate event state (context.observed now) = []) :
      Settles event context now state state
  | poll {state final : DayEventState} (h : evaluate event state (context.observed now) ≠ [])
      (rest : Settles event context now (poll event context state now) final) :
      Settles event context now state final

section
variable {event : DayEvent} {context : ScheduleContext} {state : DayEventState} {now later : Int}

/-- The opening has come and its scope admits it. -/
def opens (event : DayEvent) (context : ScheduleContext) : Bool :=
  (openingDue (compile event.schedule).opening context).isSome && phaseScopeAllowsOpen event.phaseScope context

/-- A lock has come. -/
def locks (event : DayEvent) (context : ScheduleContext) : Bool :=
  ((compile event.schedule).lock.bind (lockDue · context)).isSome ||
    (explicitScopeLock event.phaseScope context).isSome

/-- What an observation finds, by what has come. -/
def kinds (opens locks : Bool) : DayEventState → List ScheduleIntentKind
  | .scheduled => if opens then .open :: if locks then [.lock] else [] else []
  | .open => if locks then [.lock] else []
  | _ => []

theorem evaluate_kinds : (evaluate event state context).map (·.kind) =
    kinds (opens event context) (locks event context) state := by
  have hlocks : (earliestLock ((compile event.schedule).lock.bind (lockDue · context))
      (explicitScopeLock event.phaseScope context)).toList.map (·.kind) =
        if locks event context then [.lock] else [] := by
    cases hlock : earliestLock ((compile event.schedule).lock.bind (lockDue · context))
      (explicitScopeLock event.phaseScope context) with
    | none =>
      have hnone : ¬ locks event context := by
        rw [locks, Bool.or_eq_true, ← earliestLock_isSome, hlock]
        simp
      simp [hnone]
    | some lock =>
      have hsome : locks event context := by
        rw [locks, Bool.or_eq_true, ← earliestLock_isSome, hlock]
        rfl
      have hkind : lock.kind = .lock := by
        rcases earliestLock_eq_some hlock with h | h
        · obtain ⟨_, -, h⟩ := Option.bind_eq_some_iff.1 h
          exact kind_lockDue h
        · exact kind_explicitScopeLock h
      simp [hsome, hkind]
  cases state with
  | scheduled =>
    simp only [evaluate]
    cases hopening : (openingDue (compile event.schedule).opening context).filter fun _ =>
        DayEventState.scheduled == .scheduled && phaseScopeAllowsOpen event.phaseScope context with
    | none =>
      have hnone : ¬ opens event context := by
        rw [opens, Bool.and_eq_true, Option.isSome_iff_exists]
        rintro ⟨⟨opening, hdue⟩, hallows⟩
        simp [hdue, hallows] at hopening
      simp [kinds, hnone]
    | some opening =>
      obtain ⟨hdue, hallows⟩ := Option.filter_eq_some_iff.1 hopening
      have hopens : opens event context := by simpa [opens, hdue] using hallows
      simpa [kinds, hopens, kind_openingDue hdue] using hlocks
  | «open» =>
    have hnone : ((openingDue (compile event.schedule).opening context).filter fun _ =>
        DayEventState.open == .scheduled && phaseScopeAllowsOpen event.phaseScope context) = none := by
      simp
    simpa [evaluate, kinds, hnone] using hlocks
  | locked | resolved | cancelled => rw [evaluate_eq_nil (by simp) (by simp), kinds, List.map_nil] <;> simp

/-- The state after an observation, by what has come. -/
def outcome (opens locks : Bool) : DayEventState → DayEventState
  | .scheduled => if opens then if locks then .locked else .open else .scheduled
  | .open => if locks then .locked else .open
  | state => state

theorem poll_eq_outcome : poll event context state now =
    outcome (opens event (context.observed now)) (locks event (context.observed now)) state := by
  have hfold : poll event context state now = ((evaluate event state (context.observed now)).map (·.kind)).foldl
      (fun _ kind => match kind with | .open => .open | .lock => .locked) state := by
    rw [List.foldl_map]
    rfl
  rw [hfold, evaluate_kinds]
  cases state <;> cases opens event (context.observed now) <;> cases locks event (context.observed now) <;> rfl

theorem evaluate_poll : evaluate event (poll event context state now) (context.observed now) = [] := by
  rw [← List.map_eq_nil_iff (f := (·.kind)), evaluate_kinds, poll_eq_outcome]
  cases state <;> cases opens event (context.observed now) <;> cases locks event (context.observed now) <;> rfl

/-! ## Later observations -/

theorem opens_later (htimed : event.schedule.timed)
    (hscope : ∀ opensAt closesAt, event.phaseScope ≠ .explicitWindow opensAt closesAt)
    (hle : now ≤ later) (h : opens event (context.observed now)) : opens event (context.observed later) := by
  have hallows : phaseScopeAllowsOpen event.phaseScope (context.observed later) =
      phaseScopeAllowsOpen event.phaseScope (context.observed now) := by
    cases hwindow : event.phaseScope with
    | explicitWindow opensAt closesAt => exact absurd hwindow (hscope opensAt closesAt)
    | duringDay number => rfl
    | anyRunning => rfl
  have htime : openingDueAt (compile event.schedule).opening (context.observed later) =
      openingDueAt (compile event.schedule).opening (context.observed now) := by
    cases hschedule : event.schedule with
    | absolute openAt lockAt => rfl
    | relativeToPhase phaseId openOffset lockOffset => rfl
    | hostOpened | onTrigger trigger => simp [hschedule, DayEventSchedule.timed] at htimed
  rw [opens, Bool.and_eq_true, openingDue_isSome] at h ⊢
  obtain ⟨⟨dueAt, hdue, hreached⟩, hallowed⟩ := h
  exact ⟨⟨dueAt, htime ▸ hdue, hreached.trans hle⟩, hallows ▸ hallowed⟩

theorem locks_later (hle : now ≤ later) (h : locks event (context.observed now)) :
    locks event (context.observed later) := by
  rw [locks, Bool.or_eq_true] at h ⊢
  refine h.imp (fun hlock => ?_) fun hwindow => ?_
  · cases hschedule : (compile event.schedule).lock with
    | none => simp [hschedule] at hlock
    | some lock =>
      rw [hschedule, Option.bind_some, lockDue_isSome] at hlock
      rw [Option.bind_some, lockDue_isSome]
      obtain ⟨dueAt, hdue, hreached⟩ := hlock
      have htime : lockDueAt lock (context.observed later) = lockDueAt lock (context.observed now) := by
        cases lock <;> rfl
      exact ⟨dueAt, htime ▸ hdue, hreached.trans hle⟩
  · rw [explicitScopeLock_isSome] at hwindow ⊢
    obtain ⟨dueAt, hdue, hreached⟩ := hwindow
    exact ⟨dueAt, hdue, hreached.trans hle⟩

/-- An earlier observation makes no difference. -/
theorem poll_poll (htimed : event.schedule.timed)
    (hscope : ∀ opensAt closesAt, event.phaseScope ≠ .explicitWindow opensAt closesAt) (hle : now ≤ later) :
    poll event context (poll event context state now) later = poll event context state later := by
  have hopens := @opens_later event context now later htimed hscope hle
  have hlocks := @locks_later event context now later hle
  rw [poll_eq_outcome, poll_eq_outcome, poll_eq_outcome]
  revert hopens hlocks
  cases opens event (context.observed now) <;> cases opens event (context.observed later) <;>
    cases locks event (context.observed now) <;> cases locks event (context.observed later) <;>
    cases state <;> simp [outcome]

theorem settles_iff {final : DayEventState} :
    Settles event context now state final ↔ final = poll event context state now := by
  constructor
  · intro h
    induction h with
    | quiet hquiet => rw [poll, hquiet, List.foldl_nil]
    | poll _ _ ih =>
      rw [ih]
      conv_lhs => rw [poll, evaluate_poll, List.foldl_nil]
  · rintro rfl
    by_cases h : evaluate event state (context.observed now) = []
    · rw [poll, h, List.foldl_nil]
      exact .quiet h
    · exact .poll h (.quiet evaluate_poll)

end

/-- Whenever and however often an event is observed up to a time, it is in the end in the state that
observations at that time alone settle in. -/
theorem polls_eq_poll (event : DayEvent) (htimed : event.schedule.timed)
    (hscope : ∀ opensAt closesAt, event.phaseScope ≠ .explicitWindow opensAt closesAt)
    (context : ScheduleContext) (state final : DayEventState) (times : List Int) (now : Int)
    (hincreasing : (times ++ [now]).Pairwise (· ≤ ·)) :
    Settles event context now state final ↔ final = (times ++ [now]).foldl (poll event context) state := by
  rw [settles_iff]
  suffices heq : (times ++ [now]).foldl (poll event context) state = poll event context state now by rw [heq]
  induction times generalizing state with
  | nil => rfl
  | cons time times ih =>
    obtain ⟨hfirst, hrest⟩ := List.pairwise_cons.1 hincreasing
    have hle : time ≤ now := hfirst now (List.mem_append_right _ (List.mem_singleton_self _))
    rw [List.cons_append, List.foldl_cons, ih _ hrest, poll_poll htimed hscope hle]

/-- A day event that opens at ten and locks at twenty. -/
def timedEvent : DayEvent := ⟨"quiz", .anyRunning, .absolute 10 (some 20), .hostDecision, 0⟩

/-- Looked at before it opens, while it is open and after its lock, it is locked in the end. -/
theorem polls_eq_poll_timedEvent : Settles timedEvent ⟨0, .first .day, some 1, {}⟩ 25 .scheduled .locked :=
  (polls_eq_poll timedEvent rfl (fun _ _ => by simp [timedEvent]) ⟨0, .first .day, some 1, {}⟩ .scheduled .locked
    [5, 12] 25 (by decide)).2 (by decide)

end Fmarch.Platform.DaySchedule
