import Fmarch.Lib.Steps
import Fmarch.Platform.Values
import Mathlib.Data.List.Nodup
import Mathlib.Order.MinMax

/-!
# The leases of the day scheduler (`commands::day_scheduler`)

Workers claim a game that is due, observe it, and finish; a claim is a lease that may expire and be claimed
again. The model has the rows of one game, which the statements name, and takes workers to go on from any
claim they were given, at any time they read: nothing holds a stale one back but the guard of the finish.

**`leases_fence`**: a finish changes the row only while its claim is the newest, unfinished and its lease
running, so each attempt finishes once; and what was requested since a claim was read is still pending after
the claim's finish.
-/

namespace Fmarch.Commands.Leases

open Platform Relation

/-! ## The rows -/

/-- The fields of `DayEventSchedulerConfig` that claims and finishes read. -/
structure DayEventSchedulerConfig where
  leaseSeconds : Int
  retryBaseSeconds : Int
  retryMaxSeconds : Int

/-- A row of `day_event_schedule_work`. -/
structure WorkRow where
  nextDueAt : Option Int
  wakeSeq : Int
  autoResolvePending : Bool
  narrativePending : Bool
  deriving DecidableEq

/-- A row of `day_event_scheduler_state`, as it is inserted. -/
structure SchedulerRow where
  lastObservedWakeSeq : Int := 0
  leaseOwner : Option Uuid := none
  leaseUntil : Option Int := none
  retryNotBefore : Option Int := none
  lastAttemptAt : Option Int := none
  lastSuccessAt : Option Int := none
  lastFailureAt : Option Int := none
  consecutiveFailures : Int := 0
  totalAttempts : Int := 0
  totalSuccesses : Int := 0
  lastError : Option String := none
  deriving DecidableEq

structure ClaimedGame where
  wakeSeq : Int
  consecutiveFailures : Int
  attempt : Int
  deriving DecidableEq

/-! ## The statements -/

/-- The row `refresh_day_event_schedule_work` writes for the event at `updatedSeq`. -/
def refreshDayEventScheduleWork (before : Option WorkRow) (nextDueAt : Option Int)
    (autoResolvePending narrativePending : Bool) (updatedSeq : Int) (advanceWake : Bool) : WorkRow :=
  { nextDueAt, autoResolvePending, narrativePending
    wakeSeq := if advanceWake then updatedSeq else (before.map (·.wakeSeq)).getD 0 }

/-- The game has work at a time. -/
def pending (work : WorkRow) (row : SchedulerRow) (observedAt : Int) : Bool :=
  work.nextDueAt.any (· ≤ observedAt) || row.lastObservedWakeSeq < work.wakeSeq ||
    work.autoResolvePending || work.narrativePending

/-- The game is among the `candidates` of a claim. -/
def candidate (work : WorkRow) (row : SchedulerRow) (observedAt : Int) : Bool :=
  pending work row observedAt && row.leaseUntil.all (· ≤ observedAt) && row.retryNotBefore.all (· ≤ observedAt)

/-- `claim_due_game`, where it picks the game. -/
def claimDueGame (config : DayEventSchedulerConfig) (workerId : Uuid) (observedAt : Int) (work : WorkRow)
    (row : SchedulerRow) : Option (SchedulerRow × ClaimedGame) := do
  let leaseUntil ← checkedAdd observedAt config.leaseSeconds
  let attempt ← checkedAdd row.totalAttempts 1
  if candidate work row observedAt then
    some ({ row with
      leaseOwner := some workerId, leaseUntil := some leaseUntil, lastAttemptAt := some observedAt
      totalAttempts := attempt }, ⟨work.wakeSeq, row.consecutiveFailures, attempt⟩)
  else none

/-- The `WHERE` of the two finishes: the worker holds the lease of that attempt. -/
def Holds (row : SchedulerRow) (workerId : Uuid) (claim : ClaimedGame) (observedAt : Int) : Prop :=
  row.leaseOwner = some workerId ∧ row.totalAttempts = claim.attempt ∧ ∃ leaseUntil ∈ row.leaseUntil, observedAt < leaseUntil

instance {row : SchedulerRow} {workerId : Uuid} {claim : ClaimedGame} {observedAt : Int} :
    Decidable (Holds row workerId claim observedAt) := inferInstanceAs (Decidable (_ ∧ _ ∧ _))

/-- `finish_success`; without a row the lease is lost. -/
def finishSuccess (workerId : Uuid) (claim : ClaimedGame) (observedAt : Int) (row : SchedulerRow) :
    Option SchedulerRow :=
  if Holds row workerId claim observedAt then
    some { row with
      lastObservedWakeSeq := max row.lastObservedWakeSeq claim.wakeSeq
      leaseOwner := none, leaseUntil := none, retryNotBefore := none, lastSuccessAt := some observedAt
      consecutiveFailures := 0, totalSuccesses := row.totalSuccesses + 1, lastError := none }
  else none

/-- `retry_delay_seconds`. -/
def retryDelaySeconds (config : DayEventSchedulerConfig) (failures : Int) : Int :=
  let exponent := (min (failures - 1) 30).toNat
  min (max (-2 ^ 63) (min (config.retryBaseSeconds * 2 ^ exponent) (2 ^ 63 - 1))) config.retryMaxSeconds

/-- `finish_failure`; without a row the lease is lost, or the time of the retry no timestamp. -/
def finishFailure (config : DayEventSchedulerConfig) (workerId : Uuid) (claim : ClaimedGame)
    (observedAt : Int) (error : String) (row : SchedulerRow) : Option SchedulerRow := do
  let failures := min (claim.consecutiveFailures + 1) (2 ^ 31 - 1)
  let retryNotBefore ← checkedAdd observedAt (retryDelaySeconds config failures)
  if Holds row workerId claim observedAt then
    some { row with
      leaseOwner := none, leaseUntil := none, retryNotBefore := some retryNotBefore
      lastFailureAt := some observedAt, consecutiveFailures := failures
      lastError := some (.ofList (error.toList.take 1000)) }
  else none

/-- How a claim ends. -/
inductive Outcome where
  | success
  | failure (error : String)

/-- The finish of an outcome. -/
def finish (config : DayEventSchedulerConfig) (workerId : Uuid) (claim : ClaimedGame) (observedAt : Int) :
    Outcome → SchedulerRow → Option SchedulerRow
  | .success => finishSuccess workerId claim observedAt
  | .failure error => finishFailure config workerId claim observedAt error

/-! ## Workers -/

/-- The rows of a game, the claims handed out and those finished. The versions of the work row are kept,
newest first: a claim reads it in its snapshot, without a lock. -/
structure Scheduler where
  seq : Int := 0
  works : List WorkRow := []
  row : SchedulerRow := {}
  claims : List (Uuid × ClaimedGame) := []
  finished : List (ClaimedGame × Outcome) := []

/-- An event refreshes the work row. -/
def Scheduler.refresh (s : Scheduler) (seq : Int) (nextDueAt : Option Int)
    (autoResolvePending narrativePending advanceWake : Bool) : Scheduler :=
  { s with
    seq
    works := refreshDayEventScheduleWork s.works.head? nextDueAt autoResolvePending narrativePending seq
      advanceWake :: s.works }

variable {config : DayEventSchedulerConfig} {s s' : Scheduler}

/-- One transaction: an event refreshes the work row, a worker claims the game, or one finishes. -/
inductive Step (config : DayEventSchedulerConfig) (s : Scheduler) : Scheduler → Prop where
  | refresh (seq : Int) (later : s.seq < seq) (nextDueAt : Option Int)
      (autoResolvePending narrativePending advanceWake : Bool) :
      Step config s (s.refresh seq nextDueAt autoResolvePending narrativePending advanceWake)
  | claim {work : WorkRow} {row : SchedulerRow} {claim : ClaimedGame} (workerId : Uuid) (observedAt : Int)
      (seen : work ∈ s.works) (claimed : claimDueGame config workerId observedAt work s.row = some (row, claim)) :
      Step config s { s with row, claims := (workerId, claim) :: s.claims }
  | finish {workerId : Uuid} {claim : ClaimedGame} {row : SchedulerRow} (observedAt : Int) (outcome : Outcome)
      (given : (workerId, claim) ∈ s.claims)
      (finished : finish config workerId claim observedAt outcome s.row = some row) :
      Step config s { s with row, finished := (claim, outcome) :: s.finished }

/-- What workers and events can reach from before the game's first event. -/
abbrev Reachable (config : DayEventSchedulerConfig) (s : Scheduler) : Prop := ReflTransGen (Step config) {} s

/-! ## What the statements do -/

section
variable {workerId : Uuid} {observedAt : Int} {work : WorkRow} {row row' : SchedulerRow} {claim : ClaimedGame}
  {outcome : Outcome}

theorem claimDueGame_spec (h : claimDueGame config workerId observedAt work row = some (row', claim)) :
    claim.wakeSeq = work.wakeSeq ∧ claim.attempt = row.totalAttempts + 1 ∧
      row'.totalAttempts = claim.attempt ∧ row'.leaseOwner = some workerId ∧
      row'.lastObservedWakeSeq = row.lastObservedWakeSeq := by
  obtain ⟨leaseUntil, -, h⟩ := Option.bind_eq_some_iff.1 h
  obtain ⟨attempt, hattempt, h⟩ := Option.bind_eq_some_iff.1 h
  obtain ⟨-, h⟩ := Option.ite_none_right_eq_some.1 h
  obtain ⟨rfl, rfl⟩ := Prod.mk.inj (Option.some.inj h)
  exact ⟨rfl, (checkedAdd_eq_some.1 hattempt).2, rfl, rfl, rfl⟩

theorem finish_spec (h : finish config workerId claim observedAt outcome row = some row') :
    Holds row workerId claim observedAt ∧ row'.leaseOwner = none ∧ row'.totalAttempts = row.totalAttempts ∧
      (row'.lastObservedWakeSeq = row.lastObservedWakeSeq ∨
        outcome = .success ∧ row'.lastObservedWakeSeq = claim.wakeSeq) := by
  cases outcome with
  | success =>
    obtain ⟨hholds, h⟩ := Option.ite_none_right_eq_some.1 h
    obtain rfl := Option.some.inj h
    refine ⟨hholds, rfl, rfl, ?_⟩
    rcases max_choice row.lastObservedWakeSeq claim.wakeSeq with hmax | hmax
    · exact .inl hmax
    · exact .inr ⟨rfl, hmax⟩
  | failure error =>
    obtain ⟨_, -, h⟩ := Option.bind_eq_some_iff.1 h
    obtain ⟨hholds, h⟩ := Option.ite_none_right_eq_some.1 h
    obtain rfl := Option.some.inj h
    exact ⟨hholds, rfl, rfl, .inl rfl⟩

end

/-! ## Fencing -/

/-- What holds in every state reached. -/
structure Fenced (s : Scheduler) : Prop where
  started : 0 ≤ s.seq
  wakes : ∀ work ∈ s.works, work.wakeSeq ≤ s.seq
  read : ∀ given ∈ s.claims, given.2.wakeSeq ≤ s.seq
  counted : ∀ given ∈ s.claims, given.2.attempt ≤ s.row.totalAttempts
  attempts : (s.claims.map (·.2.attempt)).Nodup
  given : ∀ claimed ∈ s.finished, ∃ workerId, (workerId, claimed.1) ∈ s.claims
  once : (s.finished.map (·.1.attempt)).Nodup
  leased : ∀ owner ∈ s.row.leaseOwner, ∀ claimed ∈ s.finished, claimed.1.attempt < s.row.totalAttempts
  observed : s.row.lastObservedWakeSeq = 0 ∨
    ∃ claim, (claim, .success) ∈ s.finished ∧ s.row.lastObservedWakeSeq = claim.wakeSeq

theorem Fenced.step (h : Fenced s) (hstep : Step config s s') : Fenced s' := by
  cases hstep with
  | refresh seq later nextDueAt autoResolvePending narrativePending advanceWake =>
    have hbefore : ∀ work ∈ s.works, work.wakeSeq ≤ seq := fun work hwork => (h.wakes work hwork).trans later.le
    refine { h with
      started := h.started.trans later.le
      read := fun given hgiven => (h.read given hgiven).trans later.le
      wakes := List.forall_mem_cons.2 ⟨?_, hbefore⟩ }
    cases advanceWake with
    | true => exact le_rfl
    | false =>
      cases hhead : s.works.head? with
      | none => exact h.started.trans later.le
      | some work => exact hbefore work (List.mem_of_mem_head? hhead)
  | @claim work row claim workerId observedAt seen claimed =>
    obtain ⟨hwake, hattempt, htotal, -, hobserved⟩ := claimDueGame_spec claimed
    have hnew : ∀ given ∈ s.claims, given.2.attempt < claim.attempt := by
      intro given hgiven
      have := h.counted given hgiven
      omega
    refine { h with
      read := List.forall_mem_cons.2 ⟨hwake ▸ h.wakes work seen, h.read⟩
      counted := List.forall_mem_cons.2 ⟨htotal.ge, fun given hgiven => htotal ▸ (hnew given hgiven).le⟩
      attempts := List.nodup_cons.2 ⟨?_, h.attempts⟩
      given := fun claimed hclaimed => (h.given claimed hclaimed).imp fun _ => List.mem_cons_of_mem _
      leased := fun _ _ claimed hclaimed => ?_
      observed := hobserved ▸ h.observed }
    · intro hmem
      obtain ⟨given, hgiven, heq⟩ := List.mem_map.1 hmem
      exact absurd heq (hnew given hgiven).ne
    · obtain ⟨worker, hgiven⟩ := h.given claimed hclaimed
      exact htotal ▸ hnew _ hgiven
  | @finish workerId claim row observedAt outcome given finished =>
    obtain ⟨⟨howner, hattempt, -⟩, hfree, htotal, hobserved⟩ := finish_spec finished
    refine { h with
      counted := htotal ▸ h.counted
      given := List.forall_mem_cons.2 ⟨⟨workerId, given⟩, h.given⟩
      once := List.nodup_cons.2 ⟨?_, h.once⟩
      leased := fun owner howner => absurd (hfree.symm.trans howner) (by simp)
      observed := ?_ }
    · intro hmem
      obtain ⟨claimed, hclaimed, heq⟩ := List.mem_map.1 hmem
      have hless := h.leased workerId howner claimed hclaimed
      rw [hattempt] at hless
      exact hless.ne heq
    · rcases hobserved with hsame | ⟨rfl, hobserved⟩
      · rcases h.observed with hzero | ⟨before, hbefore, heq⟩
        · exact .inl (hsame.trans hzero)
        · exact .inr ⟨before, List.mem_cons_of_mem _ hbefore, hsame.trans heq⟩
      · exact .inr ⟨claim, List.mem_cons_self, hobserved⟩

theorem Fenced.run (h : Fenced s) (hrun : ReflTransGen (Step config) s s') : Fenced s' :=
  Steps.preserved Fenced (fun _ _ hstep h => h.step hstep) hrun h

theorem Reachable.fenced (h : Reachable config s) : Fenced s := by
  refine Fenced.run ⟨le_rfl, ?_, ?_, ?_, ?_, ?_, ?_, ?_, .inl rfl⟩ h <;> simp

theorem Fenced.holds (h : Fenced s) {workerId : Uuid} {claim : ClaimedGame} {observedAt : Int}
    (hholds : Holds s.row workerId claim observedAt) :
    (∀ claimed ∈ s.finished, claimed.1 ≠ claim) ∧ ∀ given ∈ s.claims, given.2.attempt ≤ claim.attempt := by
  obtain ⟨howner, hattempt, -⟩ := hholds
  refine ⟨?_, fun given hgiven => hattempt ▸ h.counted given hgiven⟩
  rintro claimed hclaimed rfl
  exact (h.leased workerId howner claimed hclaimed).ne hattempt.symm

/-! ## Wakes -/

/-- The work row asks for an observation at least as late as an event. -/
def Asked (seq : Int) (s : Scheduler) : Prop := seq ≤ s.seq ∧ ∃ work ∈ s.works.head?, seq ≤ work.wakeSeq

theorem Asked.step {seq : Int} (h : Asked seq s) (hstep : Step config s s') : Asked seq s' := by
  obtain ⟨hseq, work, hwork, hle⟩ := h
  cases hstep with
  | refresh later later_lt nextDueAt autoResolvePending narrativePending advanceWake =>
    refine ⟨hseq.trans later_lt.le, _, rfl, ?_⟩
    cases advanceWake with
    | true => exact hseq.trans later_lt.le
    | false =>
      rw [refreshDayEventScheduleWork, Option.mem_def.1 hwork]
      exact hle
  | claim | finish => exact ⟨hseq, work, hwork, hle⟩

/-- What is asked for is pending until a claim that read it has succeeded. -/
theorem Asked.pending_or {seq : Int} (h : Asked seq s) (hpos : 0 < seq) (hfenced : Fenced s) :
    (∃ work ∈ s.works.head?, ∀ now, pending work s.row now) ∨
      ∃ claim, (claim, .success) ∈ s.finished ∧ seq ≤ claim.wakeSeq := by
  obtain ⟨-, work, hwork, hle⟩ := h
  by_cases hseen : s.row.lastObservedWakeSeq < seq
  · exact .inl ⟨work, hwork, fun now => by simp [pending, hseen.trans_le hle]⟩
  · rcases hfenced.observed with hzero | ⟨claim, hclaim, heq⟩
    · omega
    · exact .inr ⟨claim, hclaim, by omega⟩

/-- However claims, finishes, expiries and events interleave: a finish takes effect only for the worker
that holds the lease of that attempt, which is the newest and not finished before; no attempt finishes
twice; and what an event asked for is pending until a claim made after the event has succeeded. -/
theorem leases_fence (config : DayEventSchedulerConfig) (s : Scheduler) (h : Reachable config s) :
    (∀ workerId claim observedAt outcome row,
      finish config workerId claim observedAt outcome s.row = some row →
        Holds s.row workerId claim observedAt ∧ (∀ claimed ∈ s.finished, claimed.1 ≠ claim) ∧
          ∀ given ∈ s.claims, given.2.attempt ≤ claim.attempt) ∧
    (s.finished.map (·.1.attempt)).Nodup ∧
    ∀ seq, s.seq < seq → ∀ nextDueAt autoResolvePending narrativePending after,
      ReflTransGen (Step config) (s.refresh seq nextDueAt autoResolvePending narrativePending true) after →
        (∃ work ∈ after.works.head?, ∀ now, pending work after.row now) ∨
          ∃ claim, (claim, .success) ∈ after.finished ∧ seq ≤ claim.wakeSeq ∧
            ∀ given ∈ s.claims, given.2 ≠ claim := by
  have hfenced := h.fenced
  refine ⟨?_, hfenced.once, ?_⟩
  · intro workerId claim observedAt outcome row hfinish
    exact ⟨(finish_spec hfinish).1, hfenced.holds (finish_spec hfinish).1⟩
  · intro seq hlater nextDueAt autoResolvePending narrativePending after hrun
    have hwoken := hfenced.step
      (@Step.refresh config s seq hlater nextDueAt autoResolvePending narrativePending true)
    have hasked := Steps.preserved (Asked seq) (fun _ _ hstep hasked => hasked.step hstep) hrun
      ⟨le_rfl, _, rfl, le_rfl⟩
    refine (hasked.pending_or (hfenced.started.trans_lt hlater) (hwoken.run hrun)).imp_right ?_
    rintro ⟨claim, hclaim, hread⟩
    refine ⟨claim, hclaim, hread, ?_⟩
    rintro given hgiven rfl
    have hbefore := hfenced.read given hgiven
    omega

/-- The game started, and a worker holds its first claim. -/
def leased : Scheduler :=
  { seq := 1
    works := [⟨none, 1, false, false⟩]
    row := { leaseOwner := some 7, leaseUntil := some 40, lastAttemptAt := some 10, totalAttempts := 1 }
    claims := [(7, ⟨1, 0, 1⟩)] }

theorem reachable_leased : Reachable ⟨30, 1, 60⟩ leased := by
  refine .tail (.single (Step.refresh 1 (by decide) none false false true)) ?_
  exact @Step.claim _ _ ⟨none, 1, false, false⟩ _ _ 7 10 (by decide) (by decide)

/-- A phase advances while the claim is held; the claim then succeeds, and the game is pending again. -/
theorem leases_fence_leased : let woken := leased.refresh 2 none false false true
    let after : Scheduler := { woken with
      row := { lastObservedWakeSeq := 1, lastAttemptAt := some 10, lastSuccessAt := some 12, totalAttempts := 1
               totalSuccesses := 1 }
      finished := [(⟨1, 0, 1⟩, .success)] }
    (∃ work ∈ after.works.head?, ∀ now, pending work after.row now) ∨
      ∃ claim, (claim, .success) ∈ after.finished ∧ 2 ≤ claim.wakeSeq ∧
        ∀ given ∈ leased.claims, given.2 ≠ claim :=
  (leases_fence ⟨30, 1, 60⟩ leased reachable_leased).2.2 2 (by decide) none false false _
    (.single (@Step.finish _ _ 7 _ _ 12 .success (by decide) (by decide)))

/-! ## Counters -/

def Outcome.failed : Outcome → Bool
  | .success => false
  | .failure _ => true

/-- The counters of the row; the claim that holds the lease has read the failures before it. -/
structure Counted (s : Scheduler) : Prop where
  attempts : s.row.totalAttempts = s.claims.length
  successes : s.row.totalSuccesses = s.finished.countP (!·.2.failed)
  failures : s.row.consecutiveFailures = min (s.finished.takeWhile (·.2.failed)).length (2 ^ 31 - 1)
  held : ∀ owner ∈ s.row.leaseOwner, ∀ given ∈ s.claims, given.2.attempt = s.row.totalAttempts →
    given.2.consecutiveFailures = s.row.consecutiveFailures

theorem Counted.step (h : Counted s) (hfenced : Fenced s) (hstep : Step config s s') : Counted s' := by
  cases hstep with
  | refresh => exact ⟨h.attempts, h.successes, h.failures, h.held⟩
  | @claim work row claim workerId observedAt seen claimed =>
    obtain ⟨leaseUntil, -, hclaimed⟩ := Option.bind_eq_some_iff.1 claimed
    obtain ⟨attempt, hattempt, hclaimed⟩ := Option.bind_eq_some_iff.1 hclaimed
    obtain ⟨-, hclaimed⟩ := Option.ite_none_right_eq_some.1 hclaimed
    obtain ⟨rfl, rfl⟩ := Prod.mk.inj (Option.some.inj hclaimed)
    obtain rfl := (checkedAdd_eq_some.1 hattempt).2
    refine ⟨by simp [h.attempts], h.successes, h.failures, fun _ _ => List.forall_mem_cons.2 ⟨fun _ => rfl, ?_⟩⟩
    intro given hgiven hnewest
    have := hfenced.counted given hgiven
    dsimp only at hnewest
    omega
  | @finish workerId claim row observedAt outcome given finished =>
    have hread := h.held workerId (finish_spec finished).1.1 _ given (finish_spec finished).1.2.1.symm
    cases outcome with
    | success =>
      obtain ⟨-, hfinished⟩ := Option.ite_none_right_eq_some.1 finished
      obtain rfl := Option.some.inj hfinished
      exact ⟨h.attempts, by simp [h.successes, Outcome.failed], rfl, by simp⟩
    | failure error =>
      obtain ⟨_, -, hfinished⟩ := Option.bind_eq_some_iff.1 finished
      obtain ⟨-, hfinished⟩ := Option.ite_none_right_eq_some.1 hfinished
      obtain rfl := Option.some.inj hfinished
      refine ⟨h.attempts, by simp [h.successes, Outcome.failed], ?_, by simp⟩
      have hfailures := h.failures
      dsimp only at hread ⊢
      rw [List.takeWhile_cons_of_pos rfl, List.length_cons]
      omega

/-- In every state reached the row counts the claims, the finishes that succeeded and, up to `i32::MAX`, the
failures since the last of them. -/
theorem counters_told (config : DayEventSchedulerConfig) (s : Scheduler) (h : Reachable config s) :
    s.row.totalAttempts = s.claims.length ∧ s.row.totalSuccesses = s.finished.countP (!·.2.failed) ∧
      s.row.consecutiveFailures = min (s.finished.takeWhile (·.2.failed)).length (2 ^ 31 - 1) := by
  have hstart : Counted {} := ⟨rfl, rfl, rfl, by simp⟩
  obtain ⟨-, hcounted⟩ := Steps.preserved (fun s => Fenced s ∧ Counted s)
    (fun _ _ hstep h => ⟨h.1.step hstep, h.2.step h.1 hstep⟩) h ⟨@Reachable.fenced config _ .refl, hstart⟩
  exact ⟨hcounted.attempts, hcounted.successes, hcounted.failures⟩

theorem counters_told_leased : leased.row.totalAttempts = 1 := (counters_told ⟨30, 1, 60⟩ leased reachable_leased).1

end Fmarch.Commands.Leases
