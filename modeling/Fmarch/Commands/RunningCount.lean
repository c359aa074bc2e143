import Fmarch.Projections.SlotRows
import Fmarch.Resolver.Ballots
import Fmarch.Resolver.Shape

/-!
# The running votecount (`vote_ballot`)

While a day goes on, the players are shown the ballots of a table that votes and withdrawals write, and
from which a slot's death deletes the ballots it cast and those cast for it. The day's resolution does not
read the table: it counts again, from all the submissions of the day, by who is alive then. It takes a
voter's last ballot that may be counted, so a ballot cast before the one that a death deleted counts again.

**`running_count_agrees_iff`**: in every run whose steps are careful (`Careful`), and as long as the hammer
has not fallen, the table is what the resolution run at that moment would count exactly if the day's
actions before the vote leave every standing ballot standing (`Undisturbed`). A slot that dies with
somebody's second ballot on it is enough for it not to be (`deadSecond_disagrees`).

The stream is the whole one; the engine's snapshot and submissions are those of the events since the last
official resolution, which are all the events of a day that is not resolved. Checks that can only refuse a
vote are left out.
-/

namespace Fmarch.Commands.RunningCount

open Domain Keyed StableSort Fallible Steps Resolver ActionSubmission
open Projections hiding SlotId

variable {F : Type}

section Definitions

variable [Float64 F]

/-! ## Votes -/

inductive VoteTarget where
  | noLynch
  | slot (slotId : SlotId)

/-- What the commands read of the slots. -/
def rowsView (pack : Pack F) (rows : GameRows F) : View F :=
  { packName := "", pack, slots := rows.slotState }

def validateVotePolicyTarget (policy : VotePolicy F) (actorSlot : SlotId) :
    VoteTarget → Except ActionSubmission.Reject Unit
  | .noLynch => if policy.noLynchAllowed then .ok () else .error .invalidTarget
  | .slot target =>
    if target = actorSlot ∧ ¬ policy.selfVoteAllowed then .error .invalidTarget else .ok ()

def validateTarget (pack : Pack F) (rows : GameRows F) : VoteTarget → Except ActionSubmission.Reject String
  | .noLynch => .ok noLynchTarget
  | .slot target =>
    match slotAlive (rowsView pack rows) target with
    | some true => .ok target
    | _ => .error .invalidTarget

/-- `submit_vote`, in an open phase. -/
def submitVote (pack : Pack F) (rows : GameRows F) (phaseId : PhaseId) (actorSlot : SlotId)
    (target : VoteTarget) : Except ActionSubmission.Reject Event := do
  requireSlotAlive (rowsView pack rows) actorSlot
  validateVotePolicyTarget pack.vote actorSlot target
  let target ← validateTarget pack rows target
  return .voteSubmitted actorSlot target phaseId

/-- `withdraw_vote`, in an open phase. -/
def withdrawVote (pack : Pack F) (rows : GameRows F) (phaseId : PhaseId) (actorSlot : SlotId) :
    Except ActionSubmission.Reject Event := do
  requireSlotAlive (rowsView pack rows) actorSlot
  return .voteWithdrawn actorSlot phaseId

/-- A vote is in the stream because its command accepted it. -/
def Accepted (pack : Pack F) (before : List (GameEvent F)) : GameEvent F → Prop
  | .submission (.voteSubmitted actor target phaseId) =>
    ∃ voteTarget, submitVote pack (gameRows before) phaseId actor voteTarget =
      .ok (.voteSubmitted actor target phaseId)
  | .submission (.voteWithdrawn actor phaseId) =>
    withdrawVote pack (gameRows before) phaseId actor = .ok (.voteWithdrawn actor phaseId)
  | _ => True

/-! ## The two counts -/

/-- What `current_submissions` reads of an event. -/
def submissionEvent : GameEvent F → Event
  | .submission event => event
  | _ => .other

/-- The stream as it is stored. -/
def stored (stream : List (GameEvent F)) : List StoredEvent :=
  stream.zipIdx.map fun (event, index) =>
    { streamSeq := index + 1, event := submissionEvent event }

/-- The row of a voter in a phase. -/
def ballotRow? (rows : GameRows F) (phaseId : PhaseId) (voter : SlotId) : Option String :=
  (rows.voteBallot.find? fun row =>
    decide ((row.phaseId, row.actorSlot) = (phaseId, voter))).map (·.target)

/-- The input of the day's resolution after a stream; seed, run and the like are those of `base`. -/
def dayInput (base : ResolutionInput F) (phaseId : PhaseId) (stream : List (GameEvent F))
    (state : StateSnapshot F) : ResolutionInput F :=
  { base with phaseId, state, submissions := currentSubmissions (stored stream) phaseId }

/-- The state the vote is held in. -/
def voteState (input : ResolutionInput F) : StateSnapshot F :=
  applyEvents input.state (dayBeforeVote input)

/-- The duel the vote is held under. -/
def voteDuel (input : ResolutionInput F) : VoteDuel :=
  (resolveVoteDuelAction input (voteState input)).1

/-- The ballots of the outcome `resolve_day_vote` records. -/
def countedBallots (input : ResolutionInput F) : BTreeMap SlotId SlotId :=
  (voteLynch input (resolveBadgeActions input).1 (dayBeforeVote input)).1.votes

/-- The day is decided by hammer. -/
def Hammered (input : ResolutionInput F) : Prop :=
  hammered input (voteState input) (resolveBadgeActions input).1 (voteDuel input) = true

/-- The table is what the resolution would count. -/
def Agrees (rows : GameRows F) (input : ResolutionInput F) : Prop :=
  ∀ voter, ballotRow? rows input.phaseId voter = (countedBallots input)[voter]?

/-! ## When they agree -/

/-- The day votes among the submissions of a phase. -/
def voteSubs (phaseId : PhaseId) (stream : List (GameEvent F)) : List Submission :=
  (currentSubmissions (stored stream) phaseId).filter (·.templateId == "day_vote")

/-- The last of a voter's submissions. -/
def lastOwn (voter : SlotId) (subs : List Submission) : Option Submission :=
  (subs.filter (·.actor == voter)).getLast?

/-- The voter's ballot stands in the table. -/
def Standing (rows : GameRows F) (phaseId : PhaseId) (voter : SlotId) (target : String) : Prop :=
  ⟨phaseId, voter, target⟩ ∈ rows.voteBallot

/-- The slots whose ballots an event deletes. -/
def dying : GameEvent F → List SlotId
  | .slotStatusChanged slotId status => if status = .alive then [] else [slotId]
  | .resolutionApplied events => killedSlots events
  | _ => []

/-- What an event leaves of the ballots since the last withdrawals: who loses a standing ballot to a death
has no other that may still be counted, and a slot that comes to life finds none of its own that may be,
and none on itself but of voters whose ballot stands. -/
structure Careful (policy : VotePolicy F) (phaseId : PhaseId) (before : List (GameEvent F))
    (state next : StateSnapshot F) (event : GameEvent F) : Prop where
  deaths : ∀ voter target, Standing (gameRows before) phaseId voter target →
    target ∈ dying event → Living next voter →
      ∀ other ∈ ballotsSince voter (voteSubs phaseId before), ¬ Votable policy next other
  revived : ∀ slot, Living next slot → ¬ Living state slot →
    ∀ target ∈ ballotsSince slot (voteSubs phaseId before), ¬ Votable policy next target
  named : ∀ slot, Living next slot → ¬ Living state slot → ∀ voter,
    (∀ target, ¬ Standing (gameRows before) phaseId voter target) →
      slot ∉ ballotsSince voter (voteSubs phaseId before)

/-- No action is submitted as a day vote, and none withdraws the vote whose ballot stands. -/
def KeepsVotes (phaseId : PhaseId) (before : List (GameEvent F)) : GameEvent F → Prop
  | .submission (.actionSubmitted payload) =>
    payload.phaseId = phaseId → payload.instantResolved = false → payload.templateId ≠ "day_vote"
  | .submission (.actionWithdrawn payload) =>
    payload.phaseId = phaseId → ∀ sub, lastOwn payload.actor (voteSubs phaseId before) = some sub →
      payload.names sub = true → ∀ target, ¬ Standing (gameRows before) phaseId payload.actor target
  | _ => True

/-- A careful step: about the game's slots, and careful of the votes. -/
structure CarefulStep (pack : Pack F) (phaseId : PhaseId) (before : List (GameEvent F))
    (event : GameEvent F) : Prop where
  fits : ∀ state ∈ currentSnapshot pack phaseId before, FitsSlots pack state event
  keepsVotes : KeepsVotes phaseId before event
  careful : ∀ state ∈ currentSnapshot pack phaseId before, ∀ next ∈ snapshotStep pack state event,
      Careful pack.vote phaseId before state next event

/-- The day's actions before the vote leave every standing ballot standing. -/
def Undisturbed (rows : GameRows F) (input : ResolutionInput F) : Prop :=
  ∀ voter target, Standing rows input.phaseId voter target →
    Living (voteState input) voter ∧ Votable input.pack.document.vote (voteState input) target ∧
      duelAllows (voteDuel input) target = true

end Definitions

/-! ## The submissions of a longer stream -/

section Submissions

variable {phaseId : PhaseId} {stream : List (GameEvent F)} {event : GameEvent F}

theorem stored_concat : stored (stream ++ [event]) =
    stored stream ++ [{ streamSeq := stream.length + 1, event := submissionEvent event }] := by
  unfold stored
  rw [List.zipIdx_append, List.map_append]
  simp

theorem currentSubmissions_concat : currentSubmissions (stored (stream ++ [event])) phaseId =
    submissionStep phaseId (currentSubmissions (stored stream) phaseId)
      { streamSeq := stream.length + 1, event := submissionEvent event } := by
  rw [stored_concat, currentSubmissions, List.foldl_append]
  rfl

/-- A submission marked by a withdrawal. -/
def mark (payload : ActionWithdrawn) (submission : Submission) : Submission :=
  if payload.names submission then { submission with withdrawn := true } else submission

theorem voteSubs_concat (keeps : KeepsVotes phaseId stream event) : voteSubs phaseId (stream ++ [event]) =
      match submissionEvent event with
      | .voteSubmitted actor target votePhase =>
        if votePhase = phaseId then
          voteSubs phaseId stream ++
            [{ actionId := "vote:" ++ toString (stream.length + 1) ++ ":" ++ actor, actor
               templateId := "day_vote", targets := [target], phaseId
               submittedAt := stream.length + 1 }]
        else voteSubs phaseId stream
      | .voteWithdrawn actor votePhase =>
        if votePhase = phaseId then
          voteSubs phaseId stream ++
            [{ actionId := "vote:" ++ toString (stream.length + 1) ++ ":" ++ actor, actor
               templateId := "day_vote", phaseId, submittedAt := stream.length + 1
               withdrawn := true }]
        else voteSubs phaseId stream
      | .actionWithdrawn payload =>
        if payload.phaseId = phaseId then (voteSubs phaseId stream).map (mark payload)
        else voteSubs phaseId stream
      | _ => voteSubs phaseId stream := by
  unfold voteSubs
  rw [currentSubmissions_concat]
  unfold submissionStep
  cases event with
  | submission event =>
    cases event with
    | voteSubmitted actor target votePhase | voteWithdrawn actor votePhase =>
      simp only [submissionEvent]
      split
      · rw [List.filter_append, List.filter_cons_of_pos (by simp)]
        simp
      · rfl
    | actionSubmitted payload =>
      simp only [submissionEvent]
      split
      · rename_i hphase
        have htemplate : payload.templateId ≠ "day_vote" := keeps hphase.1 hphase.2
        rw [List.filter_append, List.filter_cons_of_neg (by simpa using htemplate)]
        simp
      · rfl
    | actionWithdrawn payload =>
      simp only [submissionEvent]
      split
      · have hmark : (fun submission : Submission =>
            if payload.names submission then { submission with withdrawn := true }
            else submission) = mark payload := rfl
        rw [hmark, List.filter_map]
        congr 1
        refine List.filter_congr fun submission _ => ?_
        unfold mark
        rw [Function.comp_apply]
        split <;> rfl
      · rfl
    | other => rfl
  | _ => rfl

/-- The submissions are in the order of the stream, which is that of the count. -/
theorem submissions_sorted (stream : List (GameEvent F)) (phaseId : PhaseId) :
    (currentSubmissions (stored stream) phaseId).Pairwise (fun a b => a.submittedAt < b.submittedAt) ∧
      ∀ submission ∈ currentSubmissions (stored stream) phaseId, submission.submittedAt ≤ stream.length := by
  induction stream using List.reverseRecOn with
  | nil => exact ⟨.nil, by simp [currentSubmissions, stored]⟩
  | append_singleton stream event ih =>
    rw [currentSubmissions_concat, List.length_append]
    obtain ⟨hsorted, hle⟩ := ih
    have hnew {submission : Submission} (hat : submission.submittedAt = stream.length + 1) :
        (currentSubmissions (stored stream) phaseId ++ [submission]).Pairwise
            (fun a b => a.submittedAt < b.submittedAt) ∧
          ∀ other ∈ currentSubmissions (stored stream) phaseId ++ [submission],
            other.submittedAt ≤ stream.length + [event].length := by
      constructor
      · refine List.pairwise_append.2 ⟨hsorted, by simp, fun a ha b hb => ?_⟩
        rw [List.mem_singleton.1 hb, hat]
        exact Nat.lt_succ_of_le (hle a ha)
      · intro other hother
        rcases List.mem_append.1 hother with hbefore | hlast
        · exact (hle other hbefore).trans (Nat.le_add_right ..)
        · rw [List.mem_singleton.1 hlast, hat]
          exact Nat.le_refl _
    have hsame : (currentSubmissions (stored stream) phaseId).Pairwise
          (fun a b => a.submittedAt < b.submittedAt) ∧
        ∀ other ∈ currentSubmissions (stored stream) phaseId,
          other.submittedAt ≤ stream.length + [event].length :=
      ⟨hsorted, fun other hother => (hle other hother).trans (Nat.le_add_right ..)⟩
    unfold submissionStep
    dsimp only
    cases submissionEvent event with
    | voteSubmitted actor target votePhase | voteWithdrawn actor votePhase | actionSubmitted payload =>
      dsimp only
      split
      · exact hnew rfl
      · exact hsame
    | actionWithdrawn payload =>
      dsimp only
      split
      · have hat (submission : Submission) :
            (if payload.names submission then { submission with withdrawn := true }
              else submission).submittedAt = submission.submittedAt := by
          split <;> rfl
        refine ⟨?_, fun other hother => ?_⟩
        · rw [List.pairwise_map]
          refine hsame.1.imp fun hlt => ?_
          rw [hat, hat]
          exact hlt
        · obtain ⟨submission, hsubmission, rfl⟩ := List.mem_map.1 hother
          rw [hat]
          exact hsame.2 submission hsubmission
      · exact hsame
    | other => exact hsame

theorem dayVotes_dayInput [Float64 F] (base : ResolutionInput F) (state : StateSnapshot F) :
    dayVotes (dayInput base phaseId stream state) = voteSubs phaseId stream := by
  unfold dayVotes dayInput voteSubs sortBy
  dsimp only
  refine List.Pairwise.insertionSort_eq ?_
  refine ((submissions_sorted stream phaseId).1.filter _).imp fun {a b} hlt => ?_
  have hcmp : compare a.submittedAt b.submittedAt = .lt := Nat.compare_eq_lt.2 hlt
  simp [submissionCmp, compareLex, compareOn, hcmp]

end Submissions

/-! ## The ballots since a withdrawal -/

section Ballots

variable {voter : SlotId} {subs : List Submission}

theorem lastOwn_concat (sub : Submission) :
    lastOwn voter (subs ++ [sub]) = if sub.actor = voter then some sub else lastOwn voter subs := by
  unfold lastOwn
  rw [List.filter_append]
  by_cases hactor : sub.actor = voter
  · rw [if_pos hactor, List.filter_cons_of_pos (by simpa using hactor)]
    simp
  · rw [if_neg hactor, List.filter_cons_of_neg (by simpa using hactor)]
    simp

/-- The last of a voter's submissions, if it is a ballot, is the last it cast. -/
theorem getLast?_ballotsSince {sub : Submission} {target : SlotId} (hlast : lastOwn voter subs = some sub)
    (hwithdrawn : sub.withdrawn = false) (htarget : sub.targets.head? = some target) :
    (ballotsSince voter subs).getLast? = some target := by
  obtain ⟨rest, hrest⟩ := List.getLast?_eq_some_iff.1 hlast
  unfold ballotsSince
  rw [List.filter_reverse, hrest, List.reverse_append, List.reverse_singleton,
    List.singleton_append, List.takeWhile_cons_of_pos (by simp [hwithdrawn]), List.reverse_cons,
    List.filterMap_append]
  simp [htarget]

theorem mark_actor (payload : ActionWithdrawn) (sub : Submission) : (mark payload sub).actor = sub.actor := by
  unfold mark
  split <;> rfl

theorem mark_targets (payload : ActionWithdrawn) (sub : Submission) :
    (mark payload sub).targets = sub.targets := by
  unfold mark
  split <;> rfl

theorem lastOwn_mark (payload : ActionWithdrawn) :
    lastOwn voter (subs.map (mark payload)) = (lastOwn voter subs).map (mark payload) := by
  unfold lastOwn
  rw [List.filter_map, List.getLast?_map]
  have hactor : ((fun sub : Submission => sub.actor == voter) ∘ mark payload) =
      fun sub => sub.actor == voter := by
    funext sub
    simp [mark_actor]
  rw [hactor]

/-- Marking submissions withdrawn leaves nobody a ballot more. -/
theorem mem_ballotsSince_mark {payload : ActionWithdrawn} {target : SlotId}
    (h : target ∈ ballotsSince voter (subs.map (mark payload))) :
    target ∈ ballotsSince voter subs := by
  unfold ballotsSince at h ⊢
  rw [← List.map_reverse, List.filter_map] at h
  have hactor : ((fun sub : Submission => sub.actor == voter) ∘ mark payload) =
      fun sub => sub.actor == voter := by
    funext sub
    simp [mark_actor]
  rw [hactor] at h
  generalize (subs.reverse.filter fun sub => sub.actor == voter) = own at h ⊢
  rw [List.mem_filterMap] at h ⊢
  obtain ⟨sub, hsub, htarget⟩ := h
  rw [List.mem_reverse] at hsub
  have hfound : ∃ sub ∈ own.takeWhile (!·.withdrawn), sub.targets.head? = some target := by
    induction own with
    | nil => simp at hsub
    | cons first rest ih =>
      rw [List.map_cons] at hsub
      rw [List.takeWhile_cons] at hsub
      split at hsub
      · rename_i hfirst
        have hplain : (!first.withdrawn) = true := by
          unfold mark at hfirst
          split at hfirst
          · simp at hfirst
          · exact hfirst
        rw [List.takeWhile_cons, if_pos hplain]
        rcases List.mem_cons.1 hsub with rfl | hrest
        · exact ⟨first, List.mem_cons_self, by rw [← mark_targets payload, htarget]⟩
        · obtain ⟨other, hother, hhead⟩ := ih hrest
          exact ⟨other, List.mem_cons_of_mem _ hother, hhead⟩
      · exact absurd hsub List.not_mem_nil
  obtain ⟨found, hmem, hhead⟩ := hfound
  exact ⟨found, List.mem_reverse.2 hmem, hhead⟩

end Ballots

/-! ## The rows -/

section Rows

variable {rows : GameRows F} {state next : StateSnapshot F} {event : GameEvent F}

/-- The row of a slot says that it is alive. -/
def RowAlive (rows : GameRows F) (slotId : SlotId) : Prop :=
  ∃ row ∈ rows.slotState, row.slotId = slotId ∧ row.alive = true

variable {slotId : SlotId}

theorem living_iff_row (agree : SlotsAgree rows state) : Living state slotId ↔ RowAlive rows slotId := by
  constructor
  · rintro ⟨slot, hslot, hid, halive⟩
    obtain ⟨row, hrow, hfacts⟩ :=
      List.mem_map.1 (agree.symm.subset (List.mem_map_of_mem (f := slotFacts) hslot))
    exact ⟨row, hrow, (congrArg SlotFacts.slotId hfacts).trans hid,
      (congrArg SlotFacts.alive hfacts).trans halive⟩
  · rintro ⟨row, hrow, hid, halive⟩
    obtain ⟨slot, hslot, hfacts⟩ :=
      List.mem_map.1 (agree.subset (List.mem_map_of_mem (f := rowFacts) hrow))
    exact ⟨slot, hslot, (congrArg SlotFacts.slotId hfacts).trans hid,
      (congrArg SlotFacts.alive hfacts).trans halive⟩

section

variable (h : RowAlive rows slotId)
include h

theorem RowAlive.ensureSlot (other : SlotId) : RowAlive (rows.ensureSlot other) slotId := by
  obtain ⟨row, hrow, hid⟩ := h
  exact ⟨row, (prefix_pushNew _ _ _).subset hrow, hid⟩

theorem RowAlive.ensureSlots (others : List SlotId) :
    RowAlive (others.foldl GameRows.ensureSlot rows) slotId := by
  induction others generalizing rows with
  | nil => exact h
  | cons other others ih => exact ih (h.ensureSlot other)

/-- An edit that leaves a living slot's row alive. -/
theorem RowAlive.update {other : SlotId}
    {f : SlotStateRow → SlotStateRow} (hid : ∀ row, (f row).slotId = row.slotId)
    (halive : other = slotId → ∀ row, row.alive = true → (f row).alive = true) :
    RowAlive (rows.updateSlotState other f) slotId := by
  obtain ⟨row, hrow, rfl, hrowAlive⟩ := h
  refine ⟨if row.slotId = other then f row else row, List.mem_map_of_mem hrow, ?_, ?_⟩
  · split
    · exact hid row
    · rfl
  · split
    · rename_i heq
      exact halive heq.symm row hrowAlive
    · exact hrowAlive

theorem RowAlive.setSlotStatus {other : SlotId} {status : SlotLifecycle}
    (halive : other = slotId → status = .alive) :
    RowAlive (rows.setSlotStatus other status) slotId := by
  have hupdated : RowAlive
      (rows.updateSlotState other fun row => { row with alive := status == .alive }) slotId :=
    h.update (fun _ => rfl) fun heq _ _ => by simp [halive heq]
  unfold RowAlive at hupdated ⊢
  rw [setSlotStatus_slotState]
  exact hupdated

theorem RowAlive.foldInner {event : InnerEvent F}
    (hspared : event.killedSlot? ≠ some slotId) : RowAlive (rows.foldInner event) slotId := by
  have hensured := h.ensureSlots (GameRows.ensuredSlots event)
  unfold GameRows.foldInner
  cases event with
  | playerKilled killed =>
    exact hensured.setSlotStatus fun heq => absurd (congrArg some heq) hspared
  | playerConverted | alignmentRevealed | roleRevealed =>
    exact hensured.update (fun _ => rfl) fun _ _ halive => halive
  | _ => exact hensured

/-- Who is alive before an event that does not let it die is alive after it. -/
theorem RowAlive.fold (hspared : slotId ∉ dying event) : RowAlive (rows.fold event) slotId := by
  cases event with
  | slotAdded other => exact h.ensureSlot other
  | roleAssigned other =>
    exact (h.ensureSlot other).update (fun _ => rfl) fun _ _ halive => halive
  | slotStatusChanged other status =>
    refine (h.ensureSlot other).setSlotStatus fun heq => ?_
    subst heq
    by_contra hstatus
    simp [dying, hstatus] at hspared
  | slotStatusTagged other => exact h.ensureSlot other
  | slotStatusUntagged => exact h
  | standalone event =>
    by_cases hstandalone : isStandalone event = true
    · simp only [GameRows.fold, if_pos hstandalone]
      refine h.foldInner ?_
      cases event with
      | playerKilled => simp [isStandalone] at hstandalone
      | _ => simp [InnerEvent.killedSlot?]
    · simp only [GameRows.fold, if_neg hstandalone]
      exact h
  | resolutionApplied events =>
    simp only [GameRows.fold]
    simp only [dying, killedSlots, List.mem_filterMap, not_exists, not_and] at hspared
    induction events generalizing rows with
    | nil => exact h
    | cons event events ih =>
      exact ih (h.foldInner (hspared event List.mem_cons_self)) fun other hother =>
        hspared other (List.mem_cons_of_mem _ hother)
  | submission event => cases event <;> exact h
  | other slots => exact h.ensureSlots slots

end

/-- Who an event lets die is not alive after it. -/
theorem not_living_dying [Float64 F] {pack : Pack F} (agree : SlotsAgree rows state)
    (distinct : DistinctSlots state) (fits : FitsSlots pack state event)
    (hstep : snapshotStep pack state event = some next) (hdying : slotId ∈ dying event) : ¬ Living next slotId := by
  obtain ⟨hagree, -⟩ := agree.step distinct fits hstep
  cases event with
  | slotStatusChanged other status =>
    by_cases hstatus : status = .alive
    · simp [dying, hstatus] at hdying
    · obtain rfl : slotId = other := by simpa [dying, hstatus] using hdying
      rw [living_iff_row hagree]
      simp only [RowAlive, GameRows.fold, setSlotStatus_slotState, GameRows.updateSlotState, List.mem_map]
      rintro ⟨_, ⟨row, -, rfl⟩, hid, halive⟩
      split at halive
      · simp [hstatus] at halive
      · rename_i hne
        rw [if_neg hne] at hid
        exact hne hid
  | resolutionApplied events =>
    obtain rfl := Option.some.inj hstep
    exact fun hliving => (living_applyEvents distinct hliving).2 hdying
  | _ => exact absurd hdying List.not_mem_nil

theorem ensureSlots_voteBallot (slots : List SlotId) :
    (slots.foldl GameRows.ensureSlot rows).voteBallot = rows.voteBallot := by
  obtain ⟨slotState, heq⟩ := ensureSlots_eq slots rows
  rw [heq]

/-- The ballots left by the deaths of some slots. -/
def leftBy (dead : List SlotId) (row : BallotRow) : Bool :=
  !(dead.contains row.actorSlot || dead.contains row.target)

theorem filter_leftBy_nil (ballots : List BallotRow) : ballots.filter (leftBy []) = ballots :=
  List.filter_eq_self.2 fun _ _ => rfl

theorem voteBallot_setSlotStatus (slotId : SlotId) (status : SlotLifecycle) :
    (rows.setSlotStatus slotId status).voteBallot =
      rows.voteBallot.filter (leftBy (if status = .alive then [] else [slotId])) := by
  unfold GameRows.setSlotStatus
  by_cases hstatus : status = .alive
  · rw [if_pos hstatus, filter_leftBy_nil]
    simp [hstatus, GameRows.updateSlotState]
  · rw [if_neg hstatus]
    simp only [beq_iff_eq, hstatus, if_false, GameRows.updateSlotState, GameRows.clearBallotsForDeadSlot]
    refine List.filter_congr fun row _ => ?_
    simp only [leftBy, List.contains_cons, List.contains_nil, Bool.or_false]

theorem voteBallot_foldInner (event : InnerEvent F) : (rows.foldInner event).voteBallot =
      rows.voteBallot.filter (leftBy event.killedSlot?.toList) := by
  have hensured : ((GameRows.ensuredSlots event).foldl GameRows.ensureSlot rows).voteBallot =
      rows.voteBallot := ensureSlots_voteBallot _
  unfold GameRows.foldInner
  cases event with
  | playerKilled killed =>
    simp only [GameRows.write]
    rw [voteBallot_setSlotStatus, hensured]
    rfl
  | _ => exact hensured.trans (filter_leftBy_nil _).symm

/-- What an event other than a vote leaves of the ballots. -/
theorem voteBallot_fold (hplain : submissionEvent event = .other) :
    (rows.fold event).voteBallot = rows.voteBallot.filter (leftBy (dying event)) := by
  cases event with
  | slotStatusChanged slotId status =>
    simp only [GameRows.fold]
    rw [voteBallot_setSlotStatus]
    rfl
  | standalone event =>
    by_cases hstandalone : isStandalone event = true
    · simp only [GameRows.fold, if_pos hstandalone]
      rw [voteBallot_foldInner]
      cases event with
      | playerKilled => simp [isStandalone] at hstandalone
      | _ => rfl
    · simp only [GameRows.fold, if_neg hstandalone]
      exact (filter_leftBy_nil _).symm
  | resolutionApplied events =>
    simp only [GameRows.fold, dying]
    induction events generalizing rows with
    | nil => exact (filter_leftBy_nil _).symm
    | cons event events ih =>
      rw [List.foldl_cons, ih rfl, voteBallot_foldInner, List.filter_filter]
      refine List.filter_congr fun row _ => ?_
      cases hkilled : event.killedSlot? with
      | none => simp [killedSlots, leftBy, hkilled]
      | some killed =>
        simp only [killedSlots, leftBy, List.filterMap_cons, hkilled, Option.toList_some, List.contains_cons]
        rw [Bool.eq_iff_iff]
        simp
        tauto
  | submission event =>
    obtain rfl : event = .other := hplain
    exact (filter_leftBy_nil _).symm
  | other slots => exact (ensureSlots_voteBallot slots).trans (filter_leftBy_nil _).symm
  | _ => exact (filter_leftBy_nil _).symm

end Rows

/-! ## The invariant -/

section Invariant

theorem gameRows_concat (stream : List (GameEvent F)) (event : GameEvent F) :
    gameRows (stream ++ [event]) = (gameRows stream).fold event := by
  rw [gameRows, List.foldl_append]
  rfl

variable [Float64 F] {pack : Pack F} {phaseId : PhaseId} {stream : List (GameEvent F)}
  {state next : StateSnapshot F} {event : GameEvent F}

/-- What every careful step keeps: a ballot stands for a living voter whose last submission it is, for a
target that may be voted for; and a living voter without one has cast none for such a target since it
last withdrew. -/
structure Kept (policy : VotePolicy F) (phaseId : PhaseId) (stream : List (GameEvent F))
    (state : StateSnapshot F) : Prop where
  slots : SlotsAgree (gameRows stream) state
  distinct : DistinctSlots state
  /-- The primary key of the table. -/
  keys : ((gameRows stream).voteBallot.map fun row => (row.phaseId, row.actorSlot)).Nodup
  standing : ∀ voter target, Standing (gameRows stream) phaseId voter target →
    Living state voter ∧ Votable policy state target ∧
      ∃ sub, lastOwn voter (voteSubs phaseId stream) = some sub ∧ sub.withdrawn = false ∧
        sub.targets.head? = some target
  missing : ∀ voter, (∀ target, ¬ Standing (gameRows stream) phaseId voter target) → Living state voter →
      ∀ target ∈ ballotsSince voter (voteSubs phaseId stream), ¬ Votable policy state target

theorem living_of_slotAlive (agree : SlotsAgree (gameRows stream) state) {slotId : SlotId}
    (h : slotAlive (rowsView pack (gameRows stream)) slotId = some true) : Living state slotId := by
  obtain ⟨row, hrow, halive⟩ := Option.map_eq_some_iff.1 h
  refine (living_iff_row agree).2 ⟨row, List.mem_of_find?_eq_some hrow, ?_, halive⟩
  simpa using List.find?_some hrow

theorem living_of_requireSlotAlive (agree : SlotsAgree (gameRows stream) state) {slotId : SlotId}
    (h : requireSlotAlive (rowsView pack (gameRows stream)) slotId = .ok ()) :
    Living state slotId := by
  unfold requireSlotAlive at h
  split at h
  · rename_i halive
    exact living_of_slotAlive agree halive
  · cases h
  · cases h

/-- An accepted vote is one of a living voter for a target that may be voted for. -/
theorem submitVote_ok (agree : SlotsAgree (gameRows stream) state) {actor : SlotId}
    {voteTarget : VoteTarget} {target : String}
    (h : submitVote pack (gameRows stream) phaseId actor voteTarget =
      .ok (.voteSubmitted actor target phaseId)) :
    Living state actor ∧ Votable pack.vote state target := by
  unfold submitVote at h
  obtain ⟨⟨⟩, halive, h⟩ := bind_eq_ok.1 h
  obtain ⟨⟨⟩, hpolicy, h⟩ := bind_eq_ok.1 h
  obtain ⟨name, hname, h⟩ := bind_eq_ok.1 h
  obtain rfl : name = target := by simpa [pure, Except.pure] using h
  refine ⟨living_of_requireSlotAlive agree halive, ?_⟩
  cases voteTarget with
  | noLynch =>
    refine .inl ⟨?_, by simpa [validateTarget] using hname.symm⟩
    by_contra hforbidden
    simp [validateVotePolicyTarget, hforbidden] at hpolicy
  | slot slotId =>
    refine .inr ?_
    simp only [validateTarget] at hname
    split at hname
    · rename_i halive
      obtain rfl : slotId = name := by simpa using hname
      exact living_of_slotAlive agree halive
    · cases hname

/-- An event that is no submission. -/
theorem Kept.plain (kept : Kept pack.vote phaseId stream state) (fits : FitsSlots pack state event)
    (careful : Careful pack.vote phaseId stream state next event)
    (hstep : snapshotStep pack state event = some next) (hplain : submissionEvent event = .other) :
    Kept pack.vote phaseId (stream ++ [event]) next := by
  obtain ⟨hslots, hdistinct⟩ := kept.slots.step kept.distinct fits hstep
  have hsubs : voteSubs phaseId (stream ++ [event]) = voteSubs phaseId stream := by
    rw [voteSubs_concat, hplain]
    cases event with
    | submission event => rw [show event = .other from hplain]; trivial
    | _ => trivial
  have hballots : ((gameRows stream).fold event).voteBallot =
      (gameRows stream).voteBallot.filter (leftBy (dying event)) := voteBallot_fold hplain
  have hlives {slotId : SlotId} (hliving : Living state slotId) (hspared : slotId ∉ dying event) :
      Living next slotId :=
    (living_iff_row hslots).2 (((living_iff_row kept.slots).1 hliving).fold hspared)
  have hdies {slotId : SlotId} (hdying : slotId ∈ dying event) : ¬ Living next slotId :=
    not_living_dying kept.slots kept.distinct fits hstep hdying
  have hstands (voter : SlotId) (target : String) :
      Standing (gameRows (stream ++ [event])) phaseId voter target ↔
        Standing (gameRows stream) phaseId voter target ∧ voter ∉ dying event ∧ target ∉ dying event := by
    unfold Standing
    rw [gameRows_concat, hballots, List.mem_filter]
    simp [leftBy]
  refine ⟨by rwa [gameRows_concat], hdistinct, ?_, ?_, ?_⟩
  · rw [gameRows_concat, hballots]
    exact map_filter_nodup _ _ kept.keys
  · intro voter target hstanding
    rw [hsubs]
    obtain ⟨hbefore, hvoter, htarget⟩ := (hstands voter target).1 hstanding
    obtain ⟨hliving, hcountable, hlast⟩ := kept.standing voter target hbefore
    exact ⟨hlives hliving hvoter, hcountable.imp id fun hlive => hlives hlive htarget, hlast⟩
  · intro voter hnone hliving
    rw [hsubs]
    have hvoter : voter ∉ dying event := fun hdying => hdies hdying hliving
    by_cases hstood : ∃ target, Standing (gameRows stream) phaseId voter target
    · obtain ⟨target, hstanding⟩ := hstood
      -- Its ballot stood until now, so the event deleted it with its target.
      have htarget : target ∈ dying event := by
        by_contra hspared
        exact hnone target ((hstands voter target).2 ⟨hstanding, hvoter, hspared⟩)
      exact careful.deaths voter target hstanding htarget hliving
    · have hmissing : ∀ target, ¬ Standing (gameRows stream) phaseId voter target :=
        fun target hstanding => hstood ⟨target, hstanding⟩
      by_cases hlived : Living state voter
      · intro target htarget hcountable
        refine kept.missing voter hmissing hlived target htarget (hcountable.imp id fun hlive => ?_)
        by_contra hdead
        exact careful.named target hlive hdead voter hmissing htarget
      · exact careful.revived voter hliving hlived

/-- A longer stream with the same votes and standing ballots. -/
theorem Kept.same (kept : Kept pack.vote phaseId stream state) {longer : List (GameEvent F)}
    (hslots : SlotsAgree (gameRows longer) state)
    (hkeys : ((gameRows longer).voteBallot.map fun row => (row.phaseId, row.actorSlot)).Nodup)
    (hstands : ∀ voter target, Standing (gameRows longer) phaseId voter target ↔
      Standing (gameRows stream) phaseId voter target)
    (hsubs : voteSubs phaseId longer = voteSubs phaseId stream) :
    Kept pack.vote phaseId longer state := by
  refine ⟨hslots, kept.distinct, hkeys, ?_, ?_⟩
  · simp only [hstands, hsubs]
    exact kept.standing
  · simp only [hstands, hsubs]
    exact kept.missing

/-- A vote or a submission of an action. -/
theorem Kept.submission (kept : Kept pack.vote phaseId stream state) {event : Event}
    (accepted : Accepted pack stream (.submission event))
    (keeps : KeepsVotes phaseId stream (.submission event)) :
    Kept pack.vote phaseId (stream ++ [.submission event]) state := by
  have hsubs := @voteSubs_concat F phaseId _ _ keeps
  have hslots : SlotsAgree (gameRows (stream ++ [.submission event])) state := by
    rw [gameRows_concat]
    cases event <;> exact kept.slots
  cases event with
  | voteSubmitted actor target votePhase =>
    have hrows (row : BallotRow) : row ∈ (gameRows (stream ++ [.submission
        (.voteSubmitted actor target votePhase)])).voteBallot ↔
        (row ∈ (gameRows stream).voteBallot ∧ ¬ (row.phaseId = votePhase ∧ row.actorSlot = actor)) ∨
          row = ⟨votePhase, actor, target⟩ := by
      rw [gameRows_concat, GameRows.fold, GameRows.upsertBallot, mem_upsert]
      simp
    have hkeys : ((gameRows (stream ++ [.submission
        (.voteSubmitted actor target votePhase)])).voteBallot.map fun row =>
          (row.phaseId, row.actorSlot)).Nodup := by
      rw [gameRows_concat]
      refine map_upsert_nodup (fun row : BallotRow => (row.phaseId, row.actorSlot))
        (fun row hrow => ?_) kept.keys
      simp only [Prod.mk.injEq] at hrow
      simp [hrow]
    by_cases hphase : votePhase = phaseId
    · subst hphase
      obtain ⟨voteTarget, haccepted⟩ := accepted
      obtain ⟨hactor, htarget⟩ := submitVote_ok kept.slots haccepted
      simp only [submissionEvent, if_true] at hsubs
      refine ⟨hslots, kept.distinct, hkeys, fun voter other hstanding => ?_, fun voter hnone hliving => ?_⟩
      · rw [hsubs, lastOwn_concat]
        rcases (hrows _).1 hstanding with ⟨hbefore, hother⟩ | heq
        · have hne : ¬ actor = voter := fun heq => hother ⟨rfl, heq.symm⟩
          rw [if_neg hne]
          exact kept.standing voter other hbefore
        · obtain ⟨-, rfl, rfl⟩ := BallotRow.mk.inj heq
          rw [if_pos rfl]
          exact ⟨hactor, htarget, _, rfl, rfl, rfl⟩
      · rw [hsubs, ballotsSince_concat]
        by_cases hvoter : actor = voter
        · subst hvoter
          exact absurd ((hrows _).2 (.inr rfl)) (hnone target)
        · rw [if_neg hvoter]
          refine kept.missing voter (fun other hstanding => hnone other ?_) hliving
          exact (hrows _).2 (.inl ⟨hstanding, fun hown => hvoter hown.2.symm⟩)
    · simp only [submissionEvent, if_neg hphase] at hsubs
      have hstands (voter : SlotId) (other : String) : Standing (gameRows (stream ++ [.submission
          (.voteSubmitted actor target votePhase)])) phaseId voter other ↔
          Standing (gameRows stream) phaseId voter other := by
        refine (hrows _).trans ⟨?_, fun hbefore => .inl ⟨hbefore, fun hown => hphase hown.1.symm⟩⟩
        rintro (⟨hbefore, -⟩ | heq)
        · exact hbefore
        · exact absurd (BallotRow.mk.inj heq).1.symm hphase
      exact kept.same hslots hkeys hstands hsubs
  | voteWithdrawn actor votePhase =>
    have hrows (row : BallotRow) : row ∈ (gameRows (stream ++ [.submission
        (.voteWithdrawn actor votePhase)])).voteBallot ↔
        row ∈ (gameRows stream).voteBallot ∧ ¬ (row.phaseId = votePhase ∧ row.actorSlot = actor) := by
      rw [gameRows_concat, GameRows.fold, GameRows.deleteBallot, List.mem_filter]
      refine and_congr_right fun _ => ?_
      simpa using Decidable.imp_iff_not_or.symm
    have hkeys : ((gameRows (stream ++ [.submission
        (.voteWithdrawn actor votePhase)])).voteBallot.map fun row =>
          (row.phaseId, row.actorSlot)).Nodup := by
      rw [gameRows_concat]
      exact map_filter_nodup _ _ kept.keys
    by_cases hphase : votePhase = phaseId
    · subst hphase
      simp only [submissionEvent, if_true] at hsubs
      refine ⟨hslots, kept.distinct, hkeys, fun voter other hstanding => ?_, fun voter hnone hliving => ?_⟩
      · obtain ⟨hbefore, hother⟩ := (hrows _).1 hstanding
        have hne : ¬ actor = voter := fun heq => hother ⟨rfl, heq.symm⟩
        rw [hsubs, lastOwn_concat, if_neg hne]
        exact kept.standing voter other hbefore
      · rw [hsubs, ballotsSince_concat]
        by_cases hvoter : actor = voter
        · rw [if_pos hvoter]
          simp
        · rw [if_neg hvoter]
          refine kept.missing voter (fun other hstanding => hnone other ?_) hliving
          exact (hrows _).2 ⟨hstanding, fun hown => hvoter hown.2.symm⟩
    · simp only [submissionEvent, if_neg hphase] at hsubs
      have hstands (voter : SlotId) (other : String) : Standing (gameRows (stream ++ [.submission
          (.voteWithdrawn actor votePhase)])) phaseId voter other ↔
          Standing (gameRows stream) phaseId voter other :=
        (hrows _).trans ⟨fun h => h.1, fun hbefore => ⟨hbefore, fun hown => hphase hown.1.symm⟩⟩
      exact kept.same hslots hkeys hstands hsubs
  | actionWithdrawn payload =>
    have hrows : (gameRows (stream ++ [.submission (.actionWithdrawn payload)])).voteBallot =
        (gameRows stream).voteBallot := by
      rw [gameRows_concat]
      rfl
    by_cases hphase : payload.phaseId = phaseId
    · simp only [submissionEvent, if_pos hphase] at hsubs
      refine ⟨hslots, kept.distinct, hrows ▸ kept.keys, fun voter target hstanding => ?_,
        fun voter hnone hliving target htarget => ?_⟩
      · unfold Standing at hstanding
        rw [hrows] at hstanding
        obtain ⟨hliving, hcountable, sub, hlast, hwithdrawn, hhead⟩ :=
          kept.standing voter target hstanding
        have hunnamed : ¬ payload.names sub = true := by
          intro hnames
          have hactor : payload.actor = voter := by
            have hown : sub.actor = voter := by
              simpa using (List.mem_filter.1 (List.mem_of_getLast? hlast)).2
            simp only [ActionWithdrawn.names, Bool.and_eq_true, beq_iff_eq] at hnames
            exact hnames.2.trans hown
          rw [← hactor] at hlast hstanding
          exact keeps hphase sub hlast hnames target hstanding
        refine ⟨hliving, hcountable, sub, ?_, hwithdrawn, hhead⟩
        rw [hsubs, lastOwn_mark, hlast, Option.map_some, mark, if_neg hunnamed]
      · rw [hsubs] at htarget
        refine kept.missing voter (fun other hstanding => hnone other ?_) hliving target
          (mem_ballotsSince_mark htarget)
        unfold Standing
        rwa [hrows]
    · simp only [submissionEvent, if_neg hphase] at hsubs
      exact kept.same hslots (hrows ▸ kept.keys) (fun _ _ => by simp only [Standing, hrows]) hsubs
  | actionSubmitted payload =>
    have hsame : gameRows (stream ++ [.submission (.actionSubmitted payload)]) = gameRows stream :=
      gameRows_concat _ _
    exact kept.same hslots (hsame ▸ kept.keys) (fun _ _ => by rw [hsame]) hsubs
  | other =>
    have hsame : gameRows (stream ++ [.submission .other]) = gameRows stream := gameRows_concat _ _
    exact kept.same hslots (hsame ▸ kept.keys) (fun _ _ => by rw [hsame]) hsubs

omit [Float64 F] in
theorem kept_start (policy : VotePolicy F) (phaseId : PhaseId) :
    Kept policy phaseId [] (emptySnapshot phaseId : StateSnapshot F) := by
  refine ⟨List.Perm.nil, ?_, List.nodup_nil, ?_, ?_⟩
  · simp [DistinctSlots, emptySnapshot]
  · exact fun _ _ h => absurd h List.not_mem_nil
  · rintro voter - ⟨slot, hslot, -⟩
    exact absurd hslot List.not_mem_nil

/-- One accepted and careful event. -/
theorem Kept.step (kept : Kept pack.vote phaseId stream state)
    (hstate : currentSnapshot pack phaseId stream = some state)
    (accepted : Accepted pack stream event) (careful : CarefulStep pack phaseId stream event)
    (hstep : snapshotStep pack state event = some next) :
    Kept pack.vote phaseId (stream ++ [event]) next := by
  cases event with
  | submission event =>
    obtain rfl : state = next := Option.some.inj hstep
    exact kept.submission accepted careful.keepsVotes
  | _ => exact kept.plain (careful.fits state hstate) (careful.careful state hstate next hstep) hstep rfl

/-- Every accepted and careful stream. -/
theorem kept_run (issued : Throughout (Accepted pack) [] stream)
    (careful : Throughout (CarefulStep pack phaseId) [] stream)
    (hstate : currentSnapshot pack phaseId stream = some state) :
    Kept pack.vote phaseId stream state := by
  induction stream using List.reverseRecOn generalizing state with
  | nil =>
    obtain rfl := Option.some.inj hstate
    exact kept_start _ _
  | append_singleton stream event ih =>
    obtain ⟨hissued, haccepted, -⟩ := throughout_append.1 issued
    obtain ⟨hcareful, hstepCareful, -⟩ := throughout_append.1 careful
    rw [currentSnapshot, List.foldlM_append, Option.bind_eq_bind, Option.bind_eq_some_iff] at hstate
    obtain ⟨before, hbefore, hlast⟩ := hstate
    have hstep : snapshotStep pack before event = some state := by simpa using hlast
    exact (ih hissued hcareful hbefore).step hbefore haccepted hstepCareful hstep

/-- The row of a voter is the one that stands. -/
theorem Kept.ballotRow?_eq_some (kept : Kept pack.vote phaseId stream state) {voter : SlotId}
    {target : String} : ballotRow? (gameRows stream) phaseId voter = some target ↔
      Standing (gameRows stream) phaseId voter target := by
  constructor
  · intro hrow
    obtain ⟨row, hfound, rfl⟩ := Option.map_eq_some_iff.1 hrow
    obtain ⟨rfl, rfl⟩ : row.phaseId = phaseId ∧ row.actorSlot = voter := by
      simpa using List.find?_some hfound
    exact List.mem_of_find?_eq_some hfound
  · intro hstanding
    refine Option.map_eq_some_iff.2 ⟨⟨phaseId, voter, target⟩, ?_, rfl⟩
    exact find?_key_of_nodup (fun row : BallotRow => (row.phaseId, row.actorSlot)) kept.keys hstanding

end Invariant

/-! ## The two counts agree -/

section Counts

variable [Float64 F] {base : ResolutionInput F} {phaseId : PhaseId} {stream : List (GameEvent F)}
  {state : StateSnapshot F}

variable {input : ResolutionInput F}

theorem living_of_voteState {slotId : SlotId} (h : Living (voteState input) slotId) : Living input.state slotId := h.of_applyEvents

/-- A ballot the vote counts is one of a living voter, cast since it last withdrew, for a target that may
be voted for. -/
theorem counted_getElem? (unhammered : ¬ Hammered input) (voter target : SlotId) : (countedBallots input)[voter]? = some target ↔
      Living (voteState input) voter ∧
        (countable input (voteState input) (resolveBadgeActions input).1 (voteDuel input)
          voter).getLast? = some target ∧
        duelAllows (voteDuel input) target = true :=
  countVotes_getElem? (Bool.eq_false_iff.2 unhammered) voter target

theorem mem_countable {badges : List (BadgeRecord F)} {duel : VoteDuel} {voter target : SlotId} : target ∈ countable input (voteState input) badges duel voter ↔
      target ∈ ballotsSince voter (dayVotes input) ∧
        Votable input.pack.document.vote (voteState input) target := by
  unfold countable
  rw [List.mem_filter, valid_contains]

/-- The last ballot, if it may be counted, is the last that may. -/
theorem countable_getLast? {badges : List (BadgeRecord F)} {duel : VoteDuel} {voter target : SlotId}
    (hlast : (ballotsSince voter (dayVotes input)).getLast? = some target)
    (hcountable : Votable input.pack.document.vote (voteState input) target) :
    (countable input (voteState input) badges duel voter).getLast? = some target := by
  obtain ⟨before, hbefore⟩ := List.getLast?_eq_some_iff.1 hlast
  have hvalid : (voteRules input (voteState input) badges duel).valid.contains target = true :=
    valid_contains.2 hcountable
  unfold countable
  rw [hbefore, List.filter_append, List.filter_cons_of_pos hvalid]
  simp

/-- **In a run of careful steps, with the hammer not fallen, the table is what the resolution would count
exactly if the day's actions before the vote leave every standing ballot standing.** -/
theorem running_count_agrees_iff (issued : Throughout (Accepted base.pack.document) [] stream)
    (careful : Throughout (CarefulStep base.pack.document phaseId) [] stream)
    (hstate : currentSnapshot base.pack.document phaseId stream = some state)
    (unhammered : ¬ Hammered (dayInput base phaseId stream state)) :
    Agrees (gameRows stream) (dayInput base phaseId stream state) ↔
      Undisturbed (gameRows stream) (dayInput base phaseId stream state) := by
  have kept := kept_run issued careful hstate
  have hvotes : dayVotes (dayInput base phaseId stream state) = voteSubs phaseId stream :=
    dayVotes_dayInput base state
  constructor
  · intro hagrees voter target hstanding
    have hcounted := (hagrees voter).symm.trans (kept.ballotRow?_eq_some.2 hstanding)
    obtain ⟨hliving, hlast, hduel⟩ := (counted_getElem? unhammered voter target).1 hcounted
    exact ⟨hliving, (mem_countable.1 (List.mem_of_getLast? hlast)).2, hduel⟩
  · intro hundisturbed voter
    cases hrow : ballotRow? (gameRows stream) phaseId voter with
    | some target =>
      have hstanding := kept.ballotRow?_eq_some.1 hrow
      obtain ⟨hliving, hcountable, hduel⟩ := hundisturbed voter target hstanding
      obtain ⟨-, -, sub, hown, hwithdrawn, htarget⟩ := kept.standing voter target hstanding
      have hlast := getLast?_ballotsSince hown hwithdrawn htarget
      rw [← hvotes] at hlast
      exact hrow.trans ((counted_getElem? unhammered voter target).2
        ⟨hliving, countable_getLast? hlast hcountable, hduel⟩).symm
    | none =>
      refine hrow.trans (Option.eq_none_iff_forall_ne_some.2 fun target hcounted => ?_).symm
      obtain ⟨hliving, hlast, -⟩ := (counted_getElem? unhammered voter target).1 hcounted
      obtain ⟨hsince, hcountable⟩ := mem_countable.1 (List.mem_of_getLast? hlast)
      have hnone : ∀ other, ¬ Standing (gameRows stream) phaseId voter other := by
        intro other hstanding
        rw [kept.ballotRow?_eq_some.2 hstanding] at hrow
        cases hrow
      rw [hvotes] at hsince
      exact kept.missing voter hnone (living_of_voteState hliving) target hsince
        (hcountable.imp id living_of_voteState)

end Counts

/-! ## A slot dies with somebody's second ballot on it -/

section Careful

variable {policy : VotePolicy F} {phaseId : PhaseId} {before : List (GameEvent F)}
  {state next : StateSnapshot F} {event : GameEvent F}

/-- Before the first vote every event is careful. -/
theorem careful_of_noVotes (hsubs : voteSubs phaseId before = [])
    (hrows : (gameRows before).voteBallot = []) :
    Careful policy phaseId before state next event := by
  refine ⟨fun voter target hstanding => ?_, fun slot _ _ target htarget => ?_,
    fun slot _ _ voter _ hmem => ?_⟩
  · unfold Standing at hstanding
    rw [hrows] at hstanding
    exact absurd hstanding List.not_mem_nil
  · rw [hsubs] at htarget
    exact absurd htarget List.not_mem_nil
  · rw [hsubs] at hmem
    exact absurd hmem List.not_mem_nil

theorem careful_of_spared (hspared : ∀ row ∈ (gameRows before).voteBallot, row.target ∉ dying event)
    (hrevived : ∀ slot, Living next slot → Living state slot) :
    Careful policy phaseId before state next event :=
  ⟨fun _ _ hstanding hdying => absurd hdying (hspared _ hstanding),
    fun slot hliving hdead => absurd (hrevived slot hliving) hdead,
    fun slot hliving hdead => absurd (hrevived slot hliving) hdead⟩

end Careful

/-- The village, without any action. -/
def plainVillage : ResolutionInput Rat :=
  village ⟨villagePack [], [], .of_plain (by decide) rfl rfl⟩ (emptySnapshot (.first .day)) []

/-- One of three slots votes for some others, and then the third is modkilled. -/
def votesThenModkill (targets : List SlotId) : List (GameEvent Rat) :=
  [.slotAdded "a", .slotAdded "b", .slotAdded "c"] ++
    targets.map (fun target => .submission (.voteSubmitted "a" target (.first .day))) ++
      [.slotStatusChanged "c" .modkilled]

/-- A vote for a slot that lives on. -/
theorem livingTarget_agrees : ∃ state,
    currentSnapshot plainVillage.pack.document (.first .day) (votesThenModkill ["b"]) = some state ∧
      Agrees (gameRows (votesThenModkill ["b"]))
        (dayInput plainVillage (.first .day) (votesThenModkill ["b"]) state) := by
  have hissued : Throughout (Accepted plainVillage.pack.document) [] (votesThenModkill ["b"]) :=
    ⟨trivial, trivial, trivial, ⟨.slot "b", by decide +kernel⟩, trivial, trivial⟩
  have hcareful : Throughout (CarefulStep plainVillage.pack.document (.first .day)) []
      (votesThenModkill ["b"]) := by
    refine ⟨?_, ?_, ?_, ?_, ⟨fun _ _ => trivial, trivial, fun state hstate next hnext => ?_⟩, trivial⟩
    case refine_5 =>
      have hrevived : ∀ state ∈ currentSnapshot plainVillage.pack.document (.first .day)
            ((votesThenModkill ["b"]).take 4),
          ∀ next ∈ snapshotStep plainVillage.pack.document state (.slotStatusChanged "c" .modkilled),
            ∀ slot ∈ next.slots, slot.isAlive = true → Living state slot.slotId := by
        unfold Living
        decide +kernel
      refine careful_of_spared (by decide +kernel) ?_
      rintro _ ⟨slot, hslot, rfl, halive⟩
      exact hrevived state hstate next hnext slot hslot halive
    all_goals exact ⟨fun _ _ => trivial, trivial, fun _ _ _ _ => careful_of_noVotes rfl rfl⟩
  obtain ⟨state, hstate⟩ : ∃ state, currentSnapshot plainVillage.pack.document (.first .day)
      (votesThenModkill ["b"]) = some state := Option.isSome_iff_exists.1 (by decide +kernel)
  have hheld : ∀ state ∈ currentSnapshot plainVillage.pack.document (.first .day)
        (votesThenModkill ["b"]),
      let input := dayInput plainVillage (.first .day) (votesThenModkill ["b"]) state
      ¬ Hammered input ∧ ∀ row ∈ (gameRows (votesThenModkill ["b"])).voteBallot,
        Living (voteState input) row.actorSlot ∧
          Votable input.pack.document.vote (voteState input) row.target ∧
          duelAllows (voteDuel input) row.target = true := by
    unfold Hammered Votable Living
    decide +kernel
  obtain ⟨hunhammered, hundisturbed⟩ := hheld state hstate
  refine ⟨state, hstate, (running_count_agrees_iff hissued hcareful hstate hunhammered).2 ?_⟩
  exact fun voter target hstanding => hundisturbed _ hstanding

/-- A slot votes for a second and then for a third, which dies: the table shows no ballot of it any more,
and the resolution counts the first. -/
theorem deadSecond_disagrees :
    Throughout (Accepted plainVillage.pack.document) [] (votesThenModkill ["b", "c"]) ∧
    ∃ state, currentSnapshot plainVillage.pack.document (.first .day) (votesThenModkill ["b", "c"]) =
        some state ∧
      ¬ Hammered (dayInput plainVillage (.first .day) (votesThenModkill ["b", "c"]) state) ∧
      ballotRow? (gameRows (votesThenModkill ["b", "c"])) (.first .day) "a" = none ∧
      (countedBallots
        (dayInput plainVillage (.first .day) (votesThenModkill ["b", "c"]) state))["a"]? = some "b" ∧
      ¬ Agrees (gameRows (votesThenModkill ["b", "c"]))
        (dayInput plainVillage (.first .day) (votesThenModkill ["b", "c"]) state) := by
  refine ⟨⟨trivial, trivial, trivial, ⟨.slot "b", by decide +kernel⟩, ⟨.slot "c", by decide +kernel⟩,
    trivial, trivial⟩, ?_⟩
  have hrow : ballotRow? (gameRows (votesThenModkill ["b", "c"])) (.first .day) "a" = none := by
    decide +kernel
  have hcounted : ∀ state ∈ currentSnapshot plainVillage.pack.document (.first .day)
      (votesThenModkill ["b", "c"]),
      ¬ Hammered (dayInput plainVillage (.first .day) (votesThenModkill ["b", "c"]) state) ∧
      (countedBallots (dayInput plainVillage (.first .day) (votesThenModkill ["b", "c"]) state))["a"]? =
          some "b" := by
    unfold Hammered
    decide +kernel
  obtain ⟨state, hstate⟩ : ∃ state, currentSnapshot plainVillage.pack.document (.first .day)
      (votesThenModkill ["b", "c"]) = some state := Option.isSome_iff_exists.1 (by decide +kernel)
  obtain ⟨hunhammered, hfirst⟩ := hcounted state hstate
  refine ⟨state, hstate, hunhammered, hrow, hfirst, fun hagrees => ?_⟩
  exact absurd (hrow.symm.trans ((hagrees "a").trans hfirst)) (by simp)

end Fmarch.Commands.RunningCount
