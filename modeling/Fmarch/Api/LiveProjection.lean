import Fmarch.Domain.Phase
import Fmarch.Platform.Values
import Mathlib.Data.List.Nodup

/-!
# Live projection updates (`live_projection.rs`)

A command that has committed publishes what it left dirty. The vote counts are compared with those from
before the command, by phase and candidate; everything else is marked, and read again by each session.
-/

namespace Fmarch.Api

open Domain Platform

structure VoteCountDelta where
  game : Uuid
  phaseId : PhaseId
  candidateSlot : String
  count : Int

structure VoteCountClearedDelta where
  game : Uuid
  phaseId : PhaseId
  candidateSlot : String

/-- The `ProjectionDelta`s of the vote counts. -/
inductive VoteCountProjectionDelta where
  | voteCountChanged (delta : VoteCountDelta)
  | voteCountCleared (delta : VoteCountClearedDelta)

namespace VoteCountDelta

/-- What a count is for. -/
def key (delta : VoteCountDelta) : PhaseId × String := (delta.phaseId, delta.candidateSlot)

/-- `VoteCountClearedDelta::from`. -/
def cleared (delta : VoteCountDelta) : VoteCountClearedDelta :=
  { game := delta.game, phaseId := delta.phaseId, candidateSlot := delta.candidateSlot }

end VoteCountDelta

structure LiveProjectionChangeSet where
  game : Uuid
  previousVoteCounts : Option (List VoteCountDelta) := none
  threadAfterSeq : Option Int := none
  threadDirty : Bool := false
  hostConsoleDirty : Bool := false
  hostPromptsDirty : Bool := false
  playerPrivateDirty : Bool := false
  playerCommandStateDirty : Bool := false

structure LiveProjectionUpdate where
  game : Uuid
  deltas : List VoteCountProjectionDelta
  threadAfterSeq : Option Int
  threadDirty : Bool
  hostConsoleDirty : Bool
  hostPromptsDirty : Bool
  playerPrivateDirty : Bool
  playerCommandStateDirty : Bool

/-- `previous_counts`: of two counts for one key the later one. -/
def previousCount (previous : List VoteCountDelta) (key : PhaseId × String) : Option Int :=
  (previous.reverse.find? (·.key = key)).map (·.count)

/-- The counts that are new or have changed. -/
def changedCounts (previous current : List VoteCountDelta) : List VoteCountDelta :=
  current.filter fun delta => previousCount previous delta.key ≠ some delta.count

/-- `vanished`. -/
def vanishedCounts (previous current : List VoteCountDelta) : List VoteCountDelta :=
  previous.filter fun delta => delta.key ∉ current.map VoteCountDelta.key

/-- The changes, then the clears. -/
def voteCountDiff (previous current : List VoteCountDelta) : List VoteCountProjectionDelta :=
  (changedCounts previous current).map .voteCountChanged ++
    (vanishedCounts previous current).map fun delta => .voteCountCleared delta.cleared

def assembleUpdate (change : LiveProjectionChangeSet) (current : List VoteCountDelta) :
    Option LiveProjectionUpdate :=
  let deltas := (change.previousVoteCounts.map fun previous => voteCountDiff previous current).getD []
  if deltas.isEmpty && change.threadAfterSeq.isNone && !change.threadDirty &&
      !change.hostConsoleDirty && !change.hostPromptsDirty && !change.playerPrivateDirty &&
      !change.playerCommandStateDirty then
    none
  else
    some {
      game := change.game
      deltas
      threadAfterSeq := change.threadAfterSeq
      threadDirty := change.threadDirty
      hostConsoleDirty := change.hostConsoleDirty
      hostPromptsDirty := change.hostPromptsDirty
      playerPrivateDirty := change.playerPrivateDirty
      playerCommandStateDirty := change.playerCommandStateDirty }

/-- The deltas that go out: none is lost where there is nothing else to send. -/
theorem assembleUpdate_deltas {change : LiveProjectionChangeSet} {previous : List VoteCountDelta}
    (h : change.previousVoteCounts = some previous) (current : List VoteCountDelta) :
    ((assembleUpdate change current).map (·.deltas)).getD [] = voteCountDiff previous current := by
  unfold assembleUpdate
  rw [h]
  dsimp only [Option.map_some, Option.getD_some]
  split
  case isTrue hnothing =>
    simp only [Bool.and_eq_true, List.isEmpty_iff] at hnothing
    rw [hnothing.1.1.1.1.1.1]
    rfl
  case isFalse => rfl

/-- Where the keys are distinct, a count has changed unless the key had it before. -/
theorem mem_changedCounts {previous current : List VoteCountDelta}
    (hprevious : (previous.map VoteCountDelta.key).Nodup) {delta : VoteCountDelta} :
    delta ∈ changedCounts previous current ↔ delta ∈ current ∧
      ∀ old ∈ previous, old.key = delta.key → old.count ≠ delta.count := by
  unfold changedCounts
  rw [List.mem_filter, decide_eq_true_iff]
  refine and_congr_right fun _ => ?_
  constructor
  · intro hchanged old hold hkey hcount
    refine hchanged ?_
    have hsome : (previous.reverse.find? (·.key = delta.key)).isSome :=
      List.find?_isSome.2 ⟨old, List.mem_reverse.2 hold, decide_eq_true hkey⟩
    obtain ⟨found, hfound⟩ := Option.isSome_iff_exists.1 hsome
    have hfoundKey : found.key = delta.key := by simpa using List.find?_some hfound
    have hmem := List.mem_reverse.1 (List.mem_of_find?_eq_some hfound)
    have hsame : found = old :=
      List.inj_on_of_nodup_map hprevious hmem hold (hfoundKey.trans hkey.symm)
    unfold previousCount
    rw [hfound, hsame]
    exact congrArg some hcount
  · intro hnew hkept
    obtain ⟨found, hfound, hcount⟩ := Option.map_eq_some_iff.1 hkept
    have hfoundKey : found.key = delta.key := by simpa using List.find?_some hfound
    exact hnew found (List.mem_reverse.1 (List.mem_of_find?_eq_some hfound)) hfoundKey hcount

theorem mem_vanishedCounts {previous current : List VoteCountDelta} {delta : VoteCountDelta} :
    delta ∈ vanishedCounts previous current ↔
      delta ∈ previous ∧ delta.key ∉ current.map VoteCountDelta.key := by
  unfold vanishedCounts
  rw [List.mem_filter, decide_eq_true_iff]

end Fmarch.Api
