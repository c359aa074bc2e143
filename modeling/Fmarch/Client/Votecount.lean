import Fmarch.Api.LiveProjection
import Mathlib.Data.List.Induction

/-!
# The votecount on the page

The page has a row for each candidate (`normalizeVotecount`), and the live deltas change or clear the row
of their candidate (`live-transport.mjs`), whatever their phase. The server counts by phase and
candidate, and sends the changes before the clears.

**`patched_iff`**: patching gives the rows that loading the current counts gives exactly if no
candidate loses a count of one phase while it has one of another, and a candidate with a new count has
that count, and a positive one, in every phase it has votes in (`InStep`).
-/

namespace Fmarch.Client

open Api

/-- A row of the votecount. -/
structure VotecountRow where
  target : String
  count : Int
  needed : Int
  deriving DecidableEq

/-- `normalizeVotecount`. No delta carries a `majority`. -/
def normalizeVotecount (deltas : List VoteCountProjectionDelta) : List VotecountRow :=
  deltas.filterMap fun
    | .voteCountChanged delta => some { target := delta.candidateSlot, count := delta.count, needed := 7 }
    | .voteCountCleared _ => none

def upsertVotecountRow (previousRows : List VotecountRow) (delta : VoteCountDelta) : List VotecountRow :=
  let existing := previousRows.find? (·.target = delta.candidateSlot)
  let nextRow : VotecountRow :=
    { target := delta.candidateSlot, count := delta.count, needed := (existing.map (·.needed)).getD 7 }
  let rows := previousRows.filter (·.target ≠ delta.candidateSlot)
  if nextRow.count > 0 then rows ++ [nextRow] else rows

def clearVotecountRow (previousRows : List VotecountRow) (delta : VoteCountClearedDelta) :
    List VotecountRow :=
  previousRows.filter (·.target ≠ delta.candidateSlot)

/-- The votecount of `projectionPatchForLiveEnvelope`. -/
def patchVotecount (rows : List VotecountRow) : VoteCountProjectionDelta → List VotecountRow
  | .voteCountChanged delta => upsertVotecountRow rows delta
  | .voteCountCleared delta => clearVotecountRow rows delta

/-- What `vote_count_deltas` sends for some counts, as the page reads it. -/
def loadVotecount (counts : List VoteCountDelta) : List VotecountRow :=
  normalizeVotecount (counts.map .voteCountChanged)

/-- The row of a count. -/
def votecountRow (delta : VoteCountDelta) : VotecountRow :=
  { target := delta.candidateSlot, count := delta.count, needed := 7 }

theorem loadVotecount_eq (counts : List VoteCountDelta) : loadVotecount counts = counts.map votecountRow := by
  unfold loadVotecount normalizeVotecount
  rw [List.filterMap_map]
  exact List.filterMap_eq_map ▸ rfl

/-! ## What the deltas do to the rows -/

/-- Every row needs what the page shows by default. -/
def Standard (rows : List VotecountRow) : Prop := ∀ row ∈ rows, row.needed = 7

section Patches

variable {rows : List VotecountRow} {row : VotecountRow}

theorem upsertVotecountRow_eq (hrows : Standard rows) (delta : VoteCountDelta) :
    upsertVotecountRow rows delta = rows.filter (·.target ≠ delta.candidateSlot) ++
      if 0 < delta.count then [votecountRow delta] else [] := by
  have hneeded : ((rows.find? (·.target = delta.candidateSlot)).map (·.needed)).getD 7 = 7 := by
    cases hfind : rows.find? (·.target = delta.candidateSlot) with
    | none => rfl
    | some existing => exact hrows existing (List.mem_of_find?_eq_some hfind)
  unfold upsertVotecountRow
  dsimp only
  rw [hneeded]
  split
  · rfl
  · exact (List.append_nil _).symm

theorem mem_upsertVotecountRow (hrows : Standard rows) {delta : VoteCountDelta} :
    row ∈ upsertVotecountRow rows delta ↔ (row ∈ rows ∧ row.target ≠ delta.candidateSlot) ∨
      0 < delta.count ∧ row = votecountRow delta := by
  rw [upsertVotecountRow_eq hrows, List.mem_append, List.mem_filter, decide_eq_true_iff]
  refine or_congr_right ?_
  by_cases hcount : 0 < delta.count
  · rw [if_pos hcount, List.mem_singleton]
    exact (and_iff_right hcount).symm
  · rw [if_neg hcount]
    exact iff_of_false List.not_mem_nil fun h => hcount h.1

theorem Standard.upsert (hrows : Standard rows) (delta : VoteCountDelta) :
    Standard (upsertVotecountRow rows delta) := by
  intro row hrow
  rcases (mem_upsertVotecountRow hrows).1 hrow with ⟨hkept, -⟩ | ⟨-, rfl⟩
  · exact hrows row hkept
  · rfl

theorem standard_loadVotecount (counts : List VoteCountDelta) : Standard (loadVotecount counts) := by
  rw [loadVotecount_eq]
  intro row hrow
  obtain ⟨delta, -, rfl⟩ := List.mem_map.1 hrow
  rfl

/-- After some changes a candidate has its last change, or what it had if nothing changed. -/
theorem mem_changes (hrows : Standard rows) (deltas : List VoteCountDelta) :
    Standard (deltas.foldl upsertVotecountRow rows) ∧ (row ∈ deltas.foldl upsertVotecountRow rows ↔
      (row ∈ rows ∧ ∀ delta ∈ deltas, row.target ≠ delta.candidateSlot) ∨
        ∃ delta, deltas.reverse.find? (·.candidateSlot = row.target) = some delta ∧
          0 < delta.count ∧ row = votecountRow delta) := by
  induction deltas using List.reverseRecOn with
  | nil => exact ⟨hrows, by simp⟩
  | append_singleton deltas delta ih =>
    obtain ⟨hstandard, hmem⟩ := ih
    rw [List.foldl_append, List.foldl_cons, List.foldl_nil, List.reverse_append, List.reverse_singleton,
      List.singleton_append]
    refine ⟨hstandard.upsert delta, ?_⟩
    rw [mem_upsertVotecountRow hstandard, hmem]
    by_cases htarget : row.target = delta.candidateSlot
    · rw [List.find?_cons_of_pos (by simpa using htarget.symm)]
      constructor
      · rintro (⟨-, hother⟩ | hnew)
        · exact absurd htarget hother
        · exact .inr ⟨delta, rfl, hnew⟩
      · rintro (⟨-, hother⟩ | ⟨last, hlast, hnew⟩)
        · exact absurd htarget (hother delta (by simp))
        · obtain rfl := Option.some.inj hlast
          exact .inr hnew
    · rw [List.find?_cons_of_neg (by simpa using Ne.symm htarget)]
      constructor
      · rintro (⟨⟨hrow, hother⟩ | hlast, -⟩ | ⟨-, rfl⟩)
        · refine .inl ⟨hrow, fun other hmem => ?_⟩
          rcases List.mem_append.1 hmem with hold | hnew
          · exact hother other hold
          · exact List.mem_singleton.1 hnew ▸ htarget
        · exact .inr hlast
        · exact absurd rfl htarget
      · rintro (⟨hrow, hother⟩ | hlast)
        · exact .inl ⟨.inl ⟨hrow, fun other hmem => hother other (List.mem_append_left _ hmem)⟩, htarget⟩
        · exact .inl ⟨.inr hlast, htarget⟩

theorem mem_clears (deltas : List VoteCountClearedDelta) (rows : List VotecountRow) :
    row ∈ deltas.foldl clearVotecountRow rows ↔
      row ∈ rows ∧ ∀ delta ∈ deltas, row.target ≠ delta.candidateSlot := by
  induction deltas generalizing rows with
  | nil => simp
  | cons delta deltas ih =>
    rw [List.foldl_cons, ih]
    unfold clearVotecountRow
    rw [List.mem_filter, decide_eq_true_iff, List.forall_mem_cons, and_assoc]

/-- The rows after all deltas of two lists of counts. -/
theorem mem_patched (previous current : List VoteCountDelta) :
    row ∈ (voteCountDiff previous current).foldl patchVotecount (loadVotecount previous) ↔
      ((row ∈ loadVotecount previous ∧
          ∀ delta ∈ changedCounts previous current, row.target ≠ delta.candidateSlot) ∨
        ∃ delta, (changedCounts previous current).reverse.find? (·.candidateSlot = row.target) =
          some delta ∧ 0 < delta.count ∧ row = votecountRow delta) ∧
      ∀ delta ∈ vanishedCounts previous current, row.target ≠ delta.candidateSlot := by
  unfold voteCountDiff
  rw [List.foldl_append, List.foldl_map, List.foldl_map]
  have hclears : row ∈ ((vanishedCounts previous current).map VoteCountDelta.cleared).foldl
      clearVotecountRow ((changedCounts previous current).foldl upsertVotecountRow
        (loadVotecount previous)) ↔ _ := mem_clears _ _
  rw [List.foldl_map, List.forall_mem_map] at hclears
  refine hclears.trans (and_congr_left fun _ => ?_)
  exact (mem_changes (standard_loadVotecount previous) (changedCounts previous current)).2

end Patches

/-! ## Patching against loading -/

/-- The phases of a candidate do not get into each other's way. -/
structure InStep (previous current : List VoteCountDelta) : Prop where
  /-- A candidate that loses a count of one phase has none of another. -/
  vanished : ∀ gone ∈ previous, gone.key ∉ current.map VoteCountDelta.key →
    ∀ delta ∈ current, delta.candidateSlot ≠ gone.candidateSlot
  /-- A candidate with a new count has that count, and a positive one, in all its phases. -/
  changed : ∀ delta ∈ current, (∀ old ∈ previous, old.key = delta.key → old.count ≠ delta.count) →
    0 < delta.count ∧ ∀ other ∈ current, other.candidateSlot = delta.candidateSlot → other.count = delta.count

section Patching

variable {previous current : List VoteCountDelta}

theorem last_change {target : String} {delta : VoteCountDelta}
    (h : (changedCounts previous current).reverse.find? (·.candidateSlot = target) = some delta) :
    delta ∈ changedCounts previous current ∧ delta.candidateSlot = target :=
  ⟨List.mem_reverse.1 (List.mem_of_find?_eq_some h), by simpa using List.find?_some h⟩

theorem exists_last_change {delta : VoteCountDelta} (h : delta ∈ changedCounts previous current) :
    ∃ last, (changedCounts previous current).reverse.find? (·.candidateSlot = delta.candidateSlot) =
      some last :=
  Option.isSome_iff_exists.1
    (List.find?_isSome.2 ⟨delta, List.mem_reverse.2 h, decide_eq_true rfl⟩)

theorem InStep.of_patched (hprevious : (previous.map VoteCountDelta.key).Nodup)
    (h : ∀ row, row ∈ (voteCountDiff previous current).foldl patchVotecount (loadVotecount previous) ↔
      row ∈ loadVotecount current) : InStep previous current := by
  have hpatched {delta : VoteCountDelta} (hdelta : delta ∈ current) :=
    (mem_patched previous current).1 ((h (votecountRow delta)).2
      (loadVotecount_eq current ▸ List.mem_map_of_mem hdelta))
  refine ⟨fun gone hgone hmissing delta hdelta hsame => ?_, fun delta hdelta hnew => ?_⟩
  · exact (hpatched hdelta).2 gone (mem_vanishedCounts.2 ⟨hgone, hmissing⟩) hsame
  · have hchanged := (mem_changedCounts hprevious).2 ⟨hdelta, hnew⟩
    obtain ⟨last, hlast⟩ := exists_last_change hchanged
    have hcount {other : VoteCountDelta} (hother : other ∈ current)
        (hsame : other.candidateSlot = delta.candidateSlot) :
        0 < last.count ∧ other.count = last.count := by
      rcases (hpatched hother).1 with ⟨-, hkept⟩ | ⟨found, hfound, hpositive, hrow⟩
      · exact absurd hsame (hkept delta hchanged)
      · have hfoundLast : some found = some last := by
          rw [← hfound, ← hlast, ← hsame]
          rfl
        obtain rfl := Option.some.inj hfoundLast
        exact ⟨hpositive, congrArg VotecountRow.count hrow⟩
    have hown := hcount hdelta rfl
    refine ⟨hown.2 ▸ hown.1, fun other hother hsame => ?_⟩
    rw [(hcount hother hsame).2, hown.2]

theorem InStep.patched (hprevious : (previous.map VoteCountDelta.key).Nodup)
    (inStep : InStep previous current) (row : VotecountRow) :
    row ∈ (voteCountDiff previous current).foldl patchVotecount (loadVotecount previous) ↔
      row ∈ loadVotecount current := by
  rw [mem_patched, loadVotecount_eq, loadVotecount_eq]
  constructor
  · rintro ⟨⟨hrow, hkept⟩ | ⟨delta, hlast, -, rfl⟩, hnotVanished⟩
    · obtain ⟨old, hold, rfl⟩ := List.mem_map.1 hrow
      have hthere : old.key ∈ current.map VoteCountDelta.key := by
        by_contra hmissing
        exact hnotVanished old (mem_vanishedCounts.2 ⟨hold, hmissing⟩) rfl
      obtain ⟨delta, hdelta, hkey⟩ := List.mem_map.1 hthere
      have hslot : delta.candidateSlot = old.candidateSlot := congrArg Prod.snd hkey
      have hunchanged : ¬ ∀ other ∈ previous, other.key = delta.key → other.count ≠ delta.count :=
        fun hnew => hkept delta ((mem_changedCounts hprevious).2 ⟨hdelta, hnew⟩) hslot.symm
      push Not at hunchanged
      obtain ⟨other, hother, hotherKey, hcount⟩ := hunchanged
      obtain rfl := List.inj_on_of_nodup_map hprevious hother hold (hotherKey.trans hkey)
      refine List.mem_map.2 ⟨delta, hdelta, ?_⟩
      unfold votecountRow
      rw [hslot, hcount]
    · obtain ⟨hchanged, -⟩ := last_change hlast
      exact List.mem_map_of_mem ((mem_changedCounts hprevious).1 hchanged).1
  · intro hrow
    obtain ⟨delta, hdelta, rfl⟩ := List.mem_map.1 hrow
    refine ⟨?_, fun gone hgone hsame => ?_⟩
    · by_cases hsome : ∃ change ∈ changedCounts previous current, change.candidateSlot = delta.candidateSlot
      · obtain ⟨change, hchange, hslot⟩ := hsome
        obtain ⟨last, hlast⟩ := exists_last_change hchange
        rw [hslot] at hlast
        obtain ⟨hlastChanged, hlastSlot⟩ := last_change hlast
        obtain ⟨hlastMem, hlastNew⟩ := (mem_changedCounts hprevious).1 hlastChanged
        obtain ⟨hpositive, hcounts⟩ := inStep.changed last hlastMem hlastNew
        refine .inr ⟨last, hlast, hpositive, ?_⟩
        unfold votecountRow
        rw [hlastSlot, hcounts delta hdelta hlastSlot.symm]
      · have hunchanged : ¬ ∀ old ∈ previous, old.key = delta.key → old.count ≠ delta.count :=
          fun hnew => hsome ⟨delta, (mem_changedCounts hprevious).2 ⟨hdelta, hnew⟩, rfl⟩
        push Not at hunchanged
        obtain ⟨old, hold, hkey, hcount⟩ := hunchanged
        have hslot : old.candidateSlot = delta.candidateSlot := congrArg Prod.snd hkey
        refine .inl ⟨List.mem_map.2 ⟨old, hold, ?_⟩, fun change hchange hsame => ?_⟩
        · unfold votecountRow
          rw [hslot, hcount]
        · exact hsome ⟨change, hchange, hsame.symm⟩
    · obtain ⟨hgone, hmissing⟩ := mem_vanishedCounts.1 hgone
      exact inStep.vanished gone hgone hmissing delta hdelta hsame

/-- **Patching equals loading** exactly if the phases of a candidate do not get into each other's way. -/
theorem patched_iff (change : LiveProjectionChangeSet) (hchange : change.previousVoteCounts = some previous)
    (hprevious : (previous.map VoteCountDelta.key).Nodup) :
    (∀ row, row ∈ (((assembleUpdate change current).map (·.deltas)).getD []).foldl patchVotecount
      (loadVotecount previous) ↔ row ∈ loadVotecount current) ↔ InStep previous current := by
  rw [assembleUpdate_deltas hchange]
  exact ⟨.of_patched hprevious, fun inStep => inStep.patched hprevious⟩

end Patching

/-! ## A day and the next -/

open Domain

/-- A count of a candidate on a day. -/
def dayCount (day : PhaseId) (candidateSlot : String) (count : Int) : VoteCountDelta :=
  { game := 0, phaseId := day, candidateSlot, count }

/-- What a vote leaves dirty, with the counts from before it. -/
def voteChange (previous : List VoteCountDelta) : LiveProjectionChangeSet :=
  { game := 0, previousVoteCounts := some previous }

/-- A vote more for one candidate and none left for another, on the same day. -/
theorem sameDay_patched : { target := "A", count := 2, needed := 7 } ∈ (((assembleUpdate
    (voteChange [dayCount (.first .day) "A" 1, dayCount (.first .day) "B" 1])
      [dayCount (.first .day) "A" 2]).map (·.deltas)).getD []).foldl patchVotecount
        (loadVotecount [dayCount (.first .day) "A" 1, dayCount (.first .day) "B" 1]) :=
  ((patched_iff (voteChange _) rfl (by decide)).2 ⟨by decide, by decide⟩ _).2
    (by decide : _ ∈ loadVotecount [dayCount (.first .day) "A" 2])

/-- The candidate has a vote on the next day, and the page shows none. -/
theorem nextDay_clears : (((assembleUpdate (voteChange [dayCount (.first .day) "A" 2])
      [dayCount (.second .day) "A" 1]).map (·.deltas)).getD []).foldl patchVotecount
        (loadVotecount [dayCount (.first .day) "A" 2]) = [] ∧
    loadVotecount [dayCount (.second .day) "A" 1] = [{ target := "A", count := 1, needed := 7 }] := by
  decide

end Fmarch.Client
