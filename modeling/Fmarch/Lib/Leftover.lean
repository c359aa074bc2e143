import Mathlib.Data.Option.Basic

/-!
# Replaying a log over leftovers

A table with a primary key is a map from its keys to rows. A log that is replayed over a table that was
not emptied writes what it writes over an empty one, but a cell it does not touch keeps the row it had,
and so may a column that an upsert leaves alone.

**`Overlaid.eq_iff`**: the replay ends in the table a replay from nothing gives exactly if every leftover
row is in a cell the log touches, and agrees there on what the writes keep.
-/

namespace Leftover

variable {κ ρ φ : Type}

/-- What a touched cell holds after a replay: `merge prior fresh` of the row it had and the row a replay
from nothing gives. -/
abbrev Merge (ρ : Type) := Option ρ → Option ρ → Option ρ

/-- A replay over a table, beside one from nothing. -/
def Overlaid (merge : κ → Merge ρ) (touched : κ → Prop) (prior fresh run : κ → Option ρ) : Prop :=
  ∀ k, (touched k → run k = merge k (prior k) (fresh k)) ∧ (¬ touched k → run k = prior k ∧ fresh k = none)

/-- A write keeps of a row what `merge` says. -/
structure Respects (merge : Merge ρ) (write : Option ρ → Option ρ) : Prop where
  first : ∀ prior, write prior = merge prior (write none)
  later : ∀ prior fresh, write (merge prior fresh) = merge prior (write fresh)

/-! ## Kinds of writes -/

/-- Rows that are written and deleted as a whole. -/
def overwrite : Merge ρ := fun _ fresh => fresh

theorem Respects.overwrite (row : Option ρ) : Respects (overwrite (ρ := ρ)) fun _ => row :=
  ⟨fun _ => rfl, fun _ _ => rfl⟩

/-- Rows that are only inserted. -/
def insertMissing : Merge ρ := fun prior fresh => prior.or fresh

theorem Respects.insertMissing (row : ρ) : Respects (insertMissing (ρ := ρ)) fun old => old.or (some row) :=
  ⟨fun _ => by simp [Leftover.insertMissing], fun _ _ => by simp [Leftover.insertMissing]⟩

/-- Rows of which an upsert keeps a column. -/
def keepColumn (get : ρ → φ) (set : φ → ρ → ρ) : Merge ρ
  | none, fresh => fresh
  | some old, none => some old
  | some old, some fresh => some (set (get old) fresh)

/-- An upsert that keeps a column of the row it finds. -/
def upsertKeeping (get : ρ → φ) (set : φ → ρ → ρ) (new : ρ) : Option ρ → Option ρ
  | none => some new
  | some old => some (set (get old) new)

theorem Respects.upsertKeeping {get : ρ → φ} {set : φ → ρ → ρ} (hget : ∀ v row, get (set v row) = v)
    (hset : ∀ v w row, set v (set w row) = set v row) (new : ρ) :
    Respects (keepColumn get set) (upsertKeeping get set new) := by
  constructor
  · intro prior
    cases prior <;> rfl
  · intro prior fresh
    cases prior with
    | none => rfl
    | some old =>
      cases fresh with
      | none => rfl
      | some row => simp [keepColumn, Leftover.upsertKeeping, hget, hset]

/-! ## The replay -/

variable {merge : κ → Merge ρ} {touched : κ → Prop} {prior fresh run : κ → Option ρ}

theorem Overlaid.start (merge : κ → Merge ρ) (prior : κ → Option ρ) :
    Overlaid merge (fun _ => False) prior (fun _ => none) prior :=
  fun _ => ⟨False.elim, fun _ => ⟨rfl, rfl⟩⟩

theorem Overlaid.congr {touched' : κ → Prop} (h : Overlaid merge touched prior fresh run)
    (htouched : ∀ k, touched k ↔ touched' k) : Overlaid merge touched' prior fresh run :=
  fun k => ⟨fun hk => (h k).1 ((htouched k).2 hk), fun hk => (h k).2 fun hk' => hk ((htouched k).1 hk')⟩

/-- One write to a cell. -/
theorem Overlaid.write [DecidableEq κ] (h : Overlaid merge touched prior fresh run) {k : κ}
    {write : Option ρ → Option ρ} (respects : Respects (merge k) write) :
    Overlaid merge (fun k' => touched k' ∨ k' = k) prior
      (Function.update fresh k (write (fresh k))) (Function.update run k (write (run k))) := by
  intro k'
  by_cases hk : k' = k
  · subst hk
    refine ⟨fun _ => ?_, fun hnot => absurd (.inr rfl) hnot⟩
    rw [Function.update_self, Function.update_self]
    by_cases htouched : touched k'
    · rw [(h k').1 htouched, respects.later]
    · obtain ⟨hrun, hfresh⟩ := (h k').2 htouched
      rw [hrun, hfresh, respects.first]
  · rw [Function.update_of_ne hk, Function.update_of_ne hk]
    exact ⟨fun htouched => (h k').1 (htouched.resolve_right hk),
      fun hnot => (h k').2 fun htouched => hnot (.inl htouched)⟩

/-- One write of a row, where the log's rows are never deleted. -/
theorem Overlaid.insert [DecidableEq κ] (h : Overlaid merge (fun k => fresh k ≠ none) prior fresh run) {k : κ}
    {write : Option ρ → Option ρ} (respects : Respects (merge k) write)
    (hwrites : ∀ old, write old ≠ none) :
    Overlaid merge (fun k' => Function.update fresh k (write (fresh k)) k' ≠ none) prior
      (Function.update fresh k (write (fresh k))) (Function.update run k (write (run k))) := by
  refine (h.write respects).congr fun k' => ?_
  by_cases hk : k' = k
  · subst hk
    rw [Function.update_self]
    exact ⟨fun _ => hwrites _, fun _ => .inr rfl⟩
  · rw [Function.update_of_ne hk]
    exact ⟨fun htouched => htouched.resolve_right hk, .inl⟩

/-- **The two replays end alike exactly if every leftover row is in a touched cell, with what the writes
keep.** -/
theorem Overlaid.eq_iff (h : Overlaid merge touched prior fresh run)
    (hnone : ∀ k fresh, merge k none fresh = fresh) :
    run = fresh ↔ ∀ k row, prior k = some row → touched k ∧ merge k (some row) (fresh k) = fresh k := by
  constructor
  · intro heq k row hrow
    by_cases htouched : touched k
    · refine ⟨htouched, ?_⟩
      have hk := (h k).1 htouched
      rw [heq, hrow] at hk
      exact hk.symm
    · obtain ⟨hrun, hfresh⟩ := (h k).2 htouched
      rw [heq, hfresh, hrow] at hrun
      cases hrun
  · intro hsupported
    funext k
    cases hprior : prior k with
    | some row =>
      obtain ⟨htouched, hmerge⟩ := hsupported k row hprior
      rw [(h k).1 htouched, hprior, hmerge]
    | none =>
      by_cases htouched : touched k
      · rw [(h k).1 htouched, hprior, hnone]
      · obtain ⟨hrun, hfresh⟩ := (h k).2 htouched
        rw [hrun, hfresh, hprior]

end Leftover
