import Mathlib.Logic.Function.Basic

/-!
# Transactions that lock what they write

A table whose rows are added by transactions: what a transaction writes is its own until it commits,
and it writes a row only while it holds the lock that guards the row. Locks are exclusive and are
kept to the end of the transaction.

**`Sound`** is what such a table keeps: a property of the log of each lock, of what every holder of
the lock sees of it, and so of the committed rows. A transaction that extends the log it sees in a
sound way keeps the table sound, whatever the others do in between.
-/

namespace Locking

open Function (update update_self update_of_ne)

/-- Committed rows, the rows each open transaction wrote, and who holds each lock. -/
structure Table (K R : Type) where
  rows : List R := []
  pending : Nat → List R := fun _ => []
  owner : K → Option Nat := fun _ => none

namespace Table

variable {K R : Type} [DecidableEq K]

/-- The transaction takes a lock. -/
def acquire (table : Table K R) (tx : Nat) (key : K) : Table K R :=
  { table with owner := update table.owner key (some tx) }

/-- The transaction writes a row. -/
def write (table : Table K R) (tx : Nat) (row : R) : Table K R :=
  { table with pending := update table.pending tx (table.pending tx ++ [row]) }

/-- The transaction writes several rows. -/
def writeEach (table : Table K R) (tx : Nat) (rows : List R) : Table K R :=
  { table with pending := update table.pending tx (table.pending tx ++ rows) }

/-- The transaction changes rows of its own. -/
def amend (table : Table K R) (tx : Nat) (f : R → R) : Table K R :=
  { table with pending := update table.pending tx ((table.pending tx).map f) }

/-- The transaction ends with these rows committed. -/
def finish (table : Table K R) (tx : Nat) (rows : List R) : Table K R where
  rows := rows
  pending := update table.pending tx []
  owner key := if table.owner key = some tx then none else table.owner key

/-- The transaction commits what it wrote. -/
def commit (table : Table K R) (tx : Nat) : Table K R :=
  table.finish tx (table.rows ++ table.pending tx)

/-- The transaction leaves nothing behind. -/
def rollback (table : Table K R) (tx : Nat) : Table K R := table.finish tx table.rows

/-- The rows a transaction sees. -/
def visible (table : Table K R) (tx : Nat) : List R := table.rows ++ table.pending tx

/-- The row is in the table, committed or not. -/
def Known (table : Table K R) (row : R) : Prop :=
  row ∈ table.rows ∨ ∃ tx, row ∈ table.pending tx

/-- The lock is free, or the transaction's own. -/
def Free (table : Table K R) (tx : Nat) (key : K) : Prop :=
  table.owner key = none ∨ table.owner key = some tx

end Table

section Known

open Table

variable {K R : Type} {table : Table K R} {tx : Nat} {row written : R}

theorem known_of_visible (h : row ∈ table.visible tx) : table.Known row :=
  (List.mem_append.1 h).imp id fun hpending => ⟨tx, hpending⟩

theorem known_write (h : (table.write tx written).Known row) : table.Known row ∨ row = written := by
  rcases h with hrow | ⟨other, hpending⟩
  · exact .inl (.inl hrow)
  · by_cases hother : other = tx
    · subst hother
      have hmem : row ∈ table.pending other ++ [written] := by
        simpa [Table.write] using hpending
      rcases List.mem_append.1 hmem with hold | hnew
      · exact .inl (.inr ⟨other, hold⟩)
      · exact .inr (List.mem_singleton.1 hnew)
    · refine .inl (.inr ⟨other, ?_⟩)
      simpa [Table.write, update_of_ne hother] using hpending

theorem known_finish {rows : List R} (hrows : ∀ row ∈ rows, table.Known row)
    (h : (table.finish tx rows).Known row) : table.Known row := by
  rcases h with hrow | ⟨other, hpending⟩
  · exact hrows row hrow
  · by_cases hother : other = tx
    · subst hother
      simp [Table.finish] at hpending
    · refine .inr ⟨other, ?_⟩
      simpa [Table.finish, update_of_ne hother] using hpending

theorem known_commit (h : (table.commit tx).Known row) : table.Known row :=
  known_finish (fun _ hrow => known_of_visible hrow) h

theorem known_rollback (h : (table.rollback tx).Known row) : table.Known row :=
  known_finish (fun _ hrow => .inl hrow) h

end Known

section Guards

open Table

variable {K R : Type} [DecidableEq K] (guard : R → K)

/-- The rows a lock guards. -/
def logOf (key : K) (rows : List R) : List R := rows.filter fun row => guard row = key

variable {guard}

@[simp] theorem logOf_append (key : K) (rows more : List R) :
    logOf guard key (rows ++ more) = logOf guard key rows ++ logOf guard key more :=
  List.filter_append ..

theorem logOf_singleton_self (row : R) : logOf guard (guard row) [row] = [row] := by
  simp [logOf]

theorem logOf_singleton_other {key : K} {row : R} (h : guard row ≠ key) : logOf guard key [row] = [] := by
  simp [logOf, h]

/-- Every pending row's lock is held by its transaction. -/
def Guarded (guard : R → K) (table : Table K R) : Prop :=
  ∀ tx, ∀ row ∈ table.pending tx, table.owner (guard row) = some tx

theorem Guarded.logOf_pending {table : Table K R} (h : Guarded guard table) {key : K} {tx : Nat}
    (hkey : table.owner key ≠ some tx) : logOf guard key (table.pending tx) = [] := by
  refine List.filter_eq_nil_iff.2 fun row hrow hguard => hkey ?_
  rw [← of_decide_eq_true hguard]
  exact h tx row hrow

/-! ## What one transaction sees of a lock it holds -/

section Views

variable {table : Table K R} {tx other : Nat} {key : K}

/-- A transaction that ends leaves what another one sees of its own locks. -/
theorem Guarded.view_commit (h : Guarded guard table) (hkey : table.owner key = some tx)
    (hother : other ≠ tx) :
    logOf guard key ((table.commit other).visible tx) = logOf guard key (table.visible tx) := by
  have hforeign : logOf guard key (table.pending other) = [] :=
    h.logOf_pending fun hother' => hother (Option.some.inj (hother'.symm.trans hkey))
  unfold Table.commit Table.finish Table.visible
  dsimp only
  rw [update_of_ne (Ne.symm hother), logOf_append, logOf_append, hforeign, List.append_nil, logOf_append]

omit [DecidableEq K] in
theorem view_rollback (hother : other ≠ tx) : (table.rollback other).visible tx = table.visible tx := by
  unfold Table.rollback Table.finish Table.visible
  dsimp only
  rw [update_of_ne (Ne.symm hother)]

omit [DecidableEq K] in
theorem view_write_other (row : R) (hother : other ≠ tx) :
    (table.write other row).visible tx = table.visible tx := by
  unfold Table.write Table.visible
  dsimp only
  rw [update_of_ne (Ne.symm hother)]

omit [DecidableEq K] in
theorem view_write_self (row : R) : (table.write tx row).visible tx = table.visible tx ++ [row] := by
  unfold Table.write Table.visible
  dsimp only
  rw [update_self, List.append_assoc]

omit [DecidableEq K] in
theorem owner_finish_other (rows : List R) (hkey : table.owner key = some tx)
    (hother : other ≠ tx) : (table.finish other rows).owner key = some tx := by
  have hkept : table.owner key ≠ some other := fun h =>
    hother (Option.some.inj (h.symm.trans hkey))
  unfold Table.finish
  dsimp only
  rw [if_neg hkept, hkey]

/-- A lock that is held stays with its holder when another one is taken. -/
theorem owner_acquire {taken : K} (hkey : table.owner key = some tx)
    (hfree : table.Free other taken) (hother : other ≠ tx) :
    (table.acquire other taken).owner key = some tx := by
  have hne : key ≠ taken := by
    rintro rfl
    rcases hfree with hnone | hheld
    · cases hkey.symm.trans hnone
    · exact hother (Option.some.inj (hheld.symm.trans hkey))
  exact (update_of_ne hne _ _).trans hkey

theorem owner_acquire_self (key : K) : (table.acquire tx key).owner key = some tx :=
  update_self ..

theorem owner_acquire_keep {taken : K} (hkey : table.owner key = some tx) :
    (table.acquire tx taken).owner key = some tx := by
  by_cases hne : key = taken
  · subst hne
    exact owner_acquire_self key
  · exact (update_of_ne hne _ _).trans hkey

end Views

/-! ## One transaction's moves -/

/-- What one transaction can do to the table: nothing, take a free lock, write a row it may write,
or end. -/
inductive Move (guard : R → K) (table : Table K R) (tx : Nat) : Table K R → Prop where
  | stay : Move guard table tx table
  | acquire {key : K} (free : table.Free tx key) : Move guard table tx (table.acquire tx key)
  | write {row : R} (held : table.owner (guard row) = some tx) :
      Move guard table tx (table.write tx row)
  | commit : Move guard table tx (table.commit tx)
  | rollback : Move guard table tx (table.rollback tx)

/-- A move of another transaction leaves a transaction its locks, and what it sees of them. -/
theorem Move.frame {table next : Table K R} {tx other : Nat} (h : Move guard table other next)
    (hguarded : Guarded guard table) (hother : other ≠ tx) {key : K}
    (hkey : table.owner key = some tx) :
    next.owner key = some tx ∧ logOf guard key (next.visible tx) = logOf guard key (table.visible tx) := by
  cases h with
  | stay => exact ⟨hkey, rfl⟩
  | acquire hfree => exact ⟨owner_acquire hkey hfree hother, rfl⟩
  | write => exact ⟨hkey, by rw [view_write_other _ hother]⟩
  | commit => exact ⟨owner_finish_other _ hkey hother, hguarded.view_commit hkey hother⟩
  | rollback => exact ⟨owner_finish_other _ hkey hother, by rw [view_rollback hother]⟩

/-! ## Sound logs -/

/-- Every lock's log is sound: what is committed of it, and what its holder sees of it. -/
structure Sound (guard : R → K) (P : K → List R → Prop) (table : Table K R) : Prop where
  guarded : Guarded guard table
  committed : ∀ key, P key (logOf guard key table.rows)
  held : ∀ key tx, table.owner key = some tx → P key (logOf guard key (table.visible tx))

namespace Sound

variable {P : K → List R → Prop} {table : Table K R} {tx : Nat}

theorem empty (h : ∀ key, P key []) : Sound guard P ({} : Table K R) where
  guarded _ _ hrow := absurd hrow List.not_mem_nil
  committed := h
  held _ _ howner := absurd howner (by simp)

theorem acquire (h : Sound guard P table) {key : K} (hfree : table.Free tx key) :
    Sound guard P (table.acquire tx key) where
  guarded other row hrow := by
    have hheld := h.guarded other row hrow
    by_cases hother : other = tx
    · subst hother
      exact owner_acquire_keep hheld
    · exact owner_acquire hheld hfree (Ne.symm hother)
  committed := h.committed
  held other holder howner := by
    by_cases hkey : other = key
    · subst hkey
      obtain rfl := Option.some.inj ((owner_acquire_self other).symm.trans howner)
      rcases hfree with hnone | hheld
      · have hnothing : logOf guard other (table.pending tx) = [] :=
          h.guarded.logOf_pending (by rw [hnone]; simp)
        show P other (logOf guard other (table.rows ++ table.pending tx))
        rw [logOf_append, hnothing, List.append_nil]
        exact h.committed other
      · exact h.held other tx hheld
    · exact h.held other holder ((update_of_ne hkey _ _).symm.trans howner)

theorem write (h : Sound guard P table) {row : R} (hheld : table.owner (guard row) = some tx)
    (hsound : P (guard row) (logOf guard (guard row) (table.visible tx) ++ [row])) :
    Sound guard P (table.write tx row) where
  guarded other written hwritten := by
    by_cases hother : other = tx
    · subst hother
      have hmem : written ∈ table.pending other ++ [row] := by
        simpa [Table.write] using hwritten
      rcases List.mem_append.1 hmem with hold | hnew
      · exact h.guarded other written hold
      · obtain rfl := List.mem_singleton.1 hnew
        exact hheld
    · refine h.guarded other written ?_
      simpa [Table.write, update_of_ne hother] using hwritten
  committed := h.committed
  held key holder howner := by
    by_cases hholder : holder = tx
    · subst hholder
      rw [view_write_self, logOf_append]
      by_cases hkey : guard row = key
      · subst hkey
        rw [logOf_singleton_self]
        exact hsound
      · rw [logOf_singleton_other hkey, List.append_nil]
        exact h.held key holder howner
    · rw [view_write_other row (Ne.symm hholder)]
      exact h.held key holder howner

theorem amend (h : Sound guard P table) {f : R → R} (hguard : ∀ row, guard (f row) = guard row)
    (hsound : ∀ key, table.owner key = some tx → P key (logOf guard key (table.visible tx)) →
      P key (logOf guard key (table.rows ++ (table.pending tx).map f))) :
    Sound guard P (table.amend tx f) where
  guarded other written hwritten := by
    by_cases hother : other = tx
    · subst hother
      have hmem : written ∈ (table.pending other).map f := by
        simpa [Table.amend] using hwritten
      obtain ⟨row, hrow, rfl⟩ := List.mem_map.1 hmem
      rw [hguard]
      exact h.guarded other row hrow
    · refine h.guarded other written ?_
      simpa [Table.amend, update_of_ne hother] using hwritten
  committed := h.committed
  held key holder howner := by
    unfold Table.visible Table.amend
    dsimp only
    by_cases hholder : holder = tx
    · subst hholder
      rw [update_self]
      exact hsound key howner (h.held key holder howner)
    · rw [update_of_ne hholder]
      exact h.held key holder howner

theorem finish_guarded (h : Sound guard P table) (rows : List R) : Guarded guard (table.finish tx rows) := by
  intro other row hrow
  by_cases hother : other = tx
  · subst hother
    simp [Table.finish] at hrow
  · have hold : row ∈ table.pending other := by
      simpa [Table.finish, update_of_ne hother] using hrow
    exact owner_finish_other rows (h.guarded other row hold) (Ne.symm hother)

omit [DecidableEq K] in
theorem owner_of_finish {rows : List R} {key : K} {holder : Nat}
    (howner : (table.finish tx rows).owner key = some holder) :
    table.owner key = some holder ∧ holder ≠ tx := by
  unfold Table.finish at howner
  dsimp only at howner
  split at howner
  · cases howner
  · rename_i hkept
    exact ⟨howner, fun heq => hkept (heq ▸ howner)⟩

theorem commit (h : Sound guard P table) : Sound guard P (table.commit tx) where
  guarded := h.finish_guarded _
  committed key := by
    by_cases hkey : table.owner key = some tx
    · exact h.held key tx hkey
    · show P key (logOf guard key (table.rows ++ table.pending tx))
      rw [logOf_append, h.guarded.logOf_pending hkey, List.append_nil]
      exact h.committed key
  held key holder howner := by
    obtain ⟨hbefore, hother⟩ := owner_of_finish howner
    rw [h.guarded.view_commit hbefore (Ne.symm hother)]
    exact h.held key holder hbefore

theorem rollback (h : Sound guard P table) : Sound guard P (table.rollback tx) where
  guarded := h.finish_guarded _
  committed := h.committed
  held key holder howner := by
    obtain ⟨hbefore, hother⟩ := owner_of_finish howner
    rw [view_rollback (Ne.symm hother)]
    exact h.held key holder hbefore

end Sound

end Guards

end Locking
