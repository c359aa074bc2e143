import Mathlib.Data.Option.Basic

/-!
# Rows under a primary key

A table whose rows are found by their primary key, as the partial map from keys to rows: one row a key,
whatever is written. Each statement is a function on the map, and each has one lemma that says which row
a key has afterwards.
-/

/-- The row of each key. -/
abbrev Rows (κ α : Type) := κ → Option α

namespace Rows

variable {κ α : Type}

/-- A table without rows. -/
def empty : Rows κ α := fun _ => none

/-- `INSERT … ON CONFLICT DO UPDATE` of the whole row. -/
def upsert [DecidableEq κ] (rows : Rows κ α) (key : κ) (row : α) : Rows κ α :=
  fun k => if k = key then some row else rows k

/-- `INSERT`: refused if the key is taken. -/
def insert [DecidableEq κ] (rows : Rows κ α) (key : κ) (row : α) : Option (Rows κ α) :=
  match rows key with
  | none => some (rows.upsert key row)
  | some _ => none

/-- `UPDATE`, of the rows whose key is chosen. -/
def update (rows : Rows κ α) (chosen : κ → Bool) (change : κ → α → α) : Rows κ α :=
  fun k => if chosen k then (rows k).map (change k) else rows k

/-- `DELETE`, of the rows whose key is chosen. -/
def delete (rows : Rows κ α) (chosen : κ → Bool) : Rows κ α :=
  fun k => if chosen k then none else rows k

/-- `DELETE`, of the rows chosen by what is in them. -/
def deleteWhere (rows : Rows κ α) (chosen : α → Bool) : Rows κ α :=
  fun k => (rows k).filter (!chosen ·)

variable {rows rows' : Rows κ α} {key k : κ} {row : α}

@[simp] theorem empty_apply : (empty : Rows κ α) k = none := rfl

section Insert

variable [DecidableEq κ]

@[simp] theorem upsert_self : rows.upsert key row key = some row := if_pos rfl

@[simp] theorem upsert_of_ne (h : k ≠ key) : rows.upsert key row k = rows k := if_neg h

theorem insert_eq_some :
    rows.insert key row = some rows' ↔ rows key = none ∧ rows' = rows.upsert key row := by
  unfold insert
  cases hkey : rows key with
  | none => simp [eq_comm]
  | some old => simp

end Insert

variable {chosen : κ → Bool}

@[simp] theorem update_of_not {change : κ → α → α} (h : chosen k = false) :
    rows.update chosen change k = rows k := by
  simp [update, h]

theorem update_of_chosen {change : κ → α → α} (h : chosen k = true) :
    rows.update chosen change k = (rows k).map (change k) := by
  simp [update, h]

@[simp] theorem delete_of_not (h : chosen k = false) : rows.delete chosen k = rows k := by
  simp [delete, h]

@[simp] theorem delete_of_chosen (h : chosen k = true) : rows.delete chosen k = none := by
  simp [delete, h]

end Rows
