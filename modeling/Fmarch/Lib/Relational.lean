import Mathlib.Data.List.Pairwise

/-!
# Tables and queries

Rows as a list, in the order they were inserted. A query is a join filtered by a condition; a unique
index is a key some rows have, and no two rows of a table share it.

**`mem_join`** reads a join back as the condition on its rows. **`Distinct.insertRow`**,
**`Distinct.map`** and **`Distinct.filter`** keep the unique indexes of a table through an insertion, an
update and a deletion; **`Distinct.length_filter_le_one`** is what an index is for.

An insertion that skips what clashes adds all of its rows when rows that clash are equal
(**`mem_insertMissing`**). So does one that first deletes what it is about to derive again
(**`mem_replaceWhere`**).
-/

namespace Relational

variable {α β κ : Type}

/-! ## Queries -/

/-- `left JOIN right ON condition`. -/
def join (left : List α) (right : List β) (condition : α → β → Bool) : List (α × β) :=
  left.flatMap fun a => (right.filter (condition a)).map (Prod.mk a)

theorem mem_join {left : List α} {right : List β} {condition : α → β → Bool} {a : α} {b : β} :
    (a, b) ∈ join left right condition ↔ a ∈ left ∧ b ∈ right ∧ condition a b = true := by
  unfold join
  constructor
  · intro h
    obtain ⟨a', ha', h⟩ := List.mem_flatMap.1 h
    obtain ⟨b', hb', heq⟩ := List.mem_map.1 h
    obtain ⟨rfl, rfl⟩ := Prod.mk.inj heq
    exact ⟨ha', List.mem_filter.1 hb'⟩
  · rintro ⟨ha, hb, hcondition⟩
    exact List.mem_flatMap.2 ⟨a, ha, List.mem_map.2 ⟨b, List.mem_filter.2 ⟨hb, hcondition⟩, rfl⟩⟩

/-! ## Unique indexes -/

/-- Two rows with one key. A row outside a partial index has none. -/
def sameKey [DecidableEq κ] (key : α → Option κ) (a b : α) : Bool :=
  (key a).isSome && decide (key a = key b)

theorem sameKey_iff [DecidableEq κ] {key : α → Option κ} {a b : α} :
    sameKey key a b = true ↔ ∃ k, key a = some k ∧ key b = some k := by
  unfold sameKey
  constructor
  · intro h
    obtain ⟨hsome, heq⟩ := Bool.and_eq_true _ _ ▸ h
    obtain ⟨k, hk⟩ := Option.isSome_iff_exists.1 hsome
    exact ⟨k, hk, (of_decide_eq_true heq).symm.trans hk⟩
  · rintro ⟨k, ha, hb⟩
    simp [ha, hb]

theorem sameKey_comm [DecidableEq κ] (key : α → Option κ) (a b : α) : sameKey key a b = sameKey key b a := by
  rw [Bool.eq_iff_iff, sameKey_iff, sameKey_iff]
  exact ⟨fun ⟨k, ha, hb⟩ => ⟨k, hb, ha⟩, fun ⟨k, hb, ha⟩ => ⟨k, ha, hb⟩⟩

/-- No two rows of the table clash. -/
def Distinct (clash : α → α → Bool) (rows : List α) : Prop :=
  rows.Pairwise fun a b => clash a b = false

/-- `INSERT`, which fails on a clash. -/
def insertRow (clash : α → α → Bool) (rows : List α) (row : α) : Option (List α) :=
  if rows.any (clash · row) then none else some (rows ++ [row])

theorem insertRow_eq_some {clash : α → α → Bool} {rows rows' : List α} {row : α} :
    insertRow clash rows row = some rows' ↔
      (∀ old ∈ rows, clash old row = false) ∧ rows' = rows ++ [row] := by
  unfold insertRow
  constructor
  · intro h
    split at h
    case isTrue => cases h
    case isFalse hany =>
      refine ⟨fun old hold => ?_, (Option.some.inj h).symm⟩
      exact Bool.eq_false_iff.2 fun hclash => hany (List.any_eq_true.2 ⟨old, hold, hclash⟩)
  · rintro ⟨hfree, rfl⟩
    rw [if_neg]
    rintro hany
    obtain ⟨old, hold, hclash⟩ := List.any_eq_true.1 hany
    exact absurd hclash (by simp [hfree old hold])

namespace Distinct

variable {clash : α → α → Bool} {rows rows' : List α}

theorem insertRow {row : α} (h : Distinct clash rows)
    (hrow : insertRow clash rows row = some rows') : Distinct clash rows' := by
  obtain ⟨hfree, rfl⟩ := insertRow_eq_some.1 hrow
  refine List.pairwise_append.2 ⟨h, List.pairwise_singleton _ _, fun old hold new hnew => ?_⟩
  obtain rfl := List.mem_singleton.1 hnew
  exact hfree old hold

theorem map {f : α → α} (h : Distinct clash rows)
    (hf : ∀ a b, clash (f a) (f b) = true → clash a b = true) : Distinct clash (rows.map f) := by
  refine List.pairwise_map.2 (List.Pairwise.imp (fun {a b} hab => ?_) h)
  exact Bool.eq_false_iff.2 fun hclash => absurd (hf a b hclash) (by simp [hab])

theorem filter (h : Distinct clash rows) (p : α → Bool) : Distinct clash (rows.filter p) :=
  List.Pairwise.filter p h

theorem eq_of_clash (h : Distinct clash rows) (hcomm : ∀ a b, clash a b = clash b a) {a b : α}
    (ha : a ∈ rows) (hb : b ∈ rows) (hclash : clash a b = true) : a = b := by
  by_contra hne
  have hsymm : Std.Symm fun a b : α => clash a b = false :=
    ⟨fun a b hab => (hcomm b a).trans hab⟩
  have hfree : clash a b = false := List.Pairwise.forall h ha hb hne
  exact absurd hclash (by simp [hfree])

/-- Of rows that all clash there is at most one. -/
theorem length_filter_le_one (h : Distinct clash rows) {p : α → Bool}
    (hp : ∀ a ∈ rows, ∀ b ∈ rows, p a = true → p b = true → clash a b = true) :
    (rows.filter p).length ≤ 1 := by
  have hpairs := h.filter p
  have hkept : ∀ row ∈ rows.filter p, row ∈ rows ∧ p row = true := fun _ => List.mem_filter.1
  unfold Distinct at hpairs
  cases hlist : rows.filter p with
  | nil => exact Nat.zero_le _
  | cons a rest =>
    cases rest with
    | nil => exact Nat.le_refl 1
    | cons b rest =>
      rw [hlist] at hpairs hkept
      obtain ⟨harows, ha⟩ := hkept a List.mem_cons_self
      obtain ⟨hbrows, hb⟩ := hkept b (List.mem_cons_of_mem _ List.mem_cons_self)
      have hfree : clash a b = false := List.rel_of_pairwise_cons hpairs List.mem_cons_self
      exact absurd (hp a harows b hbrows ha hb) (by simp [hfree])

end Distinct

/-! ## Insertions that skip what clashes -/

/-- `INSERT … ON CONFLICT DO NOTHING` of one row. -/
def insertIgnore (clash : α → α → Bool) (rows : List α) (row : α) : List α :=
  if rows.any (clash · row) then rows else rows ++ [row]

/-- `INSERT … SELECT … ON CONFLICT DO NOTHING`. -/
def insertMissing (clash : α → α → Bool) (rows new : List α) : List α :=
  new.foldl (insertIgnore clash) rows

/-- `DELETE … WHERE`, then the insertion of what is derived again. -/
def replaceWhere (clash : α → α → Bool) (stale : α → Bool) (rows new : List α) : List α :=
  insertMissing clash (rows.filter fun row => !stale row) new

section Missing

variable {clash : α → α → Bool} {rows new : List α} {row : α}

theorem prefix_insertIgnore (clash : α → α → Bool) (rows : List α) (row : α) :
    rows <+: insertIgnore clash rows row := by
  unfold insertIgnore
  split
  · exact List.prefix_refl rows
  · exact List.prefix_append rows [row]

theorem prefix_insertMissing (clash : α → α → Bool) (rows new : List α) :
    rows <+: insertMissing clash rows new := by
  induction new generalizing rows with
  | nil => exact List.prefix_refl rows
  | cons row new ih => exact (prefix_insertIgnore clash rows row).trans (ih _)

theorem of_mem_insertIgnore {row' : α} (h : row' ∈ insertIgnore clash rows row) :
    row' ∈ rows ∨ row' = row := by
  unfold insertIgnore at h
  split at h
  · exact .inl h
  · exact (List.mem_append.1 h).imp_right List.mem_singleton.1

theorem of_mem_insertMissing (h : row ∈ insertMissing clash rows new) : row ∈ rows ∨ row ∈ new := by
  induction new generalizing rows with
  | nil => exact .inl h
  | cons next new ih =>
    rcases ih h with hmem | hmem
    · rcases of_mem_insertIgnore hmem with hmem | rfl
      · exact .inl hmem
      · exact .inr List.mem_cons_self
    · exact .inr (List.mem_cons_of_mem next hmem)

/-- Of a row that was to be inserted there is one with its key. -/
theorem exists_clash_insertMissing (hrefl : ∀ a, clash a a = true) (h : row ∈ new) :
    ∃ old ∈ insertMissing clash rows new, clash old row = true := by
  induction new generalizing rows with
  | nil => exact absurd h List.not_mem_nil
  | cons next new ih =>
    rcases List.mem_cons.1 h with rfl | hmem
    · have hthere : ∃ old ∈ insertIgnore clash rows row, clash old row = true := by
        unfold insertIgnore
        split
        case isTrue hany => exact List.any_eq_true.1 hany
        case isFalse => exact ⟨row, List.mem_append_right rows List.mem_cons_self, hrefl row⟩
      obtain ⟨old, hold, hclash⟩ := hthere
      exact ⟨old, (prefix_insertMissing clash _ new).subset hold, hclash⟩
    · exact ih hmem

/-- Where rows that clash are equal, nothing is skipped that was not there. -/
theorem mem_insertMissing (hrefl : ∀ a, clash a a = true)
    (heq : ∀ old, old ∈ rows ∨ old ∈ new → ∀ row ∈ new, clash old row = true → old = row) :
    row ∈ insertMissing clash rows new ↔ row ∈ rows ∨ row ∈ new := by
  constructor
  · exact of_mem_insertMissing
  · rintro (h | h)
    · exact (prefix_insertMissing clash rows new).subset h
    · obtain ⟨old, hold, hclash⟩ := @exists_clash_insertMissing _ clash rows new row hrefl h
      obtain rfl := heq old (of_mem_insertMissing hold) row h hclash
      exact hold

/-- What is derived again replaces what was stale, if it is stale by its key. -/
theorem mem_replaceWhere {stale : α → Bool} (hrefl : ∀ a, clash a a = true)
    (hkey : ∀ a b, clash a b = true → stale a = stale b) (hnew : ∀ row ∈ new, stale row = true)
    (heq : ∀ old ∈ new, ∀ row ∈ new, clash old row = true → old = row) :
    row ∈ replaceWhere clash stale rows new ↔ (row ∈ rows ∧ stale row = false) ∨ row ∈ new := by
  unfold replaceWhere
  rw [mem_insertMissing hrefl, List.mem_filter, Bool.not_eq_true']
  rintro old (hold | hold) row hrow hclash
  · have hkept := (List.mem_filter.1 hold).2
    rw [hkey old row hclash, hnew row hrow] at hkept
    cases hkept
  · exact heq old hold row hrow hclash

theorem Distinct.insertIgnore (h : Distinct clash rows) (row : α) :
    Distinct clash (insertIgnore clash rows row) := by
  unfold Relational.insertIgnore
  split
  case isTrue => exact h
  case isFalse hany =>
    have hfree : Relational.insertRow clash rows row = some (rows ++ [row]) := if_neg hany
    exact h.insertRow hfree

theorem Distinct.insertMissing (h : Distinct clash rows) (new : List α) :
    Distinct clash (insertMissing clash rows new) := by
  induction new generalizing rows with
  | nil => exact h
  | cons row new ih => exact ih (h.insertIgnore row)

theorem Distinct.replaceWhere (h : Distinct clash rows) (stale : α → Bool) (new : List α) :
    Distinct clash (replaceWhere clash stale rows new) :=
  (h.filter _).insertMissing new

/-! A part of the table that a key belongs to or not is inserted into on its own. -/

theorem filter_insertIgnore {part : α → Bool} (hkey : ∀ a b, clash a b = true → part a = part b)
    (hrow : part row = true) :
    (insertIgnore clash rows row).filter part = insertIgnore clash (rows.filter part) row := by
  have hany : (rows.filter part).any (clash · row) = rows.any (clash · row) := by
    rw [Bool.eq_iff_iff, List.any_eq_true, List.any_eq_true]
    constructor
    · rintro ⟨old, hold, hclash⟩
      exact ⟨old, (List.mem_filter.1 hold).1, hclash⟩
    · rintro ⟨old, hold, hclash⟩
      exact ⟨old, List.mem_filter.2 ⟨hold, (hkey old row hclash).trans hrow⟩, hclash⟩
  unfold insertIgnore
  rw [hany]
  split
  · rfl
  · rw [List.filter_append]
    simp [hrow]

theorem filter_insertMissing {part : α → Bool} (hkey : ∀ a b, clash a b = true → part a = part b)
    (hnew : ∀ row ∈ new, part row = true) :
    (insertMissing clash rows new).filter part = insertMissing clash (rows.filter part) new := by
  induction new generalizing rows with
  | nil => rfl
  | cons row new ih =>
    obtain ⟨hrow, hrest⟩ := List.forall_mem_cons.1 hnew
    exact (ih hrest).trans (congrArg (insertMissing clash · new) (filter_insertIgnore hkey hrow))

/-- The rest of the table stays as it was. -/
theorem filter_insertMissing_of_not {part : α → Bool} (hnew : ∀ row ∈ new, part row = false) :
    (insertMissing clash rows new).filter part = rows.filter part := by
  induction new generalizing rows with
  | nil => rfl
  | cons row new ih =>
    obtain ⟨hrow, hrest⟩ := List.forall_mem_cons.1 hnew
    refine (ih hrest).trans ?_
    unfold insertIgnore
    split
    · rfl
    · rw [List.filter_append]
      simp [hrow]

theorem filter_replaceWhere_of_not {part stale : α → Bool}
    (hstale : ∀ row, part row = true → stale row = false) (hnew : ∀ row ∈ new, part row = false) :
    (replaceWhere clash stale rows new).filter part = rows.filter part := by
  unfold replaceWhere
  rw [filter_insertMissing_of_not hnew, List.filter_filter]
  refine List.filter_congr fun row _ => ?_
  cases hpart : part row with
  | false => rfl
  | true => simp [hstale row hpart]

end Missing

end Relational
