import Fmarch.Lib.Keyed
import Mathlib.Data.List.Sort

/-!
# Stable sorting and first minima

`sortBy cmp` is a stable sort by a comparator; `minIndexBy p cmp` is the position of the first
minimum among the entries satisfying `p`. Both are how a program picks "the oldest entry that
qualifies": sort once and take the first match, or search the unsorted list for the minimum.

**`find?_sortBy`**: the two searches find the same entry. **`updateFirst_sortBy`**: rewriting it
in the sorted list gives the sort of the list in which the minimum was rewritten, when the rewrite
does not change how entries compare. So the two representations stay in step for ever.
-/

namespace StableSort

open Keyed

variable {α : Type}

/-- `slice::sort_by`: a stable sort by a comparator. -/
def sortBy (cmp : α → α → Ordering) (xs : List α) : List α :=
  xs.insertionSort fun a b => (cmp a b).isLE = true

/-- `filter(p).min_by(cmp)`: the position and value of the first minimum among the entries
satisfying `p`. -/
def minIndexBy (p : α → Bool) (cmp : α → α → Ordering) : List α → Option (Nat × α)
  | [] => none
  | x :: xs =>
    match minIndexBy p cmp xs with
    | none => if p x then some (0, x) else none
    | some (i, y) => if p x && (cmp x y).isLE then some (0, x) else some (i + 1, y)

theorem minIndexBy_cons (p : α → Bool) (cmp : α → α → Ordering) (x : α) (xs : List α) :
    minIndexBy p cmp (x :: xs) = match minIndexBy p cmp xs with
      | none => if p x then some (0, x) else none
      | some (i, y) => if p x && (cmp x y).isLE then some (0, x) else some (i + 1, y) := rfl

theorem sortBy_perm (cmp : α → α → Ordering) (xs : List α) : (sortBy cmp xs).Perm xs :=
  List.perm_insertionSort _ xs

@[simp] theorem mem_sortBy {cmp : α → α → Ordering} {x : α} {xs : List α} : x ∈ sortBy cmp xs ↔ x ∈ xs :=
  (sortBy_perm cmp xs).mem_iff

/-! ## First minima -/

section MinIndex

variable {p q : α → Bool} {cmp : α → α → Ordering}

variable {xs : List α} {i : Nat} {r : α}

theorem minIndexBy_none : minIndexBy p cmp xs = none ↔ ∀ x ∈ xs, p x = false := by
  induction xs with
  | nil => simp [minIndexBy]
  | cons x xs ih =>
    rw [minIndexBy_cons]
    cases hrest : minIndexBy p cmp xs with
    | none =>
      have hnone := ih.1 hrest
      cases hx : p x <;> simp [hx]
      exact hnone
    | some found =>
      have hsome : ¬ ∀ x ∈ xs, p x = false := fun h => by simp [ih.2 h] at hrest
      constructor
      · intro h
        simp only [ite_eq_iff, reduceCtorEq, and_false, or_self] at h
      · intro h
        exact absurd (fun y hy => h y (List.mem_cons_of_mem x hy)) hsome

/-- The position found holds the entry found, and the entry satisfies the predicate. -/
theorem minIndexBy_some (h : minIndexBy p cmp xs = some (i, r)) : xs[i]? = some r ∧ p r = true := by
  induction xs generalizing i r with
  | nil => simp [minIndexBy] at h
  | cons x xs ih =>
    rw [minIndexBy_cons] at h
    cases hrest : minIndexBy p cmp xs with
    | none =>
      rw [hrest] at h
      cases hx : p x <;> simp [hx] at h
      obtain ⟨rfl, rfl⟩ := h
      exact ⟨rfl, hx⟩
    | some found =>
      obtain ⟨j, y⟩ := found
      simp only [hrest] at h
      split at h
      · rename_i hle
        obtain ⟨rfl, rfl⟩ := Prod.mk.inj (Option.some.inj h)
        exact ⟨rfl, (Bool.and_eq_true_iff.1 hle).1⟩
      · obtain ⟨rfl, rfl⟩ := Prod.mk.inj (Option.some.inj h)
        simpa using ih hrest

theorem minIndexBy_le [Std.TransCmp cmp] (h : minIndexBy p cmp xs = some (i, r)) {z : α}
    (hz : z ∈ xs) (hpz : p z = true) :
    (cmp r z).isLE = true := by
  induction xs generalizing i r with
  | nil => exact absurd hz List.not_mem_nil
  | cons x xs ih =>
    rw [minIndexBy_cons] at h
    cases hrest : minIndexBy p cmp xs with
    | none =>
      rw [hrest] at h
      rcases List.mem_cons.1 hz with rfl | htail
      · simp only [hpz, if_true, Option.some.injEq, Prod.mk.injEq] at h
        rw [← h.2]
        exact Std.ReflCmp.isLE_rfl
      · rw [minIndexBy_none.1 hrest z htail] at hpz
        cases hpz
    | some found =>
      obtain ⟨j, y⟩ := found
      simp only [hrest] at h
      split at h
      · rename_i hle
        obtain ⟨rfl, rfl⟩ := Prod.mk.inj (Option.some.inj h)
        rcases List.mem_cons.1 hz with rfl | htail
        · exact Std.ReflCmp.isLE_rfl
        · exact Std.TransCmp.isLE_trans (Bool.and_eq_true_iff.1 hle).2 (ih hrest htail)
      · rename_i hnot
        obtain ⟨rfl, rfl⟩ := Prod.mk.inj (Option.some.inj h)
        rcases List.mem_cons.1 hz with rfl | htail
        · rw [hpz, Bool.true_and] at hnot
          have hgt : cmp z y = .gt := by
            cases hc : cmp z y <;> simp [hc] at hnot ⊢
          rw [Std.OrientedCmp.gt_iff_lt] at hgt
          simp [hgt]
        · exact ih hrest htail

/-- Searching among fewer entries finds the same one when it is still among them. -/
theorem minIndexBy_of_imp [Std.TransCmp cmp] (hqp : ∀ x, q x = true → p x = true)
    (h : minIndexBy p cmp xs = some (i, r)) (hr : q r = true) :
    minIndexBy q cmp xs = some (i, r) := by
  induction xs generalizing i r with
  | nil => simp [minIndexBy] at h
  | cons x xs ih =>
    rw [minIndexBy_cons] at h ⊢
    cases hrest : minIndexBy p cmp xs with
    | none =>
      rw [hrest] at h
      have hq : minIndexBy q cmp xs = none := minIndexBy_none.2 fun z hz => by
        cases hqz : q z
        · rfl
        · exact absurd (hqp z hqz) (by simp [minIndexBy_none.1 hrest z hz])
      cases hx : p x <;> simp [hx] at h
      obtain ⟨rfl, rfl⟩ := h
      simp [hq, hr]
    | some found =>
      obtain ⟨j, y⟩ := found
      simp only [hrest] at h
      split at h
      · rename_i hle
        obtain ⟨rfl, rfl⟩ := Prod.mk.inj (Option.some.inj h)
        cases hq : minIndexBy q cmp xs with
        | none => simp [hr]
        | some foundq =>
          obtain ⟨k, z⟩ := foundq
          obtain ⟨hget, hqz⟩ := minIndexBy_some hq
          have hyz := minIndexBy_le hrest (List.mem_of_getElem? hget) (hqp z hqz)
          have hxz := Std.TransCmp.isLE_trans (Bool.and_eq_true_iff.1 hle).2 hyz
          simp [hr, hxz]
      · rename_i hnot
        obtain ⟨rfl, rfl⟩ := Prod.mk.inj (Option.some.inj h)
        rw [ih hrest hr]
        have hqx : (q x && (cmp x y).isLE) = false := by
          cases hqx : q x
          · rfl
          · simpa [hqp x hqx] using hnot
        simp [hqx]

/-- The search only depends on how qualifying entries compare with each other. -/
theorem minIndexBy_congr {cmp' : α → α → Ordering}
    (hcmp : ∀ x y, p x = true → p y = true → cmp x y = cmp' x y) (xs : List α) :
    minIndexBy p cmp xs = minIndexBy p cmp' xs := by
  induction xs with
  | nil => rfl
  | cons x xs ih =>
    rw [minIndexBy_cons, minIndexBy_cons, ih]
    cases hrest : minIndexBy p cmp' xs with
    | none => rfl
    | some found =>
      obtain ⟨j, y⟩ := found
      have hy := (minIndexBy_some hrest).2
      cases hx : p x
      · simp
      · simp [hcmp x y hx hy]

end MinIndex

/-! ## Searching the sorted list -/

section OrderedInsert

variable {r : α → α → Prop} [DecidableRel r] {p : α → Bool} {f : α → α}

variable {xs : List α}

theorem find?_orderedInsert [IsTrans α r] (x : α) (hxs : xs.Pairwise r) : (xs.orderedInsert r x).find? p =
      match xs.find? p with
      | none => if p x then some x else none
      | some y => if p x ∧ r x y then some x else some y := by
  induction xs with
  | nil => cases hx : p x <;> simp [hx]
  | cons b xs ih =>
    obtain ⟨hb, hxs⟩ := List.pairwise_cons.1 hxs
    rw [List.orderedInsert_cons]
    by_cases hxb : r x b
    · rw [if_pos hxb]
      cases hx : p x
      · rw [List.find?_cons_of_neg (by simp [hx])]
        cases hfind : (b :: xs).find? p <;> simp
      · rw [List.find?_cons_of_pos (by simp [hx])]
        cases hfind : (b :: xs).find? p with
        | none => simp
        | some y =>
          have hxy : r x y := by
            rcases List.mem_cons.1 (List.mem_of_find?_eq_some hfind) with rfl | htail
            · exact hxb
            · exact IsTrans.trans _ _ _ hxb (hb y htail)
          simp [hxy]
    · rw [if_neg hxb]
      cases hpb : p b
      · rw [List.find?_cons_of_neg (by simp [hpb]), List.find?_cons_of_neg (by simp [hpb])]
        exact ih hxs
      · rw [List.find?_cons_of_pos hpb, List.find?_cons_of_pos hpb]
        simp [hxb]

theorem updateFirst_orderedInsert_self (hf : ∀ a b, r (f a) b ↔ r a b) {x : α} (hx : p x = true)
    (hfirst : ∀ y, xs.find? p = some y → r x y) :
    updateFirst p f (xs.orderedInsert r x) = xs.orderedInsert r (f x) := by
  induction xs with
  | nil => simp [updateFirst, hx]
  | cons b xs ih =>
    rw [List.orderedInsert_cons, List.orderedInsert_cons]
    by_cases hxb : r x b
    · simp [hxb, (hf x b).2 hxb, updateFirst, hx]
    · have hpb : p b = false := by
        cases hpb : p b
        · rfl
        · exact absurd (hfirst b (List.find?_cons_of_pos hpb)) hxb
      rw [if_neg hxb, if_neg (mt (hf x b).1 hxb), updateFirst, if_neg (by simp [hpb])]
      rw [ih fun y hy => hfirst y (by rw [List.find?_cons_of_neg (by simp [hpb])]; exact hy)]

theorem updateFirst_orderedInsert_other [IsTrans α r] (hf : ∀ a b, r b (f a) ↔ r b a) {x : α}
    (hxs : xs.Pairwise r) (hfirst : p x = true → ∃ y, xs.find? p = some y ∧ ¬ r x y) :
    updateFirst p f (xs.orderedInsert r x) = (updateFirst p f xs).orderedInsert r x := by
  induction xs with
  | nil =>
    have hx : p x = false := by
      cases hx : p x
      · rfl
      · obtain ⟨y, hy, -⟩ := hfirst hx
        cases hy
    simp [updateFirst, hx]
  | cons b xs ih =>
    obtain ⟨hb, hxs⟩ := List.pairwise_cons.1 hxs
    rw [List.orderedInsert_cons]
    by_cases hxb : r x b
    · have hx : p x = false := by
        cases hx : p x
        · rfl
        · obtain ⟨y, hy, hxy⟩ := hfirst hx
          rcases List.mem_cons.1 (List.mem_of_find?_eq_some hy) with rfl | htail
          · exact absurd hxb hxy
          · exact absurd (IsTrans.trans _ _ _ hxb (hb y htail)) hxy
      cases hpb : p b
      · simp [hxb, updateFirst, hx, hpb]
      · simp [hxb, updateFirst, hx, hpb, (hf b x).2 hxb]
    · cases hpb : p b
      · rw [if_neg hxb, updateFirst, if_neg (by simp [hpb]), updateFirst, if_neg (by simp [hpb]),
          List.orderedInsert_cons, if_neg hxb, ih hxs]
        intro hx
        obtain ⟨y, hy, hxy⟩ := hfirst hx
        rw [List.find?_cons_of_neg (by simp [hpb])] at hy
        exact ⟨y, hy, hxy⟩
      · simp [hxb, updateFirst, hpb, mt (hf b x).1 hxb]

end OrderedInsert

section SortBy

variable {p : α → Bool} {f : α → α} {cmp : α → α → Ordering} [Std.TransCmp cmp]

instance isTrans_isLE : IsTrans α fun a b => (cmp a b).isLE = true :=
  ⟨fun _ _ _ => Std.TransCmp.isLE_trans⟩

instance total_isLE : Std.Total fun a b => (cmp a b).isLE = true :=
  ⟨fun a b => by
    cases hab : cmp a b
    · exact .inl rfl
    · exact .inl rfl
    · right
      rw [Std.OrientedCmp.gt_iff_lt] at hab
      simp [hab]⟩

theorem pairwise_sortBy (xs : List α) : (sortBy cmp xs).Pairwise fun a b => (cmp a b).isLE = true :=
  List.pairwise_insertionSort _ xs

/-- Entries that compare equal only with themselves sort the same in whatever order they come. -/
theorem sortBy_congr [Std.LawfulEqCmp cmp] {xs ys : List α} (h : xs.Perm ys) : sortBy cmp xs = sortBy cmp ys :=
  (((sortBy_perm cmp xs).trans h).trans (sortBy_perm cmp ys).symm).eq_of_pairwise
    (fun a b _ _ hab hba => Std.LawfulEqCmp.eq_of_compare
      (show cmp a b = .eq from Std.OrientedCmp.isLE_antisymm hab hba))
    (pairwise_sortBy xs) (pairwise_sortBy ys)

/-- The first match of the sorted list is the first minimum of the matches. -/
theorem find?_sortBy (xs : List α) : (sortBy cmp xs).find? p = (minIndexBy p cmp xs).map Prod.snd := by
  induction xs with
  | nil => rfl
  | cons x xs ih =>
    have hsort : sortBy cmp (x :: xs) =
        (sortBy cmp xs).orderedInsert (fun a b => (cmp a b).isLE = true) x := rfl
    rw [hsort, find?_orderedInsert x (pairwise_sortBy xs), ih]
    rw [minIndexBy_cons]
    cases hrest : minIndexBy p cmp xs with
    | none => cases hx : p x <;> simp
    | some found =>
      obtain ⟨j, y⟩ := found
      cases hx : p x
      · simp
      · cases hle : (cmp x y).isLE <;> simp [hle]

/-- Rewriting the first match of the sorted list is sorting the list with the first minimum
rewritten, when the rewrite does not change how entries compare. -/
theorem updateFirst_sortBy (hf : ∀ a b, cmp (f a) b = cmp a b ∧ cmp b (f a) = cmp b a)
    {xs : List α} {i : Nat} {y : α} (h : minIndexBy p cmp xs = some (i, y)) :
    updateFirst p f (sortBy cmp xs) = sortBy cmp (xs.modify i f) := by
  induction xs generalizing i y with
  | nil => simp [minIndexBy] at h
  | cons x xs ih =>
    have hsort : ∀ (z : α) (zs : List α), sortBy cmp (z :: zs) =
        (sortBy cmp zs).orderedInsert (fun a b => (cmp a b).isLE = true) z := fun _ _ => rfl
    have hleft : ∀ a b, (cmp (f a) b).isLE = true ↔ (cmp a b).isLE = true :=
      fun a b => by rw [(hf a b).1]
    have hright : ∀ a b, (cmp b (f a)).isLE = true ↔ (cmp b a).isLE = true :=
      fun a b => by rw [(hf a b).2]
    have hfind : (sortBy cmp xs).find? p = (minIndexBy p cmp xs).map Prod.snd := find?_sortBy xs
    rw [minIndexBy_cons] at h
    cases hrest : minIndexBy p cmp xs with
    | none =>
      rw [hrest] at h hfind
      cases hx : p x <;> simp [hx] at h
      obtain ⟨rfl, rfl⟩ := h
      rw [List.modify_zero_cons, hsort, hsort]
      exact updateFirst_orderedInsert_self hleft hx fun z hz => by simp [hfind] at hz
    | some found =>
      obtain ⟨j, z⟩ := found
      rw [hrest] at hfind
      simp only [hrest] at h
      split at h
      · rename_i hle
        obtain ⟨rfl, rfl⟩ := Prod.mk.inj (Option.some.inj h)
        obtain ⟨hx, hxz⟩ := Bool.and_eq_true_iff.1 hle
        rw [List.modify_zero_cons, hsort, hsort]
        refine updateFirst_orderedInsert_self hleft hx fun w hw => ?_
        obtain rfl : z = w := by simpa [hfind] using hw
        exact hxz
      · rename_i hnot
        obtain ⟨rfl, rfl⟩ := Prod.mk.inj (Option.some.inj h)
        rw [List.modify_succ_cons, hsort, hsort, ← ih hrest]
        refine updateFirst_orderedInsert_other hright (pairwise_sortBy xs) fun hx => ?_
        exact ⟨z, by simpa using hfind, by simpa [hx] using hnot⟩

end SortBy

end StableSort
