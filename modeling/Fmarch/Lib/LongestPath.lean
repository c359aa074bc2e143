import Mathlib.Data.List.MinMax
import Mathlib.Order.Bounds.Basic

/-!
# Longest paths

Paths of a relation counted by their steps. Where every element's successors are listed, the greatest
length from it is one more than the greatest over the successors, or none where there are no successors
(`isGreatest_succ`, `isGreatest_zero`). A rank that every step lowers rules out cycles (`acyclic_of_rank`).
-/

namespace LongestPath

variable {α : Type} {r : α → α → Prop}

/-- There is a path of so many steps from here. -/
inductive PathFrom (r : α → α → Prop) : α → Nat → Prop where
  | here (a : α) : PathFrom r a 0
  | step {a b : α} {n : Nat} : r a b → PathFrom r b n → PathFrom r a (n + 1)

/-- No path from here is longer, and one is as long. -/
abbrev IsLongest (r : α → α → Prop) (a : α) (depth : Nat) : Prop := IsGreatest {n | PathFrom r a n} depth

theorem isGreatest_zero {a : α} (h : ∀ b, ¬ r a b) : IsLongest r a 0 := by
  refine ⟨.here a, fun n hpath => ?_⟩
  cases hpath with
  | here => exact le_rfl
  | step hstep _ => exact absurd hstep (h _)

theorem le_max?_getD {xs : List Nat} {x : Nat} (h : x ∈ xs) : x ≤ xs.max?.getD 0 := by
  cases hmax : xs.max? with
  | none => exact absurd (List.max?_eq_none_iff.1 hmax ▸ h) List.not_mem_nil
  | some top => exact (List.max?_eq_some_iff.1 hmax).2 x h

theorem max?_getD_mem {xs : List Nat} (h : xs ≠ []) : xs.max?.getD 0 ∈ xs := by
  cases hmax : xs.max? with
  | none => exact absurd (List.max?_eq_none_iff.1 hmax) h
  | some top => exact (List.max?_eq_some_iff.1 hmax).1

theorem isGreatest_succ {a : α} {succs : List α} (depth : α → Nat) (hsuccs : ∀ b, r a b ↔ b ∈ succs)
    (hsome : succs ≠ []) (hdepth : ∀ b ∈ succs, IsLongest r b (depth b)) :
    IsLongest r a (1 + (succs.map depth).max?.getD 0) := by
  constructor
  · obtain ⟨b, hb, hmax⟩ := List.mem_map.1 (max?_getD_mem (List.map_eq_nil_iff.not.2 hsome))
    rw [← hmax, Nat.add_comm]
    exact PathFrom.step ((hsuccs b).2 hb) (hdepth b hb).1
  · intro n hpath
    cases hpath with
    | here => exact Nat.zero_le _
    | @step _ b n hstep hpath =>
      have hb := (hsuccs b).1 hstep
      have hle : n ≤ depth b := (hdepth b hb).2 hpath
      have hmax := le_max?_getD (List.mem_map_of_mem (f := depth) hb)
      omega

theorem acyclic_of_rank (rank : α → Nat) (h : ∀ {a b}, r a b → rank b < rank a) (a : α) :
    ¬ Relation.TransGen r a a := by
  have lowers : ∀ {b}, Relation.TransGen r a b → rank b < rank a := by
    intro b hpath
    induction hpath with
    | single hstep => exact h hstep
    | tail _ hstep ih => exact (h hstep).trans ih
  exact fun hcycle => lt_irrefl _ (lowers hcycle)

end LongestPath
