import Mathlib.Data.List.Basic

/-!
# First matches

A search through a list finds the entry that satisfies a predicate and stands before every other that does.

**`findSome?_eq_some_iff`**: what `findSome?` finds is the first match, stated by positions.
-/

namespace FirstMatch

variable {α β : Type} [DecidableEq α] {p : α → Prop} {a x y : α} {xs : List α}

/-- `x` satisfies `p` and stands before every other entry of the list that does. -/
structure First (p : α → Prop) (xs : List α) (x : α) : Prop where
  mem : x ∈ xs
  holds : p x
  first : ∀ y ∈ xs, p y → xs.idxOf x ≤ xs.idxOf y

theorem not_first_nil : ¬ First p [] x := fun h => absurd h.mem List.not_mem_nil

/-- The first match of a list with a head. -/
theorem first_cons : First p (a :: xs) x ↔ (p a ∧ x = a) ∨ (¬ p a ∧ First p xs x) := by
  constructor
  · intro h
    by_cases hhead : p a
    · have hle := h.first a List.mem_cons_self hhead
      rw [List.idxOf_cons_self, Nat.le_zero] at hle
      refine .inl ⟨hhead, ?_⟩
      by_contra hne
      rw [List.idxOf_cons_ne _ (Ne.symm hne)] at hle
      cases hle
    · have hne : ∀ {z}, p z → a ≠ z := fun hz heq => hhead (heq ▸ hz)
      refine .inr ⟨hhead, (List.mem_cons.1 h.mem).resolve_left (hne h.holds).symm, h.holds, ?_⟩
      intro y hy hpy
      have hle := h.first y (List.mem_cons_of_mem _ hy) hpy
      rw [List.idxOf_cons_ne _ (hne h.holds), List.idxOf_cons_ne _ (hne hpy)] at hle
      exact Nat.le_of_succ_le_succ hle
  · rintro (⟨hhead, rfl⟩ | ⟨hhead, h⟩)
    · exact ⟨List.mem_cons_self, hhead, fun y _ _ => by rw [List.idxOf_cons_self]; exact Nat.zero_le _⟩
    · have hne : ∀ {z}, p z → a ≠ z := fun hz heq => hhead (heq ▸ hz)
      refine ⟨List.mem_cons_of_mem _ h.mem, h.holds, fun y hy hpy => ?_⟩
      rw [List.idxOf_cons_ne _ (hne h.holds), List.idxOf_cons_ne _ (hne hpy)]
      exact Nat.succ_le_succ
        (h.first y ((List.mem_cons.1 hy).resolve_left (hne hpy).symm) hpy)

theorem findSome?_eq_some_iff {f : α → Option β} {b : β} :
    xs.findSome? f = some b ↔ ∃ x, First (fun y => (f y).isSome = true) xs x ∧ f x = some b := by
  induction xs with
  | nil => exact iff_of_false (by simp) fun ⟨_, h, _⟩ => not_first_nil h
  | cons a xs ih =>
    simp only [first_cons, List.findSome?_cons]
    cases hhead : f a with
    | none => simpa [hhead] using ih
    | some c =>
      constructor
      · intro h
        exact ⟨a, .inl ⟨rfl, rfl⟩, hhead.trans h⟩
      · rintro ⟨x, (⟨-, rfl⟩ | ⟨hnot, -⟩), hx⟩
        · exact hhead.symm.trans hx
        · exact absurd rfl hnot

end FirstMatch
