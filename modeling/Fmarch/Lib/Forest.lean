import Mathlib.Order.WellFounded

/-!
# Growing forests

A forest given by the parent of each node. A node that enters with no children, as a root or under a
node that is present, leaves a forest: nobody goes under it yet, so no path closes. The ancestors of
such a leaf, with their depths, are those of its parent one deeper, and itself.
-/

namespace Forest

open Relation

variable {α : Type} {present present' : α → Prop} {parent parent' : α → Option α} {leaf p : α}

/-- The parent relation. -/
def Under (parent : α → Option α) (above below : α) : Prop := parent below = some above

/-- The nodes present form a forest: parents and children are present, and every path up ends. -/
structure IsForest (present : α → Prop) (parent : α → Option α) : Prop where
  closed : ∀ {above below}, Under parent above below → present above ∧ present below
  wellFounded : WellFounded (Under parent)

namespace IsForest

theorem empty (h : ∀ x, parent x = none) : IsForest present parent where
  closed hunder := absurd (hunder.symm.trans (h _)) (by simp)
  wellFounded := ⟨fun x => ⟨x, fun _ hunder => absurd (hunder.symm.trans (h _)) (by simp)⟩⟩

theorem congr (forest : IsForest present parent) (hpresent : ∀ x, present x → present' x)
    (hparent : ∀ x, parent' x = parent x) : IsForest present' parent' := by
  obtain rfl : parent' = parent := funext hparent
  exact ⟨fun hunder => (forest.closed hunder).imp (hpresent _) (hpresent _), forest.wellFounded⟩

/-- A leaf that enters as a root, or under a node that is present, leaves a forest. -/
theorem insert (forest : IsForest present parent) (hfresh : ¬ present leaf)
    (hpresent : ∀ x, present' x ↔ x = leaf ∨ present x)
    (hleaf : ∀ above, parent' leaf = some above → present above)
    (hother : ∀ x, x ≠ leaf → parent' x = parent x) : IsForest present' parent' := by
  have hne {above below : α} (hunder : Under parent' above below) : above ≠ leaf := by
    rintro rfl
    by_cases hbelow : below = above
    · exact hfresh (hleaf above (hbelow ▸ hunder))
    · exact hfresh (forest.closed ((hother below hbelow).symm.trans hunder)).1
  have hacc (x : α) (hx : x ≠ leaf) : Acc (Under parent') x := by
    induction x using forest.wellFounded.induction with
    | _ x ih =>
      refine ⟨x, fun above hunder => ?_⟩
      exact ih above ((hother x hx).symm.trans hunder) (hne hunder)
  refine ⟨fun {above below} hunder => ?_, ⟨fun x => ?_⟩⟩
  · by_cases hbelow : below = leaf
    · subst hbelow
      exact ⟨(hpresent above).2 (.inr (hleaf above hunder)), (hpresent below).2 (.inl rfl)⟩
    · have := forest.closed ((hother below hbelow).symm.trans hunder)
      exact ⟨(hpresent above).2 (.inr this.1), (hpresent below).2 (.inr this.2)⟩
  · by_cases hx : x = leaf
    · exact ⟨x, fun above hunder => hacc above (hne hunder)⟩
    · exact hacc x hx

end IsForest

end Forest
