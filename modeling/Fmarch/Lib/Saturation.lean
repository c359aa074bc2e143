import Fmarch.Lib.Steps

/-!
# Passes until nothing is added

A loop that makes pass after pass over a state, and stops after the first pass that leaves the size of
the state as it was. With an invariant that bounds the size, such a loop ends, whatever the pass does.

**`saturate_settles`**: the loop ends in the pass of a state whose pass adds nothing, so what has to hold
at the end is read off one pass. **`saturate_enough`**: more fuel changes nothing.
-/

namespace Saturation

variable {α β : Type}

/-- Passes until one leaves the size as it was. -/
def saturate (pass : β → β) (size : β → Nat) : Nat → β → β
  | 0, state => state
  | fuel + 1, state =>
    if size (pass state) = size state then pass state
    else saturate pass size fuel (pass state)

/-- What a loop of passes keeps, and the bound that makes it end. -/
structure Bounded (pass : β → β) (size : β → Nat) (Inv : β → Prop) (bound : Nat) : Prop where
  keeps : ∀ state, Inv state → Inv (pass state)
  grows : ∀ state, Inv state → size state ≤ size (pass state)
  below : ∀ state, Inv state → size state ≤ bound

section Loop

variable {pass : β → β} {size : β → Nat} {Inv : β → Prop} {bound : Nat}

/-- With enough fuel the loop ends in a pass that adds nothing. -/
theorem saturate_settles (h : Bounded pass size Inv bound) {fuel : Nat} {state : β}
    (hstate : Inv state) (enough : bound < fuel + size state) :
    ∃ last, Inv last ∧ size (pass last) = size last ∧ saturate pass size fuel state = pass last := by
  induction fuel generalizing state with
  | zero =>
    have hbelow := h.below state hstate
    omega
  | succ fuel ih =>
    unfold saturate
    by_cases hsame : size (pass state) = size state
    · exact ⟨state, hstate, hsame, by rw [if_pos hsame]⟩
    · rw [if_neg hsame]
      have hgrows := h.grows state hstate
      exact ih (h.keeps state hstate) (by omega)

/-- More fuel than enough changes nothing. -/
theorem saturate_enough (h : Bounded pass size Inv bound) {fuel : Nat} (extra : Nat) {state : β}
    (hstate : Inv state) (enough : bound < fuel + size state) :
    saturate pass size (fuel + extra) state = saturate pass size fuel state := by
  induction fuel generalizing state with
  | zero =>
    have hbelow := h.below state hstate
    omega
  | succ fuel ih =>
    rw [Nat.succ_add]
    unfold saturate
    by_cases hsame : size (pass state) = size state
    · rw [if_pos hsame, if_pos hsame]
    · rw [if_neg hsame, if_neg hsame]
      have hgrows := h.grows state hstate
      exact ih (h.keeps state hstate) (by omega)

end Loop

/-! ## A pass that adds nothing -/

theorem size_le_foldl {f : β → α → β} {size : β → Nat} (grows : ∀ b x, size b ≤ size (f b x))
    (xs : List α) (init : β) : size init ≤ size (xs.foldl f init) := by
  induction xs generalizing init with
  | nil => exact Nat.le_refl _
  | cons x xs ih => exact Nat.le_trans (grows init x) (ih (f init x))

/-- Where a pass over a list adds nothing, no entry of the list does, each met in a state of the
invariant. -/
theorem foldl_stable {f : β → α → β} {size : β → Nat} (grows : ∀ b x, size b ≤ size (f b x))
    (Inv : β → Prop) {xs : List α} (keeps : ∀ b, ∀ x ∈ xs, Inv b → Inv (f b x)) {init : β}
    (hinit : Inv init) (same : size (xs.foldl f init) = size init) :
    ∀ x ∈ xs, ∃ b, Inv b ∧ size b = size init ∧ size (f b x) = size init := by
  induction xs generalizing init with
  | nil => exact nofun
  | cons y xs ih =>
    have hrest : size (f init y) ≤ size (xs.foldl f (f init y)) := size_le_foldl grows xs _
    have hfirst : size (f init y) = size init := by
      have hgrows := grows init y
      have htotal : size (xs.foldl f (f init y)) = size init := same
      omega
    intro x hx
    rcases List.mem_cons.1 hx with rfl | hx
    · exact ⟨init, hinit, rfl, hfirst⟩
    · have htail := ih (fun b z hz => keeps b z (List.mem_cons_of_mem y hz))
        (keeps init y List.mem_cons_self hinit) (same.trans hfirst.symm) x hx
      rw [hfirst] at htail
      exact htail

end Saturation
