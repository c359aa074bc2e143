import Mathlib.Order.Basic

/-!
# Fallible steps

What a fallible computation that succeeded went through.
-/

namespace Fallible

variable {ε ε' α β : Type}

theorem bind_eq_ok {first : Except ε α} {next : α → Except ε β} {result : β} :
    (first >>= next) = .ok result ↔ ∃ a, first = .ok a ∧ next a = .ok result := by
  cases first with
  | error e => exact iff_of_false nofun (fun ⟨_, h, _⟩ => nomatch h)
  | ok a => exact ⟨fun h => ⟨a, rfl, h⟩, fun ⟨_, h, hnext⟩ => Except.ok.inj h ▸ hnext⟩

/-- `if condition { return Err(error) }`. -/
def refuseIf (condition : Prop) [Decidable condition] (error : ε) : Except ε Unit :=
  if condition then .error error else .ok ()

theorem refuseIf_eq_ok {condition : Prop} [Decidable condition] {error : ε} {done : Unit} :
    refuseIf condition error = .ok done ↔ ¬ condition := by
  unfold refuseIf
  split
  case isTrue h => exact iff_of_false (by simp) (not_not_intro h)
  case isFalse h => exact iff_of_true rfl h

theorem ite_error_eq_ok {condition : Prop} [Decidable condition] {error : ε} {next : Except ε α} {result : α} :
    (if condition then .error error else next) = .ok result ↔ ¬ condition ∧ next = .ok result := by
  by_cases hrefused : condition
  · rw [if_pos hrefused]
    exact iff_of_false nofun (fun h => h.1 hrefused)
  · rw [if_neg hrefused]
    exact (and_iff_right hrefused).symm

theorem toOption_eq_some {computation : Except ε α} {result : α} :
    computation.toOption = some result ↔ computation = .ok result := by
  cases computation with
  | error e => exact iff_of_false nofun nofun
  | ok a => exact ⟨fun h => congrArg Except.ok (Option.some.inj h), fun h => congrArg some (Except.ok.inj h)⟩

theorem forM_eq_ok {f : α → Except ε Unit} {xs : List α} : xs.forM f = .ok () ↔ ∀ x ∈ xs, f x = .ok () := by
  induction xs with
  | nil => exact iff_of_true rfl (by simp)
  | cons x xs ih =>
    change (f x >>= fun _ => xs.forM f) = .ok () ↔ _
    rw [bind_eq_ok, List.forall_mem_cons, ← ih]
    exact ⟨fun ⟨_, h⟩ => h, fun h => ⟨(), h⟩⟩

/-- What a list of steps that all succeed gives is what its elements give. -/
theorem exists_of_mem_mapM {f : α → Option β} {xs : List α} {ys : List β} (h : xs.mapM f = some ys) :
    ∀ y ∈ ys, ∃ x ∈ xs, f x = some y := by
  induction xs generalizing ys with
  | nil =>
    obtain rfl := Option.some.inj h
    simp
  | cons x xs ih =>
    rw [List.mapM_cons] at h
    obtain ⟨y, hy, h⟩ := Option.bind_eq_some_iff.1 h
    obtain ⟨rest, hrest, h⟩ := Option.bind_eq_some_iff.1 h
    obtain rfl := Option.some.inj h
    intro z hz
    rcases List.mem_cons.1 hz with rfl | hz
    · exact ⟨x, List.mem_cons_self, hy⟩
    · obtain ⟨w, hw, hz⟩ := ih hrest z hz
      exact ⟨w, List.mem_cons_of_mem _ hw, hz⟩

end Fallible
