import Mathlib.Logic.Relation

/-!
# Runs of small steps

A stage of a program that threads a working state is described by the small steps it may take on
it, `R a b`; the stage itself is then a run, `ReflTransGen R`. Loops are runs when their bodies
are, and an invariant of the steps is an invariant of every run.
-/

namespace Steps

open Relation

variable {α β : Type} {R : β → β → Prop}

variable {xs : List α} {γ : Type} {init : β} {found : β → α → List γ} {step : β → α → β}

theorem foldl {f : β → α → β} (h : ∀ b, ∀ x ∈ xs, ReflTransGen R b (f b x)) (init : β) : ReflTransGen R init (xs.foldl f init) := by
  induction xs generalizing init with
  | nil => exact .refl
  | cons x xs ih =>
    exact (h init x List.mem_cons_self).trans
      (ih (fun b y hy => h b y (List.mem_cons_of_mem x hy)) (f init x))

theorem foldl_on (part : γ → β) {f : γ → α → γ}
    (h : ∀ c, ∀ x ∈ xs, ReflTransGen R (part c) (part (f c x))) (init : γ) :
    ReflTransGen R (part init) (part (xs.foldl f init)) := by
  induction xs generalizing init with
  | nil => exact .refl
  | cons x xs ih =>
    exact (h init x List.mem_cons_self).trans
      (ih (fun c y hy => h c y (List.mem_cons_of_mem x hy)) (f init x))

theorem foldl_inv (Inv : β → Prop) {f : β → α → β} (h : ∀ b, ∀ x ∈ xs, Inv b → Inv (f b x))
    (hinit : Inv init) :
    Inv (xs.foldl f init) := by
  induction xs generalizing init with
  | nil => exact hinit
  | cons x xs ih =>
    exact ih (fun b y hy => h b y (List.mem_cons_of_mem x hy))
      (h init x List.mem_cons_self hinit)

theorem preserved (Inv : β → Prop) (step : ∀ a b, R a b → Inv a → Inv b) {a b : β}
    (h : ReflTransGen R a b) (ha : Inv a) : Inv b := by
  induction h with
  | refl => exact ha
  | tail _ hbc ih => exact step _ _ hbc ih

theorem foldlM_inv (Inv : β → Prop) {step : β → α → Option β}
    (h : ∀ b x b', step b x = some b' → Inv b → Inv b') {final : β}
    (hrun : xs.foldlM step init = some final) (hinit : Inv init) : Inv final := by
  induction xs generalizing init with
  | nil => exact Option.some.inj hrun ▸ hinit
  | cons x xs ih =>
    obtain ⟨next, hstep, hrest⟩ := Option.bind_eq_some_iff.1 hrun
    exact ih hrest (h init x next hstep hinit)

/-! ## What a fold meets -/

/-- What each step of a fold finds in the state it starts from, in order. -/
def along {γ : Type} (step : β → α → β) (found : β → α → List γ) : List α → β → List γ
  | [], _ => []
  | x :: xs, b => found b x ++ along step found xs (step b x)

/-- A relation between two states and what is found between them holds of a fold where it holds of the
steps. -/
theorem foldl_along {T : β → List γ → β → Prop} (refl : ∀ b, T b [] b)
    (trans : ∀ {a b c} {found later : List γ}, T a found b → T b later c → T a (found ++ later) c)
    (h : ∀ b, ∀ x ∈ xs, T b (found b x) (step b x)) (init : β) :
    T init (along step found xs init) (xs.foldl step init) := by
  induction xs generalizing init with
  | nil => exact refl init
  | cons x xs ih =>
    exact trans (h init x List.mem_cons_self)
      (ih (fun b y hy => h b y (List.mem_cons_of_mem x hy)) (step init x))

theorem mem_along {c : γ} : c ∈ along step found xs init ↔
      ∃ before x after, xs = before ++ x :: after ∧ c ∈ found (before.foldl step init) x := by
  induction xs generalizing init with
  | nil => simp [along]
  | cons y ys ih =>
    unfold along
    rw [List.mem_append, ih]
    constructor
    · rintro (hfirst | ⟨before, x, after, rfl, hfound⟩)
      · exact ⟨[], y, ys, rfl, hfirst⟩
      · exact ⟨y :: before, x, after, rfl, hfound⟩
    · rintro ⟨before, x, after, hsplit, hfound⟩
      cases before with
      | nil =>
        obtain ⟨rfl, rfl⟩ := List.cons.inj hsplit
        exact .inl hfound
      | cons z before =>
        obtain ⟨rfl, rfl⟩ := List.cons.inj hsplit
        exact .inr ⟨before, x, after, rfl, hfound⟩

/-! ## Lists read with what stands before -/

/-- Every entry of a list is as `P` says, given the entries before it. -/
def Throughout (P : List α → α → Prop) : List α → List α → Prop
  | _, [] => True
  | before, x :: xs => P before x ∧ Throughout P (before ++ [x]) xs

theorem throughout_append {P : List α → α → Prop} {before ys : List α} :
    Throughout P before (xs ++ ys) ↔ Throughout P before xs ∧ Throughout P (before ++ xs) ys := by
  induction xs generalizing before with
  | nil => simp [Throughout]
  | cons x xs ih => simp [Throughout, ih, and_assoc]

end Steps
