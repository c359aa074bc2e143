import Mathlib.Algebra.Group.Nat.Defs
import Mathlib.Order.Basic

/-!
# Game phases

`phase.rs`: a phase id is a domain value `{D|N|T}{ordinal}` with an optional `R{revote}`. The Rust
type keeps its canonical text next to the parsed parts; here the parts are the value and the text
is computed from them, so a phase id whose text disagrees with its parts cannot be built.
-/

namespace Fmarch.Domain

inductive PhaseKind where
  | day | night | twilight
  deriving DecidableEq, Ord

namespace PhaseKind

/-- `PhaseKind::code`: the prefix of a phase id. -/
def code : PhaseKind → String
  | day => "D"
  | night => "N"
  | twilight => "T"

/-- `PhaseKind::name`. -/
def name : PhaseKind → String
  | day => "Day"
  | night => "Night"
  | twilight => "Twilight"

end PhaseKind

/-- `PhaseId`, with the bounds `PhaseId::parse` and `PhaseId::compose_with_revote` check. -/
structure PhaseId where
  kind : PhaseKind
  number : Nat
  revote : Option Nat := none
  number_pos : 0 < number := by decide
  number_le : number ≤ 2 ^ 31 - 1 := by decide
  revote_range : ∀ attempt ∈ revote, 0 < attempt ∧ attempt < 2 ^ 32 := by decide
  deriving DecidableEq

namespace PhaseId

/-- The first phase of a kind. -/
def first (kind : PhaseKind) : PhaseId := { kind, number := 1 }

/-- The second one. -/
def second (kind : PhaseKind) : PhaseId := { kind, number := 2 }

/-- `format!("{number:02}")`. -/
def ordinalText (number : Nat) : String :=
  if number < 10 then "0" ++ toString number else toString number

/-- `PhaseId::as_str`: the canonical text carried over storage and wire. -/
def canonical (phase : PhaseId) : String :=
  phase.kind.code ++ ordinalText phase.number ++
    match phase.revote with
    | none => ""
    | some attempt => "R" ++ toString attempt

/-- `PhaseId::compose` after its checks. -/
def compose (kind : PhaseKind) (number : Nat) : Option PhaseId :=
  if h : 0 < number ∧ number ≤ 2 ^ 31 - 1 then
    some { kind, number, number_pos := h.1, number_le := h.2, revote_range := by simp }
  else none

/-- `PhaseId::compose_with_revote` of a revote attempt, after its checks. -/
def composeWithRevote (kind : PhaseKind) (number attempt : Nat) : Option PhaseId :=
  if h : (0 < number ∧ number ≤ 2 ^ 31 - 1) ∧ 0 < attempt ∧ attempt < 2 ^ 32 then
    some { kind, number, revote := some attempt, number_pos := h.1.1, number_le := h.1.2
           revote_range := by simpa using h.2 }
  else none

theorem compose_eq_some {kind : PhaseKind} {number : Nat} {phase : PhaseId}
    (h : compose kind number = some phase) :
    phase.kind = kind ∧ phase.number = number ∧ phase.revote = none := by
  unfold compose at h
  split at h
  · obtain rfl := Option.some.inj h
    exact ⟨rfl, rfl, rfl⟩
  · cases h

theorem composeWithRevote_eq_some {kind : PhaseKind} {number attempt : Nat} {phase : PhaseId}
    (h : composeWithRevote kind number attempt = some phase) :
    phase.kind = kind ∧ phase.number = number ∧ phase.revote = some attempt := by
  unfold composeWithRevote at h
  split at h
  · obtain rfl := Option.some.inj h
    exact ⟨rfl, rfl, rfl⟩
  · cases h

/-- `PhaseId::is_plain`. -/
def isPlain (phase : PhaseId) : Bool := phase.revote.isNone

/-- `PhaseId::plain_number`. -/
def plainNumber (phase : PhaseId) : Option Nat :=
  if phase.isPlain then some phase.number else none

/-- `PhaseId::revote_base`: `D03R2` becomes `D03`. -/
def revoteBase (phase : PhaseId) : PhaseId :=
  { phase with revote := none, revote_range := by simp }

/-- The derived `Ord` compares the canonical text first, which already decides. -/
def cmp (a b : PhaseId) : Ordering := compare a.canonical b.canonical

end PhaseId

end Fmarch.Domain
