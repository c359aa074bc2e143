import Mathlib.Algebra.Group.Int.Defs
import Mathlib.Algebra.Group.Nat.Defs
import Mathlib.Order.Basic

/-!
# Values the platform crates share

Database columns and event payloads carry `i64`; the model carries the integer and makes the checked
operations and the range explicit. Texts are UTF-8, so lengths and offsets are in bytes.
-/

namespace Fmarch.Platform

abbrev Uuid := BitVec 128

/-- The values an `i64` holds. -/
def IsI64 (value : Int) : Prop := -2 ^ 63 ≤ value ∧ value < 2 ^ 63

instance (value : Int) : Decidable (IsI64 value) := inferInstanceAs (Decidable (_ ∧ _))

/-- `i64::checked_add`. -/
def checkedAdd (a b : Int) : Option Int := if IsI64 (a + b) then some (a + b) else none

/-- `i64::checked_sub`. -/
def checkedSub (a b : Int) : Option Int := if IsI64 (a - b) then some (a - b) else none

theorem checkedAdd_eq_some {a b sum : Int} : checkedAdd a b = some sum ↔ IsI64 sum ∧ sum = a + b := by
  unfold checkedAdd
  constructor
  · intro h
    split at h
    · obtain rfl := Option.some.inj h
      exact ⟨by assumption, rfl⟩
    · cases h
  · rintro ⟨hsum, rfl⟩
    rw [if_pos hsum]

/-- `char::is_whitespace`: the White_Space property. -/
def isWhitespace (c : Char) : Bool :=
  let n := c.toNat
  (9 ≤ n && n ≤ 13) || n == 0x20 || n == 0x85 || n == 0xA0 || n == 0x1680 ||
    (0x2000 ≤ n && n ≤ 0x200A) || n == 0x2028 || n == 0x2029 || n == 0x202F || n == 0x205F ||
    n == 0x3000

/-- `str::trim`. -/
def trim (text : String) : String :=
  .ofList ((text.toList.dropWhile isWhitespace).reverse.dropWhile isWhitespace).reverse

/-- `str::is_char_boundary`. -/
def isCharBoundary (text : String) (offset : Nat) : Bool := (String.Pos.Raw.mk offset).isValid text

/-- `&text[start..stop]`. -/
def byteSlice (text : String) (start stop : Nat) : String :=
  String.Pos.Raw.extract text ⟨start⟩ ⟨stop⟩

/-- `usize::saturating_add`. -/
def saturatingAdd (a b : Nat) : Nat := min (a + b) (2 ^ 64 - 1)

end Fmarch.Platform
