import Mathlib.Data.Rat.Floor
import Std.Data.TreeMap
import Std.Data.TreeSet

/-!
# Values shared by every layer

JSON atoms (`json.rs`) carried by pack payloads and submission metadata, ordered maps, and the
interface of the 64-bit floats used for vote weights and hit chances.

The engine computes with `f64`. Nothing here depends on how those operations round, so `Float64`
lists the operations the engine calls and states no law about them: a theorem over an arbitrary
`Float64 F` holds of the hardware's floats. The instance on `Rat` computes exactly; on the
whole-number weights of a concrete game it agrees with `f64`.
-/

namespace Fmarch.Domain

/-! ## JSON -/

/-- `serde_json::Value` / `JsonAtom`. Object entries are listed in key order. A number is kept as an integer or
as a float, a finite one, and so a rational. -/
inductive Json where
  | null
  | bool (value : Bool)
  | number (value : Int)
  | float (value : Rat)
  | string (value : String)
  | array (values : List Json)
  | object (entries : List (String × Json))

namespace Json

/-- `Value::as_str`. -/
def asStr : Json → Option String
  | .string value => some value
  | _ => none

/-- `Value::as_bool`. -/
def asBool : Json → Option Bool
  | .bool value => some value
  | _ => none

/-- `Value::as_array`. -/
def asArray : Json → Option (List Json)
  | .array values => some values
  | _ => none

/-- `Value::as_u64`. -/
def asU64 : Json → Option Nat
  | .number value => if 0 ≤ value ∧ value < 2 ^ 64 then some value.toNat else none
  | _ => none

/-- `Value::get` at an object key. -/
def get (key : String) : Json → Option Json
  | .object entries => (entries.find? (·.1 == key)).map (·.2)
  | _ => none

end Json

/-! ## Ordered maps and text -/

/-- `BTreeMap`: iteration is in key order. -/
abbrev BTreeMap (K V : Type) [Ord K] := Std.TreeMap K V

/-- `BTreeSet`: iteration is in order. -/
abbrev BTreeSet (K : Type) [Ord K] := Std.TreeSet K

/-- `xs.iter().collect::<BTreeSet<_>>()` holds the entries of `xs`. -/
theorem mem_collect {K : Type} [Ord K] [Std.TransOrd K] [Std.LawfulEqOrd K] [BEq K] [LawfulBEq K]
    [Std.LawfulBEqOrd K] {x : K} {xs : List K} :
    x ∈ ((∅ : BTreeSet K).insertMany xs).toList ↔ x ∈ xs := by
  rw [Std.TreeSet.mem_toList, Std.TreeSet.mem_insertMany_list]
  simp

/-- `char::is_whitespace`: the Unicode `White_Space` property. -/
def isWhitespace (c : Char) : Bool :=
  (9 ≤ c.toNat && c.toNat ≤ 13) || c.toNat == 32 || c.toNat == 0x85 || c.toNat == 0xA0 ||
    c.toNat == 0x1680 || (0x2000 ≤ c.toNat && c.toNat ≤ 0x200A) || c.toNat == 0x2028 ||
    c.toNat == 0x2029 || c.toNat == 0x202F || c.toNat == 0x205F || c.toNat == 0x3000

/-- `text.trim().is_empty()`. -/
def isBlank (text : String) : Bool := text.toList.all isWhitespace

/-! ## Floats -/

/-- The `f64` operations the engine calls. -/
class Float64 (F : Type) where
  ofNat : Nat → F
  /-- The literal `mantissa / 10 ^ places`. -/
  ofDecimal : Nat → Nat → F
  add : F → F → F
  sub : F → F → F
  mul : F → F → F
  div : F → F → F
  abs : F → F
  floor : F → F
  ceil : F → F
  lt : F → F → Bool
  le : F → F → Bool
  eq : F → F → Bool
  isFinite : F → Bool

namespace Float64

variable {F : Type} [Float64 F]

def zero : F := ofNat 0

def one : F := ofNat 1

/-- `f64::max`. -/
def max (a b : F) : F := if lt a b then b else a

/-- `f64::min`. -/
def min (a b : F) : F := if lt b a then b else a

/-- `f64::clamp`. -/
def clamp (value low high : F) : F :=
  if lt value low then low else if lt high value then high else value

/-- `f64::EPSILON`. -/
def epsilon : F := div one (ofNat (2 ^ 52))

/-- `Iterator::sum` of floats: a left fold from zero. -/
def sum (values : List F) : F := values.foldl add zero

end Float64

/-- Exact rational arithmetic. -/
instance : Float64 Rat where
  ofNat n := n
  ofDecimal mantissa places := mantissa / 10 ^ places
  add := (· + ·)
  sub := (· - ·)
  mul := (· * ·)
  div := (· / ·)
  abs x := if x < 0 then -x else x
  floor x := x.floor
  ceil x := x.ceil
  lt a b := a < b
  le a b := a ≤ b
  eq a b := a == b
  isFinite _ := true

end Fmarch.Domain
