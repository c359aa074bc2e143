import Fmarch.Platform.Values
import Mathlib.Data.List.Basic

/-!
# Uuids as text (`uuid`)

`UuidText`: the text of a `Uuid` and how it is read. `hyphenated` is the text in five groups of hexadecimal
digits; what is read may leave the hyphens out and have its digits in either case.
-/

namespace Fmarch.Platform

/-- `Uuid::to_string` and `Uuid::parse_str`. -/
structure UuidText where
  text : Uuid → String
  parse : String → Option Uuid
  parse_text : ∀ uuid, parse (text uuid) = some uuid

/-! ## Hexadecimal digits -/

/-- The last digits of a number, base sixteen. -/
def hexDigits : Nat → Nat → List Nat
  | 0, _ => []
  | count + 1, value => hexDigits count (value / 16) ++ [value % 16]

/-- The digit of a character, in either case. -/
def hexDigit? (c : Char) : Option Nat :=
  ((List.range 16).find? fun d => d.digitChar == c || d.digitChar.toUpper == c)

/-- Digits in groups, from the left. -/
def grouped (digits : List Nat) : List Char :=
  digits.zipIdx.flatMap fun (digit, i) =>
    if i ∈ [8, 12, 16, 20] then ['-', digit.digitChar] else [digit.digitChar]

/-- The value of the digits of a text, without its hyphens. -/
def hexValue (text : String) : Option Nat :=
  ((text.toList.filter (· ≠ '-')).mapM hexDigit?).map (·.foldl (fun value digit => 16 * value + digit) 0)

theorem foldl_hexDigits (count value : Nat) :
    (hexDigits count value).foldl (fun value digit => 16 * value + digit) 0 = value % 16 ^ count := by
  induction count generalizing value with
  | zero => simp [hexDigits, Nat.mod_one]
  | succ count ih =>
    rw [hexDigits, List.foldl_append, ih, List.foldl_cons, List.foldl_nil, Nat.pow_succ', Nat.mod_mul,
      Nat.add_comm]

theorem hexDigits_lt {count value : Nat} : ∀ digit ∈ hexDigits count value, digit < 16 := by
  induction count generalizing value with
  | zero => exact nofun
  | succ count ih =>
    intro digit hdigit
    rcases List.mem_append.1 hdigit with hfront | hlast
    · exact ih digit hfront
    · rw [List.mem_singleton.1 hlast]
      exact Nat.mod_lt _ (by decide)

theorem hexDigit?_digitChar : ∀ digit < 16, digit.digitChar ≠ '-' ∧ hexDigit? digit.digitChar = some digit := by
  decide

/-! ## Groups -/

/-- The groups hold the digits. -/
theorem filter_grouped {digits : List Nat} (h : ∀ digit ∈ digits, digit < 16) :
    (grouped digits).filter (· ≠ '-') = digits.map Nat.digitChar := by
  have hplain : ∀ entry ∈ digits.zipIdx, (if entry.2 ∈ [8, 12, 16, 20] then ['-', entry.1.digitChar]
      else [entry.1.digitChar]).filter (· ≠ '-') = [entry.1.digitChar] := by
    intro entry hentry
    have hdigit := (hexDigit?_digitChar entry.1 (h _ (List.fst_mem_of_mem_zipIdx hentry))).1
    split <;> simp [hdigit]
  have hmap : (digits.zipIdx.map fun entry => entry.1.digitChar) = digits.map Nat.digitChar := by
    rw [← List.zipIdx_map_fst 0 digits, List.map_map, List.zipIdx_map_fst]
    rfl
  rw [grouped, List.filter_flatMap, List.flatMap_congr hplain, ← hmap]
  exact List.flatMap_pure_eq_map (fun entry => entry.1.digitChar) digits.zipIdx

theorem mapM_digitChar {digits : List Nat} (h : ∀ digit ∈ digits, digit < 16) :
    (digits.map Nat.digitChar).mapM hexDigit? = some digits := by
  induction digits with
  | nil => rfl
  | cons digit digits ih =>
    rw [List.forall_mem_cons] at h
    rw [List.map_cons, List.mapM_cons, (hexDigit?_digitChar digit h.1).2, ih h.2]
    rfl

/-- The hyphenated text of a `Uuid`. -/
def hyphenated : UuidText where
  text uuid := String.ofList (grouped (hexDigits 32 uuid.toNat))
  parse text := (hexValue text).map (BitVec.ofNat 128)
  parse_text uuid := by
    have hvalue : uuid.toNat % 16 ^ 32 = uuid.toNat := Nat.mod_eq_of_lt uuid.isLt
    rw [hexValue, String.toList_ofList, filter_grouped hexDigits_lt, mapM_digitChar hexDigits_lt,
      Option.map_some, foldl_hexDigits, hvalue, Option.map_some, BitVec.ofNat_toNat, BitVec.setWidth_eq]

end Fmarch.Platform
