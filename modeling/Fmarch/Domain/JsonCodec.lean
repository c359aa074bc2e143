import Fmarch.Domain.Values
import Fmarch.Lib.Serde
import Fmarch.Lib.StableSort

/-!
# JSON values as data (`serde_json`)

`jsonFormat`: `serde_json::Value` as a format of self-describing data. An object lists its entries in key order,
so what is read of it is found by key. The codecs of the atoms: text, truth values, integers of a fixed width,
floats and enumerations named by their variants.
-/

namespace Fmarch.Domain

open Serde StableSort

namespace Json

/-- `Value::as_object`. -/
def asObject : Json → Option (List (String × Json))
  | .object entries => some entries
  | _ => none

/-- `Value::is_null`. -/
def isNull : Json → Bool
  | .null => true
  | _ => false

/-- `Value::Object` of entries with distinct keys, kept in key order. -/
def ofEntries (entries : List (String × Json)) : Json :=
  .object (sortBy (fun a b => compare a.1 b.1) entries)

end Json

/-- `serde_json::Value`. -/
def jsonFormat : Format Json where
  null := .null
  isNull := Json.isNull
  object := Json.ofEntries
  entries := Json.asObject
  array := .array
  items := Json.asArray
  isNull_null := rfl
  entries_object es _ := ⟨_, rfl, sortBy_perm _ es⟩
  items_array _ := rfl

namespace JsonCodec

/-! ## Atoms -/

/-- `String`. -/
def text : Codec Json String where
  write := .string
  read := Json.asStr
  fits _ := True
  faithful _ _ := rfl

/-- `bool`. -/
def flag : Codec Json Bool where
  write := .bool
  read := Json.asBool
  fits _ := True
  faithful _ _ := rfl

/-- An integer type with the values from `low` up to below `high`. -/
def integer (low high : Int) : Codec Json Int where
  write := .number
  read
    | .number value => if low ≤ value ∧ value < high then some value else none
    | _ => none
  fits value := low ≤ value ∧ value < high
  faithful _ h := if_pos h

def i32 : Codec Json Int := integer (-2 ^ 31) (2 ^ 31)

def i64 : Codec Json Int := integer (-2 ^ 63) (2 ^ 63)

/-- An unsigned integer type of some width. -/
def unsigned (width : Nat) : Codec Json Nat where
  write value := .number value
  read
    | .number value => if 0 ≤ value ∧ value < 2 ^ width then some value.toNat else none
    | _ => none
  fits value := value < 2 ^ width
  faithful value h := by
    have hrange : (0 : Int) ≤ value ∧ (value : Int) < 2 ^ width := by
      refine ⟨Int.natCast_nonneg value, ?_⟩
      exact_mod_cast h
    exact if_pos hrange

/-- The text of a unit variant: its name, or an object with the name alone. -/
def variantName : Json → Option String
  | .string name => some name
  | .object [(name, .null)] => some name
  | _ => none

/-- An enumeration written by the names of its variants. -/
def enumeration {α : Type} (variants : List α) (name : α → String)
    (h : ∀ a, variants.find? (name · == name a) = some a) : Codec Json α where
  write a := .string (name a)
  read v := (variantName v).bind fun found => variants.find? (name · == found)
  fits _ := True
  faithful a _ := h a

end JsonCodec

/-! ## Floats -/

/-- `Number::from_f64` and `Number::as_f64`. A float that is not finite is written as null. -/
class JsonFloat (F : Type) [Float64 F] where
  toJson : F → Json
  ofJson : Json → Option F
  isNull_toJson : ∀ x, Float64.isFinite x = true → (toJson x).isNull = false
  ofJson_toJson : ∀ x, Float64.isFinite x = true → ofJson (toJson x) = some x

instance : JsonFloat Rat where
  toJson := .float
  ofJson
    | .float value => some value
    | .number value => some value
    | _ => none
  isNull_toJson _ _ := rfl
  ofJson_toJson _ _ := rfl

namespace JsonCodec

/-- `f64`. -/
def float {F : Type} [Float64 F] [JsonFloat F] : Codec Json F where
  write := JsonFloat.toJson
  read := JsonFloat.ofJson
  fits x := Float64.isFinite x = true
  faithful := JsonFloat.ofJson_toJson

/-! ## Ordered maps -/

/-- All values of an object, with their keys. -/
def readEntries {α : Type} (c : Codec Json α) : List (String × Json) → Option (List (String × α))
  | [] => some []
  | (key, v) :: rest => (c.read v).bind fun a => (readEntries c rest).map ((key, a) :: ·)

theorem readEntries_map {α : Type} (c : Codec Json α) {entries : List (String × α)}
    (h : ∀ entry ∈ entries, c.fits entry.2) :
    readEntries c (entries.map fun entry => (entry.1, c.write entry.2)) = some entries := by
  induction entries with
  | nil => rfl
  | cons entry entries ih =>
    rw [List.forall_mem_cons] at h
    rw [List.map_cons, readEntries, c.faithful entry.2 h.1, Option.bind_some, ih h.2]
    rfl

/-- The entries of a `BTreeMap<String, _>`, in key order. -/
def dictionary {α : Type} (c : Codec Json α) : Codec Json (List (String × α)) where
  write entries := .object (entries.map fun entry => (entry.1, c.write entry.2))
  read v := v.asObject.bind (readEntries c)
  fits entries := ∀ entry ∈ entries, c.fits entry.2
  faithful entries h := by
    show readEntries c (entries.map fun entry => (entry.1, c.write entry.2)) = some entries
    exact readEntries_map c h

/-! ## Kinds of fields -/

section Fields

variable (key : String)

def textField : Fields Json String := .required key text

def flagField : Fields Json Bool := .required key flag

def textsField : Fields Json (List String) := .required key (jsonFormat.list text)

/-- `Option<String>`, written as null where there is none. -/
def nullableText : Fields Json (Option String) := .optional key (jsonFormat.nullable text fun _ _ => rfl)

/-- `Option<String>`, left out where there is none. -/
def presentText : Fields Json (Option String) := .present key (jsonFormat.nullable text fun _ _ => rfl)

def natField (width : Nat) : Fields Json Nat := .required key (unsigned width)

def nullableNat (width : Nat) : Fields Json (Option Nat) :=
  .optional key (jsonFormat.nullable (unsigned width) fun _ _ => rfl)

def presentNat (width : Nat) : Fields Json (Option Nat) :=
  .present key (jsonFormat.nullable (unsigned width) fun _ _ => rfl)

section Floats

variable {F : Type} [Float64 F] [JsonFloat F]

def floatField : Fields Json F := .required key float

def nullableFloat : Fields Json (Option F) :=
  .optional key (jsonFormat.nullable float JsonFloat.isNull_toJson)

def presentFloat : Fields Json (Option F) :=
  .present key (jsonFormat.nullable float JsonFloat.isNull_toJson)

end Floats

end Fields

/-- A closed struct. -/
def closed {α : Type} (fields : Fields Json α)
    (distinct : fields.keys.Nodup := by exact of_decide_eq_true rfl) : Codec Json α :=
  jsonFormat.record fields true true distinct

/-- A struct that ignores other keys. -/
def openRecord {α : Type} (fields : Fields Json α)
    (distinct : fields.keys.Nodup := by exact of_decide_eq_true rfl) : Codec Json α :=
  jsonFormat.record fields false true distinct

/-- A struct variant of a closed enumeration, which is not read from an array. -/
def variant {α : Type} (fields : Fields Json α)
    (distinct : fields.keys.Nodup := by exact of_decide_eq_true rfl) : Codec Json α :=
  jsonFormat.record fields true false distinct

/-! ## What fits -/

section Fits

variable {α : Type} {key : String}

@[simp] theorem text_fits (a : String) : text.fits a := trivial

@[simp] theorem closed_fits {fields : Fields Json α} {distinct : fields.keys.Nodup} {a : α} :
    (closed fields distinct).fits a ↔ fields.fits a :=
  Iff.rfl

@[simp] theorem openRecord_fits {fields : Fields Json α} {distinct : fields.keys.Nodup} {a : α} :
    (openRecord fields distinct).fits a ↔ fields.fits a :=
  Iff.rfl

@[simp] theorem textField_fits (a : String) : (textField key).fits a := fun _ => trivial

@[simp] theorem flagField_fits (a : Bool) : (flagField key).fits a := fun _ => trivial

@[simp] theorem textsField_fits (as : List String) : (textsField key).fits as := fun _ _ _ => trivial

@[simp] theorem nullableText_fits (a : Option String) : (nullableText key).fits a := fun _ _ _ => trivial

@[simp] theorem presentText_fits (a : Option String) : (presentText key).fits a := fun _ _ _ => trivial

@[simp] theorem natField_fits {width n : Nat} : (natField key width).fits n ↔ n < 2 ^ width :=
  Fields.required_fits

@[simp] theorem nullableNat_fits {width : Nat} {a : Option Nat} :
    (nullableNat key width).fits a ↔ ∀ n ∈ a, n < 2 ^ width :=
  Fields.optional_fits

@[simp] theorem presentNat_fits {width : Nat} {a : Option Nat} :
    (presentNat key width).fits a ↔ ∀ n ∈ a, n < 2 ^ width := by
  show (a.isNone = false → ∀ n ∈ a, n < 2 ^ width) ↔ _
  cases a <;> simp

variable {F : Type} [Float64 F] [JsonFloat F]

@[simp] theorem floatField_fits {x : F} : (floatField key).fits x ↔ Float64.isFinite x = true :=
  Fields.required_fits

@[simp] theorem nullableFloat_fits {a : Option F} :
    (nullableFloat key).fits a ↔ ∀ x ∈ a, Float64.isFinite x = true :=
  Fields.optional_fits

@[simp] theorem presentFloat_fits {a : Option F} :
    (presentFloat key).fits a ↔ ∀ x ∈ a, Float64.isFinite x = true := by
  show (a.isNone = false → ∀ x ∈ a, Float64.isFinite x = true) ↔ _
  cases a <;> simp

end Fits

end JsonCodec

end Fmarch.Domain
