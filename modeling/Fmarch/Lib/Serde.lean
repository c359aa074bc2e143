import Fmarch.Lib.Keyed

/-!
# Codecs of self-describing data

Readers and writers of values of a type in a data format with objects, arrays and a null, built from those of
their parts. A codec carries its own round trip: what is written of a value that fits is read back as it.

**`Fields.pair`** and **`Format.record`**: a record is read back from its fields in any order, if its keys
are distinct.
-/

namespace Serde

open Keyed

variable {V α β : Type}

/-! ## Codecs -/

/-- A way to write the values of a type and to read them. -/
structure Codec (V α : Type) where
  write : α → V
  read : V → Option α
  fits : α → Prop
  faithful : ∀ a, fits a → read (write a) = some a

namespace Codec

/-- The data themselves. -/
def raw : Codec V V where
  write v := v
  read := some
  fits _ := True
  faithful _ _ := rfl

/-- A type that another one represents. -/
def map (c : Codec V α) (make : α → β) (parts : β → α) (h : ∀ b, make (parts b) = b) : Codec V β where
  write b := c.write (parts b)
  read v := (c.read v).map make
  fits b := c.fits (parts b)
  faithful b hb := by rw [c.faithful _ hb, Option.map_some, h]

/-- A type whose values have names. -/
def named (c : Codec V α) (name : β → α) (parse : α → Option β)
    (h : ∀ b, c.fits (name b) ∧ parse (name b) = some b) : Codec V β where
  write b := c.write (name b)
  read v := (c.read v).bind parse
  fits _ := True
  faithful b _ := by rw [c.faithful _ (h b).1, Option.bind_some, (h b).2]

theorem read_map (c : Codec V α) {make : α → β} {a : α} (h : c.fits a) :
    (c.read (c.write a)).map make = some (make a) :=
  congrArg (Option.map make) (c.faithful a h)

/-- All values of a list. -/
def readAll (c : Codec V α) : List V → Option (List α)
  | [] => some []
  | v :: vs => (c.read v).bind fun a => (c.readAll vs).map (a :: ·)

theorem readAll_map (c : Codec V α) {as : List α} (h : ∀ a ∈ as, c.fits a) :
    c.readAll (as.map c.write) = some as := by
  induction as with
  | nil => rfl
  | cons a as ih =>
    rw [List.forall_mem_cons] at h
    rw [List.map_cons, readAll, c.faithful a h.1, Option.bind_some, ih h.2]
    rfl

@[simp] theorem map_fits {c : Codec V α} {make : α → β} {parts : β → α} {h : ∀ b, make (parts b) = b} {b : β} :
    (c.map make parts h).fits b ↔ c.fits (parts b) :=
  Iff.rfl

end Codec

/-! ## Fields -/

/-- The value of a key. -/
def lookup (entries : List (String × V)) (key : String) : Option V :=
  (entries.find? (·.1 == key)).map (·.2)

variable {entries others : List (String × V)} {key : String}

theorem lookup_perm (h : entries.Perm others) (distinct : (entries.map Prod.fst).Nodup)
    (key : String) : lookup entries key = lookup others key := by
  unfold lookup
  rw [find?_perm Prod.fst h distinct]

theorem lookup_eq_none (h : key ∉ entries.map Prod.fst) : lookup entries key = none := by
  unfold lookup
  have hnone : entries.find? (·.1 == key) = none := by
    rw [List.find?_eq_none]
    intro entry hentry heq
    exact h (eq_of_beq heq ▸ List.mem_map_of_mem hentry)
  rw [hnone, Option.map_none]

theorem lookup_append_left (h : key ∉ others.map Prod.fst) : lookup (entries ++ others) key = lookup entries key := by
  have hnone := lookup_eq_none h
  unfold lookup at hnone ⊢
  rw [List.find?_append]
  cases hfind : entries.find? (·.1 == key) with
  | some entry => rfl
  | none => exact hnone

theorem lookup_append_right (h : key ∉ entries.map Prod.fst) : lookup (entries ++ others) key = lookup others key := by
  have hnone := lookup_eq_none h
  unfold lookup at hnone ⊢
  rw [List.find?_append, Option.map_eq_none_iff.1 hnone]
  rfl

/-- The fields of a record: their keys, what is written of them, and how they are read from the values of
their keys or from the values of an array, in order. -/
structure Fields (V α : Type) where
  keys : List String
  write : α → List (String × V)
  read : (String → Option V) → Option α
  readItems : List V → Option (α × List V)
  fits : α → Prop
  within : ∀ a, ((write a).map Prod.fst).Sublist keys
  faithful : keys.Nodup → ∀ a found, fits a → (∀ key ∈ keys, found key = lookup (write a) key) →
    read found = some a

namespace Fields

/-- One field. Where an object leaves it out it is `missing`, where an array ends before it it is `short`, and
`skip` says which values are not written. -/
def field (key : String) (c : Codec V α) (missing short : Option α) (skip : α → Bool)
    (h : ∀ a, skip a = true → missing = some a) : Fields V α where
  keys := [key]
  write a := if skip a then [] else [(key, c.write a)]
  read found := (found key).elim missing c.read
  readItems
    | [] => short.map (·, [])
    | v :: vs => (c.read v).map (·, vs)
  fits a := skip a = false → c.fits a
  within _ := by
    split
    · exact List.nil_sublist _
    · exact List.Sublist.refl _
  faithful _ a found hfits hfound := by
    rw [hfound key List.mem_cons_self]
    cases hskip : skip a with
    | true => exact h a hskip
    | false =>
      simp only [Bool.false_eq_true, if_false, lookup, List.find?_cons, beq_self_eq_true, Option.map_some]
      exact c.faithful a (hfits hskip)

/-- A field that must be there. -/
def required (key : String) (c : Codec V α) : Fields V α :=
  field key c none none (fun _ => false) nofun

/-- A field that is always written and that an object may leave out. -/
def optional (key : String) (c : Codec V (Option α)) : Fields V (Option α) :=
  field key c (some none) none (fun _ => false) nofun

/-- A field that is always written, with a default. -/
def defaulted (key : String) (c : Codec V α) (default : α) : Fields V α :=
  field key c (some default) (some default) (fun _ => false) nofun

/-- A field that is not written where it has its default. -/
def skipped (key : String) (c : Codec V α) (default : α) (skip : α → Bool)
    (h : ∀ a, skip a = true → default = a) : Fields V α :=
  field key c (some default) (some default) skip fun a hskip => congrArg some (h a hskip)

/-- A field that is not written where it is absent. -/
def present (key : String) (c : Codec V (Option α)) : Fields V (Option α) :=
  skipped key c none Option.isNone fun _ h => (Option.isNone_iff_eq_none.1 h).symm

variable {a : α} {c : Codec V α} {key : String} {f : Fields V α} {g : Fields V β}

/-- A field with a default holds a value if it is there with it, or missing with the default. -/
theorem defaulted_read {default : α} {found : String → Option V}
    (h : found key = some (c.write a) ∧ c.fits a ∨ found key = none ∧ a = default) :
    (defaulted key c default).read found = some a := by
  show (found key).elim (some default) c.read = some a
  obtain ⟨hfound, hfits⟩ | ⟨hfound, rfl⟩ := h
  · rw [hfound]
    exact c.faithful a hfits
  · rw [hfound]
    rfl

theorem present_keys {c : Codec V (Option α)} {a : Option α} {P : String → Prop} :
    (∀ k ∈ ((present key c).write a).map Prod.fst, P k) ↔ (a ≠ none → P key) := by
  show (∀ k ∈ (if a.isNone then [] else [(key, c.write a)]).map Prod.fst, P k) ↔ _
  cases a <;> simp

/-- Both kinds of fields. -/
def pair (f : Fields V α) (g : Fields V β) : Fields V (α × β) where
  keys := f.keys ++ g.keys
  write p := f.write p.1 ++ g.write p.2
  read found := (f.read found).bind fun a => (g.read found).map (a, ·)
  readItems vs := (f.readItems vs).bind fun front => (g.readItems front.2).map fun back =>
    ((front.1, back.1), back.2)
  fits p := f.fits p.1 ∧ g.fits p.2
  within p := by
    rw [List.map_append]
    exact (f.within p.1).append (g.within p.2)
  faithful distinct p found hfits hfound := by
    obtain ⟨hf, hg, hapart⟩ := List.nodup_append.1 distinct
    have hleft : ∀ key ∈ f.keys, found key = lookup (f.write p.1) key := fun key hkey => by
      rw [hfound key (List.mem_append_left _ hkey), lookup_append_left]
      exact fun hother => hapart key hkey key ((g.within p.2).subset hother) rfl
    have hright : ∀ key ∈ g.keys, found key = lookup (g.write p.2) key := fun key hkey => by
      rw [hfound key (List.mem_append_right _ hkey), lookup_append_right]
      exact fun hother => hapart key ((f.within p.1).subset hother) key hkey rfl
    rw [f.faithful hf p.1 found hfits.1 hleft, Option.bind_some, g.faithful hg p.2 found hfits.2 hright]
    rfl

@[simp] theorem required_fits : (required key c).fits a ↔ c.fits a :=
  forall_prop_of_true rfl

@[simp] theorem optional_fits {c : Codec V (Option α)} {a : Option α} : (optional key c).fits a ↔ c.fits a :=
  forall_prop_of_true rfl

@[simp] theorem skipped_fits {default : α} {skip : α → Bool} {h : ∀ a, skip a = true → default = a} :
    (skipped key c default skip h).fits a ↔ (skip a = false → c.fits a) :=
  Iff.rfl

@[simp] theorem pair_fits {p : α × β} : (f.pair g).fits p ↔ f.fits p.1 ∧ g.fits p.2 :=
  Iff.rfl

theorem pair_read {found : String → Option V} {b : β} (hf : f.read found = some a)
    (hg : g.read found = some b) : (f.pair g).read found = some (a, b) := by
  show ((f.read found).bind fun a => (g.read found).map (a, ·)) = _
  rw [hf, hg]
  rfl

theorem pair_keys {p : α × β} {P : String → Prop} : (∀ k ∈ ((f.pair g).write p).map Prod.fst, P k) ↔
      (∀ k ∈ (f.write p.1).map Prod.fst, P k) ∧ ∀ k ∈ (g.write p.2).map Prod.fst, P k := by
  show (∀ k ∈ (f.write p.1 ++ g.write p.2).map Prod.fst, P k) ↔ _
  rw [List.map_append, List.forall_mem_append]

end Fields

/-! ## Formats -/

/-- A self-describing data format. The entries of an object may come back in another order. -/
structure Format (V : Type) where
  null : V
  isNull : V → Bool
  object : List (String × V) → V
  entries : V → Option (List (String × V))
  array : List V → V
  items : V → Option (List V)
  isNull_null : isNull null = true
  entries_object : ∀ es, (es.map Prod.fst).Nodup → ∃ es', entries (object es) = some es' ∧ es'.Perm es
  items_array : ∀ vs, items (array vs) = some vs

namespace Format

variable (format : Format V)

/-- A value or null. -/
def nullable (c : Codec V α) (solid : ∀ a, c.fits a → format.isNull (c.write a) = false) :
    Codec V (Option α) where
  write a := a.elim format.null c.write
  read v := if format.isNull v then some none else (c.read v).map some
  fits a := ∀ b ∈ a, c.fits b
  faithful a h := by
    cases a with
    | none => exact if_pos format.isNull_null
    | some a =>
      have hfits : c.fits a := h a rfl
      refine (if_neg (by simp [solid a hfits])).trans ?_
      exact congrArg (Option.map some) (c.faithful a hfits)

/-- A value; null reads as a default. -/
def nullAs (c : Codec V α) (default : α) (solid : ∀ a, c.fits a → format.isNull (c.write a) = false) :
    Codec V α where
  write := c.write
  read v := if format.isNull v then some default else c.read v
  fits := c.fits
  faithful a h := by
    rw [solid a h]
    exact c.faithful a h

/-- A value that null is not one of, where it is there. -/
def filled (c : Codec V α) : Codec V (Option α) where
  write a := a.elim format.null c.write
  read v := (c.read v).map some
  fits a := ∃ b ∈ a, c.fits b
  faithful a h := by
    obtain ⟨b, hb, hfits⟩ := h
    subst hb
    exact congrArg (Option.map some) (c.faithful b hfits)

/-- An array of values. -/
def list (c : Codec V α) : Codec V (List α) where
  write as := format.array (as.map c.write)
  read v := (format.items v).bind c.readAll
  fits as := ∀ a ∈ as, c.fits a
  faithful as h := by rw [format.items_array, Option.bind_some, c.readAll_map h]

/-- A record: an object that a closed record admits no other keys in, or, for a positional one, an array of
exactly its fields. -/
def readRecord (f : Fields V α) (closed positional : Bool) (v : V) : Option α :=
  match format.entries v with
  | some entries =>
    if closed && !entries.all (f.keys.contains ·.1) then none else f.read (lookup entries)
  | none =>
    if positional then
      (format.items v).bind fun vs => (f.readItems vs).bind fun (a, rest) => if rest.isEmpty then some a else none
    else none

/-- An object with the keys of a record is read by its values, in whatever order it lists them. -/
theorem readRecord_object (f : Fields V α) (closed positional : Bool) {es : List (String × V)}
    (distinct : (es.map Prod.fst).Nodup) (known : ∀ key ∈ es.map Prod.fst, key ∈ f.keys) :
    format.readRecord f closed positional (format.object es) = f.read (lookup es) := by
  obtain ⟨entries, hentries, hperm⟩ := format.entries_object es distinct
  have hknown : entries.all (f.keys.contains ·.1) = true := by
    rw [List.all_eq_true]
    intro entry hentry
    rw [List.contains_iff_mem]
    exact known _ (List.mem_map_of_mem (hperm.subset hentry))
  have hlookup : lookup entries = lookup es :=
    funext fun _ => lookup_perm hperm ((hperm.map Prod.fst).nodup_iff.2 distinct) _
  unfold readRecord
  rw [hentries]
  simp only [hknown, Bool.not_true, Bool.and_false, Bool.false_eq_true, if_false, hlookup]

/-- A closed record is read of an object with no other keys than its own. -/
theorem readRecord_closed {f : Fields V α} (positional : Bool) {es : List (String × V)} {a : α}
    (distinct : (es.map Prod.fst).Nodup)
    (h : format.readRecord f true positional (format.object es) = some a) :
    (∀ key ∈ es.map Prod.fst, key ∈ f.keys) ∧ f.read (lookup es) = some a := by
  have hknown : ∀ key ∈ es.map Prod.fst, key ∈ f.keys := by
    obtain ⟨entries, hentries, hperm⟩ := format.entries_object es distinct
    intro key hkey
    obtain ⟨entry, hentry, rfl⟩ := List.mem_map.1 ((hperm.map Prod.fst).mem_iff.2 hkey)
    unfold readRecord at h
    rw [hentries] at h
    by_contra hother
    have hopen : entries.all (f.keys.contains ·.1) = false := by
      rw [List.all_eq_false]
      exact ⟨entry, hentry, by simpa using hother⟩
    simp only [hopen, Bool.not_false, Bool.and_self, if_true] at h
    cases h
  exact ⟨hknown, (format.readRecord_object f true positional distinct hknown).symm.trans h⟩

/-- A record. -/
def record (f : Fields V α) (closed positional : Bool) (distinct : f.keys.Nodup) : Codec V α where
  write a := format.object (f.write a)
  read := format.readRecord f closed positional
  fits := f.fits
  faithful a hfits := by
    rw [format.readRecord_object f closed positional ((f.within a).nodup distinct) fun _ h =>
      (f.within a).subset h]
    exact f.faithful distinct a _ hfits fun _ _ => rfl

@[simp] theorem list_fits {c : Codec V α} {as : List α} : (format.list c).fits as ↔ ∀ a ∈ as, c.fits a :=
  Iff.rfl

end Format

end Serde
