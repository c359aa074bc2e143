import Fmarch.Lib.Fallible
import Fmarch.Lib.JsonText
import Mathlib

/-!
# Variant sets and their manifest (`media/src/variants.rs`)

An upload comes to a canonical raster, six variants of it in two formats and three sizes, and a manifest that
names the variants with their lengths and digests. The identity of all of it is the digest of the raster.

**`parseManifest_serialize`**: whatever a reader makes of a set's manifest is that set. `serde_json`'s reader
is left open, since the manifest is accepted only if writing what was read gives the same bytes; so are the
codecs, BLAKE3, and the canonical form of a raster.
-/

namespace Fmarch.Media

/-! ## Values -/

/-- `Vec<u8>`, `Bytes`. -/
abbrev Bytes := ByteArray

/-- A lowercase hexadecimal digit. -/
def isHexDigit (c : Char) : Bool := ('0' ≤ c && c ≤ '9') || ('a' ≤ c && c ≤ 'f')

/-- `ContentId`, by its text. -/
structure ContentId where
  text : String
  valid : text.length = 64 ∧ text.toList.all isHexDigit = true
  deriving DecidableEq

def ContentId.fromStr (value : String) : Option ContentId :=
  if h : value.length = 64 ∧ value.toList.all isHexDigit = true then some ⟨value, h⟩ else none

def invalidContentId : String := "content id must be exactly 64 lowercase hexadecimal characters"

inductive VariantFormat where
  | avif | webp
  deriving DecidableEq

namespace VariantFormat

/-- `VariantFormat::ALL`. -/
def all : List VariantFormat := [.avif, .webp]

/-- `VariantFormat::mime_type`. -/
def mimeType : VariantFormat → String
  | .avif => "image/avif"
  | .webp => "image/webp"

/-- `VariantFormat::component`, also what is serialized. -/
def component : VariantFormat → String
  | .avif => "avif"
  | .webp => "webp"

end VariantFormat

inductive VariantKind where
  | thumb | tablet | fullBounded
  deriving DecidableEq

namespace VariantKind

/-- `VariantKind::ALL`. -/
def all : List VariantKind := [.thumb, .tablet, .fullBounded]

/-- `VariantKind::maximum_dimensions`. -/
def maximumDimensions : VariantKind → Nat × Nat
  | .thumb => (256, 256)
  | .tablet => (1280, 1280)
  | .fullBounded => (2560, 2560)

/-- `VariantKind::component`, also what is serialized. -/
def component : VariantKind → String
  | .thumb => "thumb"
  | .tablet => "tablet"
  | .fullBounded => "full-bounded"

end VariantKind

def variantRecipeRevision : String :=
  "v1-img02510-ravif0130-q72-s6-t1-webp024-lossless-lanczos3-pmul-floor"

def manifestSchema : String := "fmarch.media.variants.v1"

def manifestMaxBytes : Nat := 32 * 1024

def variantCount : Nat := 6

structure VariantKey where
  source : ContentId
  format : VariantFormat
  kind : VariantKind

/-- The text of a `VariantKey`. -/
def VariantKey.text (key : VariantKey) : String :=
  key.source.text ++ "/" ++ variantRecipeRevision ++ "/" ++ key.format.component ++ "/" ++ key.kind.component

structure VariantRecord where
  key : VariantKey
  width : Nat
  height : Nat
  encodedLen : Nat
  blake3 : ContentId
  hasAlpha : Bool

structure VariantSet where
  source : ContentId
  sourceWidth : Nat
  sourceHeight : Nat
  variants : List VariantRecord

/-- `MediaLimits`, as far as they bear on stored sets. -/
structure MediaLimits where
  maxWidth : Nat
  maxHeight : Nat
  maxPixels : Nat
  maxDecodedBytes : Nat

structure VariantLimits where
  maxWidth : Nat
  maxHeight : Nat
  maxPixels : Nat
  maxMemberEncodedBytes : Nat
  maxTotalEncodedBytes : Nat

/-- `MediaError`; what the codecs and the raster's canonical form may say is one constructor. -/
inductive MediaError where
  | dimensionsExceeded (width height maxWidth maxHeight : Nat)
  | pixelCountExceeded (pixels maxPixels : Nat)
  | decodedBytesExceeded (actual max : Nat)
  | corruptStoredRaster (id : ContentId) (reason : String)
  | invalidVariantLimits (reason : String)
  | variantDimensionsExceeded (key : VariantKey) (width height : Nat)
  | variantPixelCountExceeded (key : VariantKey) (pixels maxPixels : Nat)
  | variantEncodedBytesExceeded (key : VariantKey) (max : Nat)
  | variantAggregateBytesExceeded (id : ContentId) (max : Nat)
  | corruptVariantSet (id : ContentId) (reason : String)
  | objectStore (operation reason : String)
  | readCapacityExhausted (resource : String)
  | codec (reason : String)

/-- The text of a `MediaError`. -/
def MediaError.text : MediaError → String
  | .dimensionsExceeded width height maxWidth maxHeight =>
    s!"image dimensions {width}x{height} exceed the {maxWidth}x{maxHeight} limits"
  | .pixelCountExceeded pixels maxPixels => s!"image has {pixels} pixels; limit is {maxPixels}"
  | .decodedBytesExceeded actual max => s!"decoded image requires {actual} bytes; limit is {max} bytes"
  | .corruptStoredRaster id reason => s!"stored media {id.text} is corrupt: {reason}"
  | .invalidVariantLimits reason => s!"invalid variant limits: {reason}"
  | .variantDimensionsExceeded key width height =>
    s!"variant {key.text} dimensions {width}x{height} exceed configured output bounds"
  | .variantPixelCountExceeded key pixels maxPixels =>
    s!"variant {key.text} has {pixels} pixels; limit is {maxPixels}"
  | .variantEncodedBytesExceeded key max =>
    s!"variant {key.text} exceeded its encoded-byte limit of {max} bytes"
  | .variantAggregateBytesExceeded id max =>
    s!"variant set for {id.text} exceeded its aggregate encoded-byte limit of {max} bytes"
  | .corruptVariantSet id reason => s!"variant set for {id.text} is corrupt: {reason}"
  | .objectStore operation reason => s!"media object-store {operation} failed: {reason}"
  | .readCapacityExhausted resource => s!"media read {resource} capacity is exhausted"
  | .codec reason => reason

/-! ## Limits -/

open Fallible (refuseIf bind_eq_ok)

def VariantLimits.validate (limits : VariantLimits) : Except MediaError Unit := do
  refuseIf (limits.maxWidth = 0) (.invalidVariantLimits "max_width must be non-zero")
  refuseIf (limits.maxHeight = 0) (.invalidVariantLimits "max_height must be non-zero")
  refuseIf (limits.maxPixels = 0) (.invalidVariantLimits "max_pixels must be non-zero")
  refuseIf (limits.maxMemberEncodedBytes = 0)
    (.invalidVariantLimits "max_member_encoded_bytes must be non-zero")
  refuseIf (limits.maxTotalEncodedBytes = 0)
    (.invalidVariantLimits "max_total_encoded_bytes must be non-zero")

/-- `check_dimensions`, with `check_decoded_bytes`. -/
def checkDimensions (limits : MediaLimits) (width height : Nat) : Except MediaError Unit := do
  refuseIf (width = 0 ∨ height = 0 ∨ limits.maxWidth < width ∨ limits.maxHeight < height)
    (.dimensionsExceeded width height limits.maxWidth limits.maxHeight)
  refuseIf (limits.maxPixels < width * height) (.pixelCountExceeded (width * height) limits.maxPixels)
  let decoded := min (width * height * 4) (2 ^ 64 - 1)
  refuseIf (limits.maxDecodedBytes < decoded) (.decodedBytesExceeded decoded limits.maxDecodedBytes)

def fittedDimensions (width height maxWidth maxHeight : Nat) : Except MediaError (Nat × Nat) :=
  if width = 0 ∨ height = 0 ∨ maxWidth = 0 ∨ maxHeight = 0 then
    .error (.invalidVariantLimits "fit dimensions must be non-zero")
  else if width ≤ maxWidth ∧ height ≤ maxHeight then .ok (width, height)
  else if height * maxWidth < width * maxHeight then .ok (maxWidth, max (height * maxWidth / width) 1)
  else .ok (max (width * maxHeight / height) 1, maxHeight)

def checkVariantDimensions (key : VariantKey) (width height : Nat) (limits : VariantLimits) :
    Except MediaError Unit := do
  refuseIf (width = 0 ∨ height = 0 ∨ limits.maxWidth < width ∨ limits.maxHeight < height)
    (.variantDimensionsExceeded key width height)
  refuseIf (limits.maxPixels < width * height)
    (.variantPixelCountExceeded key (width * height) limits.maxPixels)

/-- The loop of `validate_manifest_policy`, with the length of the members before. -/
def checkRecords (id : ContentId) (set : VariantSet) (limits : VariantLimits) :
    List VariantRecord → Nat → Except MediaError Unit
  | [], _ => .ok ()
  | record :: records, aggregate => do
    let (maxWidth, maxHeight) := record.key.kind.maximumDimensions
    let expected ← fittedDimensions set.sourceWidth set.sourceHeight maxWidth maxHeight
    refuseIf ((record.width, record.height) ≠ expected)
      (.corruptVariantSet id s!"{record.key.text} dimensions do not match the fixed policy")
    checkVariantDimensions record.key record.width record.height limits
    refuseIf (record.encodedLen = 0) (.corruptVariantSet id s!"{record.key.text} is empty")
    refuseIf (limits.maxMemberEncodedBytes < record.encodedLen)
      (.variantEncodedBytesExceeded record.key limits.maxMemberEncodedBytes)
    refuseIf (2 ^ 64 ≤ aggregate + record.encodedLen)
      (.corruptVariantSet id "variant aggregate encoded length overflow")
    refuseIf (limits.maxTotalEncodedBytes < aggregate + record.encodedLen)
      (.variantAggregateBytesExceeded id limits.maxTotalEncodedBytes)
    checkRecords id set limits records (aggregate + record.encodedLen)

def validateManifestPolicy (mediaLimits : MediaLimits) (id : ContentId) (set : VariantSet)
    (limits : VariantLimits) : Except MediaError Unit := do
  limits.validate
  match checkDimensions mediaLimits set.sourceWidth set.sourceHeight with
  | .error error =>
    .error (.corruptVariantSet id s!"manifest source dimensions violate policy: {error.text}")
  | .ok _ => checkRecords id set limits set.variants 0

/-! ## Manifests -/

structure DiskVariant where
  format : VariantFormat
  kind : VariantKind
  mime : String
  width : Nat
  height : Nat
  encodedLen : Nat
  blake3 : String
  hasAlpha : Bool

structure DiskManifest where
  schema : String
  sourceId : String
  sourceWidth : Nat
  sourceHeight : Nat
  recipeRevision : String
  variants : List DiskVariant

open JsonText

/-- A field of an object after another. -/
def field (name : String) (rest : List Char) : List Char := ',' :: quoted name ++ ':' :: rest

/-- The text of a `DiskVariant`. -/
def DiskVariant.write (entry : DiskVariant) : List Char :=
  '{' :: quoted "format" ++ ':' :: quoted entry.format.component ++
    field "kind" (quoted entry.kind.component ++
    field "mime" (quoted entry.mime ++
    field "width" (number entry.width ++
    field "height" (number entry.height ++
    field "encoded_len" (number entry.encodedLen ++
    field "blake3" (quoted entry.blake3 ++
    field "has_alpha" (boolean entry.hasAlpha ++ ['}'])))))))

/-- The text of a `DiskManifest`. -/
def DiskManifest.write (disk : DiskManifest) : List Char :=
  '{' :: quoted "schema" ++ ':' :: quoted disk.schema ++
    field "source_id" (quoted disk.sourceId ++
    field "source_width" (number disk.sourceWidth ++
    field "source_height" (number disk.sourceHeight ++
    field "recipe_revision" (quoted disk.recipeRevision ++
    field "variants" (array DiskVariant.write disk.variants ++ ['}'])))))

/-- `serde_json::to_vec` of a manifest. -/
def toVec (disk : DiskManifest) : Bytes := (String.ofList disk.write).toUTF8

/-- The entry of a record. -/
def diskVariant (record : VariantRecord) : DiskVariant where
  format := record.key.format
  kind := record.key.kind
  mime := record.key.format.mimeType
  width := record.width
  height := record.height
  encodedLen := record.encodedLen
  blake3 := record.blake3.text
  hasAlpha := record.hasAlpha

/-- The manifest of a set. -/
def diskManifest (set : VariantSet) : DiskManifest where
  schema := manifestSchema
  sourceId := set.source.text
  sourceWidth := set.sourceWidth
  sourceHeight := set.sourceHeight
  recipeRevision := variantRecipeRevision
  variants := set.variants.map diskVariant

/-- The roles of a set's members, in order. -/
def roles : List (VariantFormat × VariantKind) :=
  VariantFormat.all.flatMap fun format => VariantKind.all.map fun kind => (format, kind)

def serializeManifest (set : VariantSet) : Bytes := toVec (diskManifest set)

/-- One entry of a manifest. -/
def parseEntry (id : ContentId) (entry : DiskVariant) (index : Nat) : Except MediaError VariantRecord := do
  refuseIf (some entry.format ≠ VariantFormat.all[index / VariantKind.all.length]? ∨
      some entry.kind ≠ VariantKind.all[index % VariantKind.all.length]? ∨
      entry.mime ≠ entry.format.mimeType)
    (.corruptVariantSet id "manifest variant ordering or MIME mismatch")
  match ContentId.fromStr entry.blake3 with
  | none => .error (.corruptVariantSet id invalidContentId)
  | some blake3 =>
    .ok { key := ⟨id, entry.format, entry.kind⟩, width := entry.width, height := entry.height
          encodedLen := entry.encodedLen, blake3, hasAlpha := entry.hasAlpha }

/-- The entries of a manifest from an index on. -/
def parseEntries (id : ContentId) : List DiskVariant → Nat → Except MediaError (List VariantRecord)
  | [], _ => .ok []
  | entry :: entries, index => do
    let record ← parseEntry id entry index
    let records ← parseEntries id entries (index + 1)
    .ok (record :: records)

/-- `parse_manifest`, with `serde_json::from_slice`. -/
def parseManifest (fromSlice : Bytes → Except String DiskManifest) (id : ContentId) (bytes : Bytes) :
    Except MediaError VariantSet :=
  match fromSlice bytes with
  | .error reason => .error (.corruptVariantSet id reason)
  | .ok disk => do
    refuseIf (toVec disk ≠ bytes) (.corruptVariantSet id "manifest serialization is not canonical")
    refuseIf (disk.schema ≠ manifestSchema ∨ disk.sourceId ≠ id.text ∨ disk.sourceWidth = 0 ∨
        disk.sourceHeight = 0 ∨ disk.recipeRevision ≠ variantRecipeRevision ∨
        disk.variants.length ≠ variantCount)
      (.corruptVariantSet id "manifest identity/schema/count mismatch")
    let variants ← parseEntries id disk.variants 0
    .ok { source := id, sourceWidth := disk.sourceWidth, sourceHeight := disk.sourceHeight, variants }

/-! ## The text of a manifest -/

theorem component_injective {format format' : VariantFormat} (h : format.component = format'.component) :
    format = format' := by
  cases format <;> cases format' <;> first | rfl | exact absurd h (by decide)

theorem kind_component_injective {kind kind' : VariantKind} (h : kind.component = kind'.component) :
    kind = kind' := by
  cases kind <;> cases kind' <;> first | rfl | exact absurd h (by decide)

theorem field_cancel {name : String} {rest rest' : List Char} (h : field name rest = field name rest') :
    rest = rest' := by
  simp only [field, List.cons.injEq, List.append_cancel_left_eq, true_and] at h
  exact h

theorem field_append (name : String) (rest more : List Char) :
    field name rest ++ more = field name (rest ++ more) := by
  simp [field]

theorem ends_field (name : String) (rest : List Char) : Ends (field name rest) := by
  intro c hc
  obtain rfl : ',' = c := Option.some.inj hc
  decide

theorem DiskVariant.write_cancel {entry entry' : DiskVariant} {rest rest' : List Char}
    (h : entry.write ++ rest = entry'.write ++ rest') : entry = entry' ∧ rest = rest' := by
  obtain ⟨format, kind, mime, width, height, encodedLen, blake3, hasAlpha⟩ := entry
  obtain ⟨format', kind', mime', width', height', encodedLen', blake3', hasAlpha'⟩ := entry'
  simp only [write, List.cons_append, List.append_assoc, field_append, List.nil_append, List.cons.injEq,
    List.append_cancel_left_eq, true_and] at h
  obtain ⟨hformat, hafter⟩ := quoted_cancel h
  obtain ⟨hkind, hafter⟩ := quoted_cancel (field_cancel hafter)
  obtain ⟨rfl, hmime⟩ := quoted_cancel (field_cancel hafter)
  obtain ⟨rfl, hwidth⟩ := number_cancel (ends_field _ _) (ends_field _ _) (field_cancel hmime)
  obtain ⟨rfl, hheight⟩ := number_cancel (ends_field _ _) (ends_field _ _) (field_cancel hwidth)
  obtain ⟨rfl, hlen⟩ := number_cancel (ends_field _ _) (ends_field _ _) (field_cancel hheight)
  obtain ⟨rfl, hblake3⟩ := quoted_cancel (field_cancel hlen)
  obtain ⟨rfl, halpha⟩ := boolean_cancel (field_cancel hblake3)
  obtain rfl := component_injective hformat
  obtain rfl := kind_component_injective hkind
  exact ⟨rfl, (List.cons.inj halpha).2⟩

theorem DiskManifest.write_injective {disk disk' : DiskManifest} (h : disk.write = disk'.write) :
    disk = disk' := by
  obtain ⟨schema, sourceId, sourceWidth, sourceHeight, recipeRevision, variants⟩ := disk
  obtain ⟨schema', sourceId', sourceWidth', sourceHeight', recipeRevision', variants'⟩ := disk'
  simp only [write, List.cons_append, List.append_assoc, List.cons.injEq, List.append_cancel_left_eq,
    true_and] at h
  obtain ⟨rfl, hschema⟩ := quoted_cancel h
  obtain ⟨rfl, hid⟩ := quoted_cancel (field_cancel hschema)
  obtain ⟨rfl, hwidth⟩ := number_cancel (ends_field _ _) (ends_field _ _) (field_cancel hid)
  obtain ⟨rfl, hheight⟩ := number_cancel (ends_field _ _) (ends_field _ _) (field_cancel hwidth)
  obtain ⟨rfl, hrevision⟩ := quoted_cancel (field_cancel hheight)
  have hopen : ∀ (entry : DiskVariant) rest rest', entry.write ++ rest ≠ ']' :: rest' := by
    intro entry rest rest' hbracket
    exact absurd (List.cons.inj hbracket).1 (by decide)
  obtain ⟨rfl, -⟩ := array_cancel DiskVariant.write_cancel hopen (field_cancel hrevision)
  rfl

theorem toVec_injective {disk disk' : DiskManifest} (h : toVec disk = toVec disk') : disk = disk' := by
  have htext := String.toByteArray_inj.1 h
  exact DiskManifest.write_injective (String.ofList_injective htext)

/-! ## What a reader makes of a manifest -/

theorem fromStr_text (id : ContentId) : ContentId.fromStr id.text = some id := dif_pos id.valid

variable {id : ContentId} {index : Nat}

theorem parseEntry_diskVariant {record found : VariantRecord} (hsource : record.key.source = id)
    (h : parseEntry id (diskVariant record) index = .ok found) :
    found = record := by
  unfold parseEntry at h
  obtain ⟨_, -, h⟩ := bind_eq_ok.1 h
  rw [show (diskVariant record).blake3 = record.blake3.text from rfl, fromStr_text] at h
  obtain rfl := Except.ok.inj h
  subst hsource
  rfl

theorem parseEntries_diskVariant {records found : List VariantRecord}
    (hsource : ∀ record ∈ records, record.key.source = id)
    (h : parseEntries id (records.map diskVariant) index = .ok found) : found = records := by
  induction records generalizing found index with
  | nil => exact (Except.ok.inj h).symm
  | cons record records ih =>
    obtain ⟨first, hfirst, h⟩ := bind_eq_ok.1 h
    obtain ⟨others, hothers, h⟩ := bind_eq_ok.1 h
    obtain rfl := Except.ok.inj h
    rw [parseEntry_diskVariant (hsource record List.mem_cons_self) hfirst,
      ih (fun other hother => hsource other (List.mem_cons_of_mem _ hother)) hothers]

variable {fromSlice : Bytes → Except String DiskManifest}

/-- **The manifest of a set is read as that set, if at all.** -/
theorem parseManifest_serialize {set found : VariantSet} (hsource : set.source = id)
    (hsources : ∀ record ∈ set.variants, record.key.source = id)
    (h : parseManifest fromSlice id (serializeManifest set) = .ok found) : found = set := by
  unfold parseManifest at h
  cases hread : fromSlice (serializeManifest set) with
  | error reason =>
    rw [hread] at h
    cases h
  | ok disk =>
    rw [hread] at h
    obtain ⟨_, hcanonical, h⟩ := bind_eq_ok.1 h
    obtain rfl := toVec_injective (not_not.1 (Fallible.refuseIf_eq_ok.1 hcanonical))
    obtain ⟨_, -, h⟩ := bind_eq_ok.1 h
    obtain ⟨variants, hvariants, h⟩ := bind_eq_ok.1 h
    obtain rfl := Except.ok.inj h
    obtain rfl := parseEntries_diskVariant hsources hvariants
    subst hsource
    rfl

theorem roles_at {format : VariantFormat} {kind : VariantKind} (h : roles[index]? = some (format, kind)) :
    VariantFormat.all[index / VariantKind.all.length]? = some format ∧
      VariantKind.all[index % VariantKind.all.length]? = some kind := by
  have hindex : index < 6 := (List.getElem?_eq_some_iff.1 h).1
  have hroles : ∀ index < 6, ∀ role ∈ roles[index]?,
      VariantFormat.all[index / VariantKind.all.length]? = some role.1 ∧
        VariantKind.all[index % VariantKind.all.length]? = some role.2 := by
    decide
  exact hroles index hindex (format, kind) h

theorem parseEntries_ok {records : List VariantRecord} (hsource : ∀ record ∈ records, record.key.source = id)
    (hroles : records.map (fun record => (record.key.format, record.key.kind)) = roles.drop index) :
    parseEntries id (records.map diskVariant) index = .ok records := by
  induction records generalizing index with
  | nil => rfl
  | cons record records ih =>
    have hrole := congrArg (·[0]?) hroles
    have hrest := congrArg List.tail hroles
    simp only [List.map_cons, List.getElem?_cons_zero, List.getElem?_drop, Nat.add_zero] at hrole
    rw [List.map_cons, List.tail_cons, List.tail_drop] at hrest
    obtain ⟨hformat, hkind⟩ := roles_at hrole.symm
    have hentry : parseEntry id (diskVariant record) index = .ok record := by
      unfold parseEntry
      rw [refuseIf, if_neg (by simp [diskVariant, hformat, hkind]),
        show (diskVariant record).blake3 = record.blake3.text from rfl, fromStr_text]
      have hid := hsource record List.mem_cons_self
      subst hid
      rfl
    have hothers := ih (fun other hother => hsource other (List.mem_cons_of_mem _ hother)) hrest
    rw [List.map_cons, parseEntries, hentry, hothers]
    rfl

/-- The manifest of a set with all roles is read, by a reader that reads what was written. -/
theorem parseManifest_ok {set : VariantSet}
    (hread : fromSlice (serializeManifest set) = .ok (diskManifest set)) (hsource : set.source = id)
    (hsize : set.sourceWidth ≠ 0 ∧ set.sourceHeight ≠ 0)
    (hsources : ∀ record ∈ set.variants, record.key.source = id)
    (hroles : set.variants.map (fun record => (record.key.format, record.key.kind)) = roles) :
    parseManifest fromSlice id (serializeManifest set) = .ok set := by
  have hlength : set.variants.length = variantCount := by
    have hcount := congrArg List.length hroles
    rw [List.length_map] at hcount
    exact hcount
  have hidentity : ¬ ((diskManifest set).schema ≠ manifestSchema ∨ (diskManifest set).sourceId ≠ id.text ∨
      (diskManifest set).sourceWidth = 0 ∨ (diskManifest set).sourceHeight = 0 ∨
      (diskManifest set).recipeRevision ≠ variantRecipeRevision ∨
      (diskManifest set).variants.length ≠ variantCount) := by
    simp [diskManifest, hsource, hsize.1, hsize.2, hlength]
  have hentries : parseEntries id (diskManifest set).variants 0 = .ok set.variants :=
    parseEntries_ok hsources hroles
  have hcanonical : ¬ toVec (diskManifest set) ≠ serializeManifest set := not_not_intro rfl
  unfold parseManifest
  rw [hread]
  dsimp only
  rw [refuseIf, if_neg hcanonical, refuseIf, if_neg hidentity, hentries]
  subst hsource
  rfl

/-! ## Prepared uploads -/

structure MediaHandle where
  id : ContentId
  width : Nat
  height : Nat

structure PreparedVariant where
  record : VariantRecord
  encodedBytes : Bytes

structure PreparedVariantSet where
  set : VariantSet
  members : List PreparedVariant
  manifest : Bytes

structure PreparedMediaUpload where
  handle : MediaHandle
  canonicalBytes : Bytes
  variants : PreparedVariantSet

def canonicalMagic : Bytes := "FMRGBA01".toUTF8

def canonicalHeaderBytes : Nat := 16

/-- `u32::from_be_bytes`. -/
def fromBeBytes (bytes : Bytes) : Nat := bytes.data.toList.foldl (fun n byte => n * 256 + byte.toNat) 0

def parseCanonicalHeader (bytes : Bytes) : Except String (Nat × Nat) := do
  refuseIf (bytes.size < canonicalHeaderBytes)
    s!"file is {bytes.size} bytes; canonical header requires {canonicalHeaderBytes}"
  refuseIf (bytes.extract 0 8 ≠ canonicalMagic) "canonical magic/version mismatch"
  let width := fromBeBytes (bytes.extract 8 12)
  let height := fromBeBytes (bytes.extract 12 16)
  refuseIf (2 ^ 64 ≤ width * height * 4) "canonical dimensions overflow byte length"
  let expected := canonicalHeaderBytes + width * height * 4
  refuseIf (2 ^ 64 ≤ expected) "canonical file length overflow"
  refuseIf (bytes.size ≠ expected) s!"file is {bytes.size} bytes; {width}x{height} RGBA8 requires {expected}"
  .ok (width, height)

section Prepare

variable (blake3 : Bytes → ContentId)

/-- `resize_premultiplied` and `encode_variant`: the member's bytes, and whether it has an alpha channel. -/
abbrev Encoder := VariantKey → Bytes → MediaHandle → Nat → Nat → VariantLimits → Except MediaError (Bytes × Bool)

/-- The loops of `prepare_variant_set`, with the length of the members before. -/
def prepareMembers (encode : Encoder) (handle : MediaHandle) (pixels : Bytes) (limits : VariantLimits) :
    List (VariantFormat × VariantKind) → Nat → Except MediaError (List PreparedVariant)
  | [], _ => .ok []
  | (format, kind) :: rest, aggregate => do
    let key : VariantKey := ⟨handle.id, format, kind⟩
    let (maxWidth, maxHeight) := kind.maximumDimensions
    let (width, height) ← fittedDimensions handle.width handle.height maxWidth maxHeight
    checkVariantDimensions key width height limits
    let (encoded, hasAlpha) ← encode key pixels handle width height limits
    let aggregate := aggregate + encoded.size
    refuseIf (2 ^ 64 ≤ aggregate ∨ limits.maxTotalEncodedBytes < aggregate)
      (.variantAggregateBytesExceeded handle.id limits.maxTotalEncodedBytes)
    let members ← prepareMembers encode handle pixels limits rest aggregate
    let record : VariantRecord :=
      { key, width, height, encodedLen := encoded.size, blake3 := blake3 encoded, hasAlpha }
    .ok ({ record, encodedBytes := encoded } :: members)

def prepareVariantSet (encode : Encoder) (handle : MediaHandle) (pixels : Bytes) (limits : VariantLimits) :
    Except MediaError PreparedVariantSet := do
  limits.validate
  let members ← prepareMembers blake3 encode handle pixels limits roles 0
  let set : VariantSet :=
    { source := handle.id, sourceWidth := handle.width, sourceHeight := handle.height
      variants := members.map (·.record) }
  .ok { set, members, manifest := serializeManifest set }

/-- `prepare_upload`, once the image is decoded and brought to its canonical form. -/
def prepareUpload (encode : Encoder) (canonicalBytes : Bytes) (limits : VariantLimits) :
    Except MediaError PreparedMediaUpload := do
  limits.validate
  let id := blake3 canonicalBytes
  match parseCanonicalHeader canonicalBytes with
  | .error reason => .error (.corruptStoredRaster id reason)
  | .ok (width, height) =>
    let handle : MediaHandle := ⟨id, width, height⟩
    let pixels := canonicalBytes.extract canonicalHeaderBytes canonicalBytes.size
    let variants ← prepareVariantSet blake3 encode handle pixels limits
    .ok { handle, canonicalBytes, variants }

variable {blake3}

/-- A member is what its record says. -/
def PreparedVariant.Sound (blake3 : Bytes → ContentId) (id : ContentId) (member : PreparedVariant) : Prop :=
  member.record.key.source = id ∧ member.encodedBytes.size = member.record.encodedLen ∧
    blake3 member.encodedBytes = member.record.blake3

theorem fittedDimensions_ne_zero {width height maxWidth maxHeight : Nat} {fitted : Nat × Nat}
    (h : fittedDimensions width height maxWidth maxHeight = .ok fitted) : width ≠ 0 ∧ height ≠ 0 := by
  unfold fittedDimensions at h
  split at h
  · cases h
  · rename_i hne
    simp only [not_or] at hne
    exact ⟨hne.1, hne.2.1⟩

variable {encode : Encoder} {limits : VariantLimits}

theorem prepareMembers_sound {handle : MediaHandle} {pixels : Bytes}
    {order : List (VariantFormat × VariantKind)} {aggregate : Nat} {members : List PreparedVariant}
    (h : prepareMembers blake3 encode handle pixels limits order aggregate = .ok members) :
    (∀ member ∈ members, member.Sound blake3 handle.id) ∧
      members.map (fun member => (member.record.key.format, member.record.key.kind)) = order ∧
      (order ≠ [] → handle.width ≠ 0 ∧ handle.height ≠ 0) := by
  induction order generalizing aggregate members with
  | nil =>
    obtain rfl := Except.ok.inj h
    simp
  | cons role order ih =>
    obtain ⟨⟨width, height⟩, hfitted, h⟩ := bind_eq_ok.1 h
    obtain ⟨_, -, h⟩ := bind_eq_ok.1 h
    obtain ⟨⟨encoded, hasAlpha⟩, -, h⟩ := bind_eq_ok.1 h
    obtain ⟨_, -, h⟩ := bind_eq_ok.1 h
    obtain ⟨others, hothers, h⟩ := bind_eq_ok.1 h
    obtain rfl := Except.ok.inj h
    obtain ⟨hsound, hroles, -⟩ := ih hothers
    refine ⟨fun member hmember => ?_, ?_, fun _ => fittedDimensions_ne_zero hfitted⟩
    · rcases List.mem_cons.1 hmember with rfl | hother
      · exact ⟨rfl, rfl, rfl⟩
      · exact hsound member hother
    · rw [List.map_cons, hroles]

/-- What is known of a prepared upload. -/
structure PreparedMediaUpload.Sound (blake3 : Bytes → ContentId) (prepared : PreparedMediaUpload) : Prop where
  original : blake3 prepared.canonicalBytes = prepared.handle.id
  header : parseCanonicalHeader prepared.canonicalBytes = .ok (prepared.handle.width, prepared.handle.height)
  members : ∀ member ∈ prepared.variants.members, member.Sound blake3 prepared.handle.id
  set : prepared.variants.set =
    { source := prepared.handle.id, sourceWidth := prepared.handle.width
      sourceHeight := prepared.handle.height, variants := prepared.variants.members.map (·.record) }
  roles : prepared.variants.members.map
    (fun member => (member.record.key.format, member.record.key.kind)) = roles
  size : prepared.handle.width ≠ 0 ∧ prepared.handle.height ≠ 0
  manifest : prepared.variants.manifest = serializeManifest prepared.variants.set

theorem prepareVariantSet_sound {handle : MediaHandle} {pixels : Bytes} {variants : PreparedVariantSet}
    (h : prepareVariantSet blake3 encode handle pixels limits = .ok variants) :
    ((∀ member ∈ variants.members, member.Sound blake3 handle.id) ∧
        variants.members.map (fun member => (member.record.key.format, member.record.key.kind)) = roles ∧
        (roles ≠ [] → handle.width ≠ 0 ∧ handle.height ≠ 0)) ∧
      variants.set = ⟨handle.id, handle.width, handle.height, variants.members.map (·.record)⟩ ∧
      variants.manifest = serializeManifest variants.set := by
  unfold prepareVariantSet at h
  obtain ⟨_, -, h⟩ := bind_eq_ok.1 h
  obtain ⟨members, hmembers, h⟩ := bind_eq_ok.1 h
  have hvariants := Except.ok.inj h
  refine ⟨?_, ?_, ?_⟩
  · rw [← hvariants]
    exact prepareMembers_sound hmembers
  · rw [← hvariants]
  · rw [← hvariants]

/-- Every upload that is prepared is sound, whatever the codecs give. -/
theorem prepareUpload_sound {canonicalBytes : Bytes} {prepared : PreparedMediaUpload}
    (h : prepareUpload blake3 encode canonicalBytes limits = .ok prepared) :
    prepared.Sound blake3 := by
  unfold prepareUpload at h
  obtain ⟨_, -, h⟩ := bind_eq_ok.1 h
  dsimp only at h
  split at h
  · cases h
  · rename_i width height hheader
    obtain ⟨variants, hvariants, h⟩ := bind_eq_ok.1 h
    obtain ⟨⟨hmembers, hroles, hsize⟩, hset, hmanifest⟩ := prepareVariantSet_sound hvariants
    obtain rfl := Except.ok.inj h
    exact ⟨rfl, hheader, hmembers, hset, hroles, hsize (by decide), hmanifest⟩

/-- The manifest of a prepared upload is read as its set, by a reader that reads what was written. -/
theorem PreparedMediaUpload.Sound.parse {prepared : PreparedMediaUpload} (h : prepared.Sound blake3)
    (hread : fromSlice prepared.variants.manifest = .ok (diskManifest prepared.variants.set)) :
    parseManifest fromSlice prepared.handle.id prepared.variants.manifest = .ok prepared.variants.set := by
  obtain ⟨-, -, hmembers, hset, hroles, hsize, hmanifest⟩ := h
  rw [hmanifest] at hread ⊢
  refine parseManifest_ok hread ?_ ?_ (fun record hrecord => ?_) ?_
  · rw [hset]
  · rw [hset]
    exact hsize
  · rw [hset] at hrecord
    obtain ⟨member, hmember, rfl⟩ := List.mem_map.1 hrecord
    exact (hmembers member hmember).1
  · rw [hset, List.map_map]
    exact hroles

end Prepare

end Fmarch.Media
