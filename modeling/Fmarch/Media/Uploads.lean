import Fmarch.Media.Repository

/-!
# Uploads under their limits (`prepare_upload`)

An upload is prepared from a decoded image under the limits of the image and of its variants, and what it takes
up is charged before it is stored. A reader checks the stored set against the same limits, by itself.

**`uploads_fit`**: an upload that is prepared is read back as its set, which satisfies the policy; its variants
fit their bounds; what is charged is what the commit puts, and within `maximum_stored_footprint_bytes`; and
only the manifest of the set it gives is read.
-/

namespace Fmarch.Media

open Fallible (refuseIf bind_eq_ok refuseIf_eq_ok)

/-! ## Images -/

/-- `DynamicImage`, as RGBA8. -/
structure Image where
  width : Nat
  height : Nat
  rgba : Bytes
  bounded : width < 2 ^ 32 ∧ height < 2 ^ 32

/-- `u32::to_be_bytes`. -/
def toBeBytes (n : Nat) : Bytes :=
  ⟨#[UInt8.ofNat (n / 2 ^ 24), UInt8.ofNat (n / 2 ^ 16), UInt8.ofNat (n / 2 ^ 8), UInt8.ofNat n]⟩

def canonicalRasterBytes (image : Image) : Bytes :=
  canonicalMagic ++ (toBeBytes image.width ++ (toBeBytes image.height ++ image.rgba))

/-- `MediaLimits::validate`, but for the length of the encoded upload. -/
def MediaLimits.validate (limits : MediaLimits) : Except MediaError Unit := do
  refuseIf (limits.maxWidth = 0) (.codec "invalid media limits: max_width must be non-zero")
  refuseIf (limits.maxHeight = 0) (.codec "invalid media limits: max_height must be non-zero")
  refuseIf (limits.maxPixels = 0) (.codec "invalid media limits: max_pixels must be non-zero")
  refuseIf (limits.maxDecodedBytes < 4)
    (.codec "invalid media limits: max_decoded_bytes must hold at least one RGBA8 pixel")

def maximumStoredFootprintBytes (mediaLimits : MediaLimits) (limits : VariantLimits) : Except MediaError Nat := do
  mediaLimits.validate
  limits.validate
  let total := mediaLimits.maxDecodedBytes + canonicalHeaderBytes + limits.maxTotalEncodedBytes + manifestMaxBytes
  refuseIf (2 ^ 64 ≤ total)
    (.codec "invalid media limits: maximum stored footprint overflows byte accounting")
  .ok total

/-! ## Encoding -/

/-- The image libraries: `resize_premultiplied`, what an encoder writes and whether it then fails, and
`validate_encoded_variant`. -/
structure Codec where
  resize : Bytes → MediaHandle → Nat → Nat → Except MediaError Bytes
  write : VariantFormat → Bytes → Nat → Nat → Bytes × Option String
  check : VariantKey → Bytes → Nat → Nat → Bool → Except MediaError Unit

/-- A pixel that is not opaque. -/
def hasAlpha (resized : Bytes) : Bool :=
  (List.range (resized.size / 4)).any fun pixel => resized.get! (4 * pixel + 3) != 255

/-- `encode_variant` of the resized raster; the writer is a `CappedWriter`. -/
def encodeVariant (codec : Codec) : Encoder := fun key pixels handle width height limits => do
  let resized ← codec.resize pixels handle width height
  let (bytes, failure) := codec.write key.format resized width height
  refuseIf (limits.maxMemberEncodedBytes < bytes.size) (.variantEncodedBytesExceeded key limits.maxMemberEncodedBytes)
  match failure with
  | some reason => .error (.codec s!"variant encoding failed for {key.text}: {reason}")
  | none =>
    codec.check key bytes width height (hasAlpha resized)
    .ok (bytes, hasAlpha resized)

/-- The sums of `checked_add_stored_footprint_bytes`. -/
def storedFootprintBytes (prepared : PreparedMediaUpload) : Except MediaError Nat :=
  let lengths := prepared.canonicalBytes.size ::
    prepared.variants.members.map (·.encodedBytes.size) ++ [prepared.variants.manifest.size]
  lengths.foldlM (fun total length => do
    refuseIf (2 ^ 64 ≤ total + length)
      (.codec s!"prepared media {prepared.handle.id.text} stored-footprint byte count overflowed")
    .ok (total + length)) 0

/-- `prepare_upload`, from the image's last check in `decode_bounded` on, with the footprint. -/
def prepareImage (blake3 : Bytes → ContentId) (codec : Codec) (mediaLimits : MediaLimits) (limits : VariantLimits)
    (image : Image) : Except MediaError (PreparedMediaUpload × Nat) := do
  mediaLimits.validate
  limits.validate
  checkDimensions mediaLimits image.width image.height
  let prepared ← prepareUpload blake3 (encodeVariant codec) (canonicalRasterBytes image) limits
  let footprint ← storedFootprintBytes prepared
  .ok (prepared, footprint)

/-! ## Dimensions -/

section Fitted

variable {width height maxWidth maxHeight : Nat} {fitted : Nat × Nat}

/-- The dimensions are within the bounds, and none is enlarged or lost. -/
structure Fits (width height : Nat) (bounds fitted : Nat × Nat) : Prop where
  nonzero : fitted.1 ≠ 0 ∧ fitted.2 ≠ 0
  within : fitted.1 ≤ bounds.1 ∧ fitted.2 ≤ bounds.2
  notEnlarged : fitted.1 ≤ width ∧ fitted.2 ≤ height

/-- The variant is within the bounds of its kind. -/
def VariantRecord.FitsIn (record : VariantRecord) (width height : Nat) : Prop :=
  Fits width height record.key.kind.maximumDimensions (record.width, record.height)

/-- The side that limits takes its bound; the other is scaled down with it, to one at least. -/
theorem scaled_le {short long bound maxShort : Nat} (hshort : 0 < short) (hmax : 0 < maxShort)
    (hle : short * bound ≤ long * maxShort) (hover : maxShort < short ∨ bound < long) :
    bound ≤ long ∧ max (short * bound / long) 1 ≤ maxShort ∧ max (short * bound / long) 1 ≤ short := by
  have hbounded : bound ≤ long := by
    rcases hover with hover | hover
    · by_contra hlt
      have h : long * maxShort < bound * short := Nat.mul_lt_mul'' (Nat.not_le.1 hlt) hover
      rw [Nat.mul_comm bound short] at h
      omega
    · exact hover.le
  have hscaled : short * bound / long ≤ maxShort := Nat.div_le_of_le_mul hle
  have hkept : short * bound / long ≤ short :=
    Nat.div_le_of_le_mul (Nat.mul_comm short bound ▸ Nat.mul_le_mul_right short hbounded)
  omega

theorem fittedDimensions_fits (h : fittedDimensions width height maxWidth maxHeight = .ok fitted) :
    Fits width height (maxWidth, maxHeight) fitted := by
  unfold fittedDimensions at h
  split at h
  case isTrue => cases h
  case isFalse hnonzero =>
    split at h
    case isTrue hwithin =>
      obtain rfl := Except.ok.inj h
      exact ⟨by omega, hwithin, Nat.le_refl _, Nat.le_refl _⟩
    case isFalse hover =>
      split at h
      case isTrue hlimited =>
        obtain rfl := Except.ok.inj h
        obtain ⟨hwidth, hmax, hheight⟩ := @scaled_le height width maxWidth maxHeight (by omega) (by omega)
          hlimited.le (by omega)
        exact ⟨by omega, ⟨Nat.le_refl _, hmax⟩, hwidth, hheight⟩
      case isFalse hlimited =>
        obtain rfl := Except.ok.inj h
        obtain ⟨hheight, hmax, hwidth⟩ := @scaled_le width height maxHeight maxWidth (by omega) (by omega)
          (Nat.not_lt.1 hlimited) (by omega)
        exact ⟨by omega, ⟨hmax, Nat.le_refl _⟩, hwidth, hheight⟩

end Fitted

/-! ## The members -/

section Members

variable {blake3 : Bytes → ContentId} {codec : Codec} {limits : VariantLimits} {handle : MediaHandle}

/-- No check of a variant passes an empty file. -/
def RefusesEmpty (codec : Codec) : Prop :=
  ∀ key width height alpha, codec.check key ⟨#[]⟩ width height alpha ≠ .ok ()

theorem encodeVariant_ok (hrefuses : RefusesEmpty codec) {key : VariantKey} {pixels bytes : Bytes} {width height : Nat}
    {alpha : Bool} (h : encodeVariant codec key pixels handle width height limits = .ok (bytes, alpha)) :
    bytes.size ≠ 0 ∧ bytes.size ≤ limits.maxMemberEncodedBytes := by
  obtain ⟨resized, -, h⟩ := bind_eq_ok.1 h
  obtain ⟨_, hcapped, h⟩ := bind_eq_ok.1 h
  split at h
  case h_1 => cases h
  case h_2 =>
    obtain ⟨_, hchecked, h⟩ := bind_eq_ok.1 h
    obtain ⟨rfl, -⟩ := Prod.mk.inj (Except.ok.inj h)
    refine ⟨fun hempty => ?_, Nat.not_lt.1 (refuseIf_eq_ok.1 hcapped)⟩
    rw [ByteArray.size_eq_zero_iff.1 hempty] at hchecked
    exact hrefuses _ _ _ _ hchecked

/-- The reader's loop passes what the loop over the roles has made. -/
theorem prepareMembers_checked (hrefuses : RefusesEmpty codec) {pixels : Bytes} (id : ContentId) (set : VariantSet)
    (hset : (set.sourceWidth, set.sourceHeight) = (handle.width, handle.height))
    {order : List (VariantFormat × VariantKind)} {aggregate : Nat} {members : List PreparedVariant}
    (h : prepareMembers blake3 (encodeVariant codec) handle pixels limits order aggregate = .ok members) :
    checkRecords id set limits (members.map (·.record)) aggregate = .ok () ∧
      (∀ member ∈ members, member.record.FitsIn handle.width handle.height) ∧
      (aggregate ≤ limits.maxTotalEncodedBytes ∧ aggregate < 2 ^ 64 →
        aggregate + (members.map (·.encodedBytes.size)).sum ≤ limits.maxTotalEncodedBytes ∧
          aggregate + (members.map (·.encodedBytes.size)).sum < 2 ^ 64) := by
  induction order generalizing aggregate members with
  | nil =>
    obtain rfl := Except.ok.inj h
    exact ⟨rfl, by simp, by simp⟩
  | cons role order ih =>
    obtain ⟨⟨width, height⟩, hfitted, h⟩ := bind_eq_ok.1 h
    obtain ⟨_, hdimensions, h⟩ := bind_eq_ok.1 h
    obtain ⟨⟨encoded, alpha⟩, hencoded, h⟩ := bind_eq_ok.1 h
    obtain ⟨_, haggregate, h⟩ := bind_eq_ok.1 h
    obtain ⟨others, hothers, h⟩ := bind_eq_ok.1 h
    obtain rfl := Except.ok.inj h
    obtain ⟨hchecked, hfits, hsum⟩ := ih hothers
    obtain ⟨hnonempty, hcapped⟩ := encodeVariant_ok hrefuses hencoded
    obtain ⟨hbounded, htotal⟩ := not_or.1 (refuseIf_eq_ok.1 haggregate)
    refine ⟨?_, List.forall_mem_cons.2 ⟨fittedDimensions_fits hfitted, hfits⟩, fun _ => ?_⟩
    · obtain ⟨hwidth, hheight⟩ := Prod.mk.inj hset
      rw [← hwidth, ← hheight] at hfitted
      refine bind_eq_ok.2 ⟨(width, height), hfitted, bind_eq_ok.2 ⟨(), refuseIf_eq_ok.2 (not_not_intro rfl), ?_⟩⟩
      refine bind_eq_ok.2 ⟨(), hdimensions, bind_eq_ok.2 ⟨(), refuseIf_eq_ok.2 hnonempty, ?_⟩⟩
      refine bind_eq_ok.2 ⟨(), refuseIf_eq_ok.2 (Nat.not_lt.2 hcapped), ?_⟩
      exact bind_eq_ok.2 ⟨(), refuseIf_eq_ok.2 hbounded, bind_eq_ok.2 ⟨(), refuseIf_eq_ok.2 htotal, hchecked⟩⟩
    · have hrest := hsum ⟨Nat.not_lt.1 htotal, Nat.not_le.1 hbounded⟩
      rw [List.map_cons, List.sum_cons, ← Nat.add_assoc]
      exact hrest

end Members

/-! ## The raster's header -/

theorem fromBeBytes_toBeBytes {n : Nat} (h : n < 2 ^ 32) : fromBeBytes (toBeBytes n) = n := by
  simp only [fromBeBytes, toBeBytes, List.foldl_cons, List.foldl_nil, UInt8.toNat_ofNat']
  omega

theorem header_canonicalRaster {image : Image} {width height : Nat}
    (h : parseCanonicalHeader (canonicalRasterBytes image) = .ok (width, height)) :
    width = image.width ∧ height = image.height ∧ width * height * 4 < 2 ^ 64 ∧
      (canonicalRasterBytes image).size = canonicalHeaderBytes + width * height * 4 := by
  have hwidth : (canonicalRasterBytes image).extract 8 12 = toBeBytes image.width := by
    refine (ByteArray.extract_append_size_add (a := canonicalMagic) (i := 0) (j := 4)).trans ?_
    exact ByteArray.extract_append_eq_left rfl
  have hheight : (canonicalRasterBytes image).extract 12 16 = toBeBytes image.height := by
    rw [canonicalRasterBytes, ← ByteArray.append_assoc]
    refine (ByteArray.extract_append_size_add (a := canonicalMagic ++ toBeBytes image.width) (i := 0) (j := 4)).trans ?_
    exact ByteArray.extract_append_eq_left rfl
  unfold parseCanonicalHeader at h
  obtain ⟨_, -, h⟩ := bind_eq_ok.1 h
  obtain ⟨_, -, h⟩ := bind_eq_ok.1 h
  rw [hwidth, hheight, fromBeBytes_toBeBytes image.bounded.1, fromBeBytes_toBeBytes image.bounded.2] at h
  obtain ⟨_, hbounded, h⟩ := bind_eq_ok.1 h
  obtain ⟨_, -, h⟩ := bind_eq_ok.1 h
  obtain ⟨_, hsize, h⟩ := bind_eq_ok.1 h
  obtain ⟨rfl, rfl⟩ := Prod.mk.inj (Except.ok.inj h)
  exact ⟨rfl, rfl, Nat.not_le.1 (refuseIf_eq_ok.1 hbounded), not_not.1 (refuseIf_eq_ok.1 hsize)⟩

/-! ## The length of a manifest -/

open JsonText

theorem quoted_length_le (text : String) : (quoted text).length ≤ 2 + 6 * text.length := by
  have hescape : ∀ c, (escape c).length ≤ 6 := by
    intro c
    unfold escape
    split_ifs <;> simp
  have hescapes : ∀ chars : List Char, (chars.flatMap escape).length ≤ 6 * chars.length := by
    intro chars
    induction chars with
    | nil => simp
    | cons c chars ih =>
      have := hescape c
      simp only [List.flatMap_cons, List.length_append, List.length_cons]
      omega
  have := hescapes text.toList
  simp only [quoted, List.length_cons, List.length_append, List.length_nil, String.length_toList] at this ⊢
  omega

theorem toUTF8_size_le (chars : List Char) : (String.ofList chars).toUTF8.size ≤ 4 * chars.length := by
  induction chars with
  | nil => simp
  | cons c chars ih =>
    have := c.utf8Size_le_four
    rw [String.toUTF8_eq_toByteArray, String.size_toByteArray] at ih ⊢
    rw [String.ofList_cons, String.utf8ByteSize_append, String.utf8ByteSize_singleton, List.length_cons]
    omega

theorem number_length_le {n : Nat} (h : n < 10 ^ 20) : (number n).length ≤ 20 :=
  (Nat.length_toDigits_le_iff (by decide) (by decide)).2 h

theorem diskVariant_length_le {record : VariantRecord}
    (h : record.width < 10 ^ 20 ∧ record.height < 10 ^ 20 ∧ record.encodedLen < 10 ^ 20) :
    (diskVariant record).write.length ≤ 800 := by
  have hwidth := number_length_le h.1
  have hheight := number_length_le h.2.1
  have hlen := number_length_le h.2.2
  have hdigest := quoted_length_le record.blake3.text
  rw [record.blake3.valid.1] at hdigest
  have hrole : ∀ format : VariantFormat, ∀ kind : VariantKind, ∀ alpha, (quoted format.component).length +
      (quoted kind.component).length + (quoted format.mimeType).length + (boolean alpha).length ≤ 60 := by
    rintro (_ | _) (_ | _ | _) (_ | _) <;> decide
  have := hrole record.key.format record.key.kind record.hasAlpha
  have hnames : (quoted "format").length + (quoted "kind").length + (quoted "mime").length + (quoted "width").length +
    (quoted "height").length + (quoted "encoded_len").length + (quoted "blake3").length +
    (quoted "has_alpha").length = 67 := by decide
  simp only [DiskVariant.write, diskVariant, field, List.length_cons, List.length_append, List.length_nil]
  omega

theorem serializeManifest_size_le {set : VariantSet} (hsource : set.sourceWidth < 10 ^ 20 ∧ set.sourceHeight < 10 ^ 20)
    (hcount : set.variants.length = variantCount) (hvariants : ∀ record ∈ set.variants,
      record.width < 10 ^ 20 ∧ record.height < 10 ^ 20 ∧ record.encodedLen < 10 ^ 20) :
    (serializeManifest set).size ≤ manifestMaxBytes := by
  have hwritten : ∀ records : List VariantRecord, (∀ record ∈ records, record.width < 10 ^ 20 ∧
      record.height < 10 ^ 20 ∧ record.encodedLen < 10 ^ 20) →
      ((records.map diskVariant).flatMap fun entry => ',' :: entry.write).length ≤ 801 * records.length := by
    intro records hrecords
    induction records with
    | nil => simp
    | cons record records ih =>
      obtain ⟨hfirst, hrest⟩ := List.forall_mem_cons.1 hrecords
      have := diskVariant_length_le hfirst
      have := ih hrest
      simp only [List.map_cons, List.flatMap_cons, List.length_append, List.length_cons]
      omega
  have harray : (array DiskVariant.write (set.variants.map diskVariant)).length ≤ 2 + 801 * set.variants.length := by
    cases hset : set.variants with
    | nil => decide
    | cons record records =>
      have := hwritten _ (hset ▸ hvariants)
      simp only [List.map_cons, List.flatMap_cons, List.length_append, List.length_cons, array, List.length_nil]
        at this ⊢
      omega
  have hwidth := number_length_le hsource.1
  have hheight := number_length_le hsource.2
  have hid := quoted_length_le set.source.text
  rw [set.source.valid.1] at hid
  have hnames : (quoted "schema").length + (quoted manifestSchema).length + (quoted "source_id").length +
      (quoted "source_width").length + (quoted "source_height").length + (quoted "recipe_revision").length +
      (quoted variantRecipeRevision).length + (quoted "variants").length ≤ 300 := by
    decide +kernel
  refine (toUTF8_size_le _).trans ?_
  simp only [DiskManifest.write, diskManifest, field, List.length_cons, List.length_append, List.length_nil]
  rw [hcount] at harray
  unfold variantCount at harray
  unfold manifestMaxBytes
  omega

/-! ## What is read -/

section Reading

variable {id : ContentId}

theorem parseEntry_writes {entry : DiskVariant} {index : Nat} {record : VariantRecord}
    (h : parseEntry id entry index = .ok record) : diskVariant record = entry := by
  obtain ⟨_, hrole, h⟩ := bind_eq_ok.1 h
  have hmime : entry.mime = entry.format.mimeType := not_not.1 (not_or.1 (not_or.1 (refuseIf_eq_ok.1 hrole)).2).2
  cases hdigest : ContentId.fromStr entry.blake3 with
  | none =>
    rw [hdigest] at h
    cases h
  | some digest =>
    rw [hdigest] at h
    obtain rfl := Except.ok.inj h
    have htext : digest.text = entry.blake3 := by
      unfold ContentId.fromStr at hdigest
      split at hdigest
      case isTrue => exact congrArg ContentId.text (Option.some.inj hdigest).symm
      case isFalse => cases hdigest
    simp only [diskVariant, htext, ← hmime]

theorem parseEntries_write {entries : List DiskVariant} {index : Nat} {records : List VariantRecord}
    (h : parseEntries id entries index = .ok records) : records.map diskVariant = entries := by
  induction entries generalizing index records with
  | nil =>
    obtain rfl := Except.ok.inj h
    rfl
  | cons entry entries ih =>
    obtain ⟨record, hrecord, h⟩ := bind_eq_ok.1 h
    obtain ⟨others, hothers, h⟩ := bind_eq_ok.1 h
    obtain rfl := Except.ok.inj h
    rw [List.map_cons, parseEntry_writes hrecord, ih hothers]

/-- What is read is the manifest of the set it is read as. -/
theorem parseManifest_only {fromSlice : Bytes → Except String DiskManifest} {bytes : Bytes} {set : VariantSet}
    (h : parseManifest fromSlice id bytes = .ok set) : bytes = serializeManifest set := by
  unfold parseManifest at h
  cases hread : fromSlice bytes with
  | error reason =>
    rw [hread] at h
    cases h
  | ok disk =>
    rw [hread] at h
    obtain ⟨_, hcanonical, h⟩ := bind_eq_ok.1 h
    obtain ⟨_, hidentity, h⟩ := bind_eq_ok.1 h
    obtain ⟨variants, hvariants, h⟩ := bind_eq_ok.1 h
    obtain rfl := Except.ok.inj h
    have hfields := refuseIf_eq_ok.1 hidentity
    simp only [not_or, not_not] at hfields
    have hdisk : disk = diskManifest ⟨id, disk.sourceWidth, disk.sourceHeight, variants⟩ := by
      simp only [diskManifest, parseEntries_write hvariants, ← hfields.1, ← hfields.2.1, ← hfields.2.2.2.2.1]
    rw [← not_not.1 (refuseIf_eq_ok.1 hcanonical), serializeManifest, ← hdisk]

end Reading

/-! ## Prepared uploads -/

section Prepared

variable {blake3 : Bytes → ContentId} {codec : Codec} {mediaLimits : MediaLimits} {limits : VariantLimits}
  {image : Image} {prepared : PreparedMediaUpload}

/-- What is prepared from an image whose dimensions pass. -/
structure Checked (mediaLimits : MediaLimits) (limits : VariantLimits) (prepared : PreparedMediaUpload) : Prop where
  policy : validateManifestPolicy mediaLimits prepared.handle.id prepared.variants.set limits = .ok ()
  fits : ∀ record ∈ prepared.variants.set.variants, record.FitsIn prepared.handle.width prepared.handle.height
  raster : prepared.canonicalBytes.size ≤ canonicalHeaderBytes + mediaLimits.maxDecodedBytes
  members : (prepared.variants.members.map (·.encodedBytes.size)).sum ≤ limits.maxTotalEncodedBytes
  manifest : prepared.variants.manifest.size ≤ manifestMaxBytes

theorem manifest_size_le (hsound : prepared.Sound blake3)
    (hsource : prepared.handle.width < 2 ^ 32 ∧ prepared.handle.height < 2 ^ 32)
    (hfits : ∀ record ∈ prepared.variants.set.variants, record.FitsIn prepared.handle.width prepared.handle.height)
    (hbytes : (prepared.variants.members.map (·.encodedBytes.size)).sum < 2 ^ 64) :
    prepared.variants.manifest.size ≤ manifestMaxBytes := by
  rw [hsound.set] at hfits
  rw [hsound.manifest, hsound.set]
  refine serializeManifest_size_le ⟨hsource.1.trans (by decide), hsource.2.trans (by decide)⟩ ?_
    (fun record hrecord => ?_)
  · have hcount := congrArg List.length hsound.roles
    rw [List.length_map] at hcount ⊢
    exact hcount
  · have hfit := (hfits record hrecord).notEnlarged
    obtain ⟨member, hmember, rfl⟩ := List.mem_map.1 hrecord
    have hlen := List.single_le_sum (by simp) _ (List.mem_map_of_mem (f := (·.encodedBytes.size)) hmember)
    rw [(hsound.members member hmember).2.1] at hlen
    dsimp only at hfit
    omega

theorem prepareUpload_checked (hrefuses : RefusesEmpty codec)
    (hdimensions : checkDimensions mediaLimits image.width image.height = .ok ())
    (h : prepareUpload blake3 (encodeVariant codec) (canonicalRasterBytes image) limits = .ok prepared) :
    Checked mediaLimits limits prepared := by
  have hsound := prepareUpload_sound h
  unfold prepareUpload at h
  obtain ⟨_, hlimits, h⟩ := bind_eq_ok.1 h
  dsimp only at h
  split at h
  case h_1 => cases h
  case h_2 width height hheader =>
    obtain ⟨variants, hvariants, h⟩ := bind_eq_ok.1 h
    obtain rfl := Except.ok.inj h
    obtain ⟨hwidth, hheight, hbounded, hsize⟩ := header_canonicalRaster hheader
    unfold prepareVariantSet at hvariants
    obtain ⟨_, -, hvariants⟩ := bind_eq_ok.1 hvariants
    obtain ⟨members, hmembers, hvariants⟩ := bind_eq_ok.1 hvariants
    obtain rfl := Except.ok.inj hvariants
    obtain ⟨hchecked, hfits, hsum⟩ := prepareMembers_checked hrefuses
      (blake3 (canonicalRasterBytes image)) ⟨_, width, height, members.map (·.record)⟩ rfl hmembers
    rw [← hwidth, ← hheight] at hdimensions
    have hfits' : ∀ record ∈ members.map (·.record), record.FitsIn width height := List.forall_mem_map.2 hfits
    obtain ⟨htotal, hbytes⟩ := hsum ⟨Nat.zero_le _, by decide⟩
    rw [Nat.zero_add] at htotal hbytes
    refine ⟨?_, hfits', ?_, htotal, ?_⟩
    · refine bind_eq_ok.2 ⟨(), hlimits, ?_⟩
      dsimp only
      rw [hdimensions]
      exact hchecked
    · obtain ⟨_, -, hdimensions⟩ := bind_eq_ok.1 hdimensions
      obtain ⟨_, -, hdecoded⟩ := bind_eq_ok.1 hdimensions
      have := Nat.not_lt.1 (refuseIf_eq_ok.1 hdecoded)
      dsimp only
      omega
    · have := image.bounded
      exact manifest_size_le hsound (by dsimp only; omega) hfits' hbytes

theorem footprint_eq_ok {id : ContentId} {lengths : List Nat} {total footprint : Nat} (hfits : total < 2 ^ 64) :
    lengths.foldlM (fun total length => do
        refuseIf (2 ^ 64 ≤ total + length)
          (.codec s!"prepared media {id.text} stored-footprint byte count overflowed")
        .ok (total + length)) total = (.ok footprint : Except MediaError Nat) ↔
      total + lengths.sum < 2 ^ 64 ∧ footprint = total + lengths.sum := by
  induction lengths generalizing total with
  | nil => exact ⟨fun h => ⟨hfits, (Except.ok.inj h).symm⟩, fun h => congrArg Except.ok h.2.symm⟩
  | cons length lengths ih =>
    rw [List.foldlM_cons, List.sum_cons, ← Nat.add_assoc]
    constructor
    · intro h
      obtain ⟨next, hnext, h⟩ := bind_eq_ok.1 h
      obtain ⟨_, hbounded, hnext⟩ := bind_eq_ok.1 hnext
      obtain rfl := Except.ok.inj hnext
      exact (ih (Nat.not_le.1 (refuseIf_eq_ok.1 hbounded))).1 h
    · intro h
      have hbounded : total + length < 2 ^ 64 := Nat.lt_of_le_of_lt (Nat.le_add_right _ _) h.1
      refine bind_eq_ok.2 ⟨_, bind_eq_ok.2 ⟨(), refuseIf_eq_ok.2 (Nat.not_le.2 hbounded), rfl⟩, ?_⟩
      exact (ih hbounded).2 h

end Prepared

/-- An upload that is prepared is read back as its set, which satisfies the policy of the same limits, its variants
within their bounds; what is charged is what the commit puts, and no more than the maximum. Whatever is read is
the manifest of the set it is read as. -/
theorem uploads_fit (blake3 : Bytes → ContentId) {codec : Codec} (hrefuses : RefusesEmpty codec)
    (fromSlice : Bytes → Except String DiskManifest) (mediaLimits : MediaLimits) (limits : VariantLimits) :
    (∀ image prepared footprint, prepareImage blake3 codec mediaLimits limits image = .ok (prepared, footprint) →
      (fromSlice prepared.variants.manifest = .ok (diskManifest prepared.variants.set) →
        parseManifest fromSlice prepared.handle.id prepared.variants.manifest = .ok prepared.variants.set) ∧
      validateManifestPolicy mediaLimits prepared.handle.id prepared.variants.set limits = .ok () ∧
      (∀ record ∈ prepared.variants.set.variants,
        record.FitsIn prepared.handle.width prepared.handle.height) ∧
      footprint = ((objectPuts prepared).map (·.2.size)).sum ∧
      ∀ maximum, maximumStoredFootprintBytes mediaLimits limits = .ok maximum → footprint ≤ maximum) ∧
    ∀ id bytes set, parseManifest fromSlice id bytes = .ok set → bytes = serializeManifest set := by
  refine ⟨fun image prepared footprint h => ?_, fun id bytes set h => parseManifest_only h⟩
  obtain ⟨_, -, h⟩ := bind_eq_ok.1 h
  obtain ⟨_, -, h⟩ := bind_eq_ok.1 h
  obtain ⟨⟨⟩, hdimensions, h⟩ := bind_eq_ok.1 h
  obtain ⟨upload, hupload, h⟩ := bind_eq_ok.1 h
  obtain ⟨charged, hcharged, h⟩ := bind_eq_ok.1 h
  obtain ⟨rfl, rfl⟩ := Prod.mk.inj (Except.ok.inj h)
  have hchecked := prepareUpload_checked hrefuses hdimensions hupload
  have hsum := ((footprint_eq_ok (by decide)).1 hcharged).2
  simp only [Nat.zero_add, List.cons_append, List.sum_cons, List.sum_append, List.sum_nil, Nat.add_zero] at hsum
  refine ⟨(prepareUpload_sound hupload).parse, hchecked.policy, hchecked.fits, ?_, fun maximum hmaximum => ?_⟩
  · rw [hsum]
    simp [objectPuts, memberPuts, Function.comp_def]
  · obtain ⟨_, -, hmaximum⟩ := bind_eq_ok.1 hmaximum
    obtain ⟨_, -, hmaximum⟩ := bind_eq_ok.1 hmaximum
    obtain ⟨_, -, hmaximum⟩ := bind_eq_ok.1 hmaximum
    obtain rfl := Except.ok.inj hmaximum
    have := hchecked.raster
    have := hchecked.members
    have := hchecked.manifest
    omega

/-- The limits of `MediaLimits::default`. -/
def defaultMediaLimits : MediaLimits := ⟨6000, 6000, 24000000, 96 * 1024 * 1024⟩

/-- The dot as it is decoded, and what stands in for the libraries. -/
def redImage : Image := ⟨1, 1, ⟨#[255, 0, 0, 255]⟩, by decide⟩

def redCodec : Codec where
  resize pixels _ _ _ := .ok pixels
  write format _ _ _ := (format.component.toUTF8, none)
  check key bytes _ _ _ := refuseIf (bytes.size = 0) (.codec s!"{key.text}: no data")

/-- A reader that reads the manifest of the upload. -/
def readPrepared (prepared : PreparedMediaUpload) (bytes : Bytes) : Except String DiskManifest :=
  if bytes = prepared.variants.manifest then .ok (diskManifest prepared.variants.set)
  else .error "expected value at line 1 column 1"

theorem uploads_fit_red : ∃ prepared footprint,
    prepareImage redDigest redCodec defaultMediaLimits defaultLimits redImage = .ok (prepared, footprint) ∧
      parseManifest (readPrepared prepared) prepared.handle.id prepared.variants.manifest =
        .ok prepared.variants.set ∧
      footprint = ((objectPuts prepared).map (·.2.size)).sum := by
  have hrefuses : RefusesEmpty redCodec := by
    intro key width height alpha h
    exact refuseIf_eq_ok.1 (show refuseIf ((⟨#[]⟩ : Bytes).size = 0) _ = .ok () from h) rfl
  obtain ⟨prepared, hsome⟩ := Option.isSome_iff_exists.1 (show (prepareUpload redDigest (encodeVariant redCodec)
    (canonicalRasterBytes redImage) defaultLimits).toOption.isSome = true by decide +kernel)
  have hupload := Fallible.toOption_eq_some.1 hsome
  have hchecked := @prepareUpload_checked _ _ defaultMediaLimits _ _ _ hrefuses rfl hupload
  obtain ⟨footprint, hfootprint⟩ : ∃ footprint, storedFootprintBytes prepared = .ok footprint := by
    have hraster := hchecked.raster
    have hmembers := hchecked.members
    have hmanifest := hchecked.manifest
    refine ⟨_, (footprint_eq_ok (by decide)).2 ⟨?_, rfl⟩⟩
    simp only [List.cons_append, List.sum_cons, List.sum_append, List.sum_nil]
    dsimp only [defaultMediaLimits, defaultLimits, canonicalHeaderBytes, manifestMaxBytes] at *
    omega
  have hprepared : prepareImage redDigest redCodec defaultMediaLimits defaultLimits redImage =
      .ok (prepared, footprint) :=
    bind_eq_ok.2 ⟨(), rfl, bind_eq_ok.2 ⟨(), rfl, bind_eq_ok.2 ⟨(), rfl, bind_eq_ok.2 ⟨_, hupload,
      bind_eq_ok.2 ⟨_, hfootprint, rfl⟩⟩⟩⟩⟩
  obtain ⟨hparses, -, -, hcharged, -⟩ := (uploads_fit redDigest hrefuses (readPrepared prepared) defaultMediaLimits
    defaultLimits).1 redImage prepared footprint hprepared
  exact ⟨prepared, footprint, hprepared, hparses (if_pos rfl), hcharged⟩

end Fmarch.Media
