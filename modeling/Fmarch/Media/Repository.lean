import Fmarch.Lib.CreateOnly
import Fmarch.Media.Manifest

/-!
# Media in an object store (`media/src/repository.rs`)

A commit puts the raster, the six variants and last the manifest, each only where nothing is. A lookup reads
the manifest, and then the members it asks for, and may do so at any time.

**`media_sets_complete`**: where there is a manifest, the raster and all members it names are there with the
lengths and digests it gives; nothing is ever replaced; a commit that finds other bytes never succeeds; and
what a lookup finds is what the manifest says.

What a commit reports as new and the permits of readers are left out; a reader may be refused at any time.
-/

namespace Fmarch.Media

open CreateOnly Relation
open Fallible (refuseIf bind_eq_ok)

/-! ## Commits -/

/-- `ObjectPath`, for the paths that `object_path` is given here. -/
abbrev ObjectPath := String

/-- Where the canonical raster is put. -/
def originalPath (id : ContentId) : ObjectPath := "blobs/" ++ id.text ++ "/orig"

def variantObjectPath (key : VariantKey) : ObjectPath := "blobs/" ++ key.text

/-- Where the manifest is put. -/
def manifestPath (id : ContentId) : ObjectPath :=
  "blobs/" ++ id.text ++ "/" ++ variantRecipeRevision ++ "/manifest.json"

/-- What `commit_object_upload` puts before the manifest. -/
def memberPuts (prepared : PreparedMediaUpload) : List (ObjectPath × Bytes) :=
  (originalPath prepared.handle.id, prepared.canonicalBytes) ::
    prepared.variants.members.map fun member => (variantObjectPath member.record.key, member.encodedBytes)

/-- `commit_object_upload`: what it puts with `put_immutable`, in order. -/
def objectPuts (prepared : PreparedMediaUpload) : List (ObjectPath × Bytes) :=
  memberPuts prepared ++ [(manifestPath prepared.handle.id, prepared.variants.manifest)]

/-- Any upload may be committed that has been prepared, with whatever codecs. -/
def Admitted (blake3 : Bytes → ContentId) (puts : List (ObjectPath × Bytes)) : Prop :=
  ∃ encode canonicalBytes limits prepared,
    prepareUpload blake3 encode canonicalBytes limits = .ok prepared ∧ puts = objectPuts prepared

/-! ## Lookups -/

/-- What is looked up: `lookup_object_variant`, `lookup_object_set` or `probe_object_manifest`. -/
inductive Request where
  | variant (format : VariantFormat) (kind : VariantKind)
  | set
  | probe

/-- What is found: a `StoredVariant` or a `VariantSet`. -/
inductive Found where
  | variant (record : VariantRecord) (encodedBytes : Bytes)
  | set (set : VariantSet)

/-- What a lookup reads next. -/
inductive Reading where
  | manifest
  | member (set : VariantSet) (record : VariantRecord) (rest : List VariantRecord)
  | done (result : Except MediaError (Option Found))

/-- A lookup. -/
structure Lookup where
  id : ContentId
  request : Request
  mediaLimits : MediaLimits
  limits : VariantLimits
  reading : Reading := .manifest

def getBounded (objects : ObjectPath → Option Bytes) (path : ObjectPath) (maxLen : Nat) (operation : String) :
    Except MediaError (Option Bytes) :=
  match objects path with
  | none => .ok none
  | some bytes =>
    if maxLen < bytes.size then
      .error (.objectStore operation s!"object {path} is {bytes.size} bytes; limit is {maxLen}")
    else .ok (some bytes)

section Lookups

variable (blake3 : Bytes → ContentId) (fromSlice : Bytes → Except String DiskManifest)
  (validateEncodedVariant : VariantRecord → Bytes → Except MediaError Unit)

def verifyMemberBytes (id : ContentId) (record : VariantRecord) (bytes : Bytes) : Except MediaError Unit := do
  refuseIf (bytes.size ≠ record.encodedLen) (.corruptVariantSet id s!"{record.key.text} length mismatch")
  refuseIf (blake3 bytes ≠ record.blake3) (.corruptVariantSet id s!"{record.key.text} BLAKE3 mismatch")
  match validateEncodedVariant record bytes with
  | .error error => .error (.corruptVariantSet id error.text)
  | .ok _ => .ok ()

/-- The members of a set are read one after another. -/
def readNext (set : VariantSet) : List VariantRecord → Reading
  | [] => .done (.ok (some (.set set)))
  | record :: rest => .member set record rest

/-- A lookup with an accepted manifest. -/
def Lookup.open (lookup : Lookup) (set : VariantSet) : Reading :=
  match lookup.request with
  | .variant format kind =>
    match set.variants.find? fun record =>
      decide ((record.key.format, record.key.kind) = (format, kind)) with
    | none =>
      .done (.error (.corruptVariantSet lookup.id "requested role is absent from the fixed manifest"))
    | some record => .member set record []
  | .set => readNext set set.variants
  | .probe => .done (.ok (some (.set set)))

/-- A lookup reads the manifest. -/
def Lookup.readManifest (lookup : Lookup) (objects : ObjectPath → Option Bytes) : Reading :=
  let operation := match lookup.request with
    | .probe => "probe-manifest"
    | _ => "get-manifest"
  match getBounded objects (manifestPath lookup.id) manifestMaxBytes operation with
  | .error error => .done (.error error)
  | .ok none => .done (.ok none)
  | .ok (some manifest) =>
    match parseManifest fromSlice lookup.id manifest with
    | .error error => .done (.error error)
    | .ok set =>
      match validateManifestPolicy lookup.mediaLimits lookup.id set lookup.limits with
      | .error error => .done (.error error)
      | .ok _ => lookup.open set

/-- A lookup reads a member. -/
def Lookup.readMember (lookup : Lookup) (objects : ObjectPath → Option Bytes) (set : VariantSet)
    (record : VariantRecord) (rest : List VariantRecord) : Reading :=
  match getBounded objects (variantObjectPath record.key) record.encodedLen "get-variant" with
  | .error error => .done (.error error)
  | .ok none => .done (.error (.corruptVariantSet lookup.id s!"{record.key.text} member is missing"))
  | .ok (some bytes) =>
    match verifyMemberBytes blake3 validateEncodedVariant lookup.id record bytes with
    | .error error => .done (.error error)
    | .ok _ =>
      match lookup.request with
      | .variant .. => .done (.ok (some (.variant record bytes)))
      | _ => readNext set rest

/-- The object store with its commits, and the lookups. -/
structure Repository where
  world : World ObjectPath Bytes := {}
  lookups : Nat → Option Lookup := fun _ => none

/-- A lookup goes on. -/
def Repository.turn (repository : Repository) (n : Nat) (lookup : Lookup) : Repository :=
  { repository with lookups := Function.update repository.lookups n (some lookup) }

/-- One step of a commit or of a lookup. -/
inductive Step : Repository → Repository → Prop where
  | commit {repository : Repository} {world' : World ObjectPath Bytes}
      (step : CreateOnly.Step (Admitted blake3) repository.world world') :
      Step repository { repository with world := world' }
  | lookup {repository : Repository} {n : Nat} (id : ContentId) (request : Request) (mediaLimits : MediaLimits)
      (limits : VariantLimits) (fresh : repository.lookups n = none) :
      Step repository (repository.turn n { id, request, mediaLimits, limits })
  | readManifest {repository : Repository} {n : Nat} {lookup : Lookup}
      (looks : repository.lookups n = some lookup) (reading : lookup.reading = .manifest) :
      Step repository (repository.turn n
        { lookup with reading := lookup.readManifest fromSlice repository.world.objects })
  | readMember {repository : Repository} {n : Nat} {lookup : Lookup} {set : VariantSet} {record : VariantRecord}
      {rest : List VariantRecord} (looks : repository.lookups n = some lookup)
      (reading : lookup.reading = .member set record rest) :
      Step repository (repository.turn n { lookup with
          reading := lookup.readMember blake3 validateEncodedVariant repository.world.objects set record rest })
  /-- The store fails, or there is no capacity for the reader. -/
  | refused {repository : Repository} {n : Nat} {lookup : Lookup} (error : MediaError)
      (looks : repository.lookups n = some lookup) :
      Step repository (repository.turn n { lookup with reading := .done (.error error) })

end Lookups

/-! ## Paths -/

theorem path_cancel {id id' : ContentId} {rest rest' : String}
    (h : "blobs/" ++ id.text ++ rest = "blobs/" ++ id'.text ++ rest') : id = id' ∧ rest = rest' := by
  have hlist := congrArg String.toList h
  simp only [String.toList_append, List.append_assoc, List.append_cancel_left_eq] at hlist
  have hlength : id.text.toList.length = id'.text.toList.length := by
    rw [String.length_toList, String.length_toList, id.valid.1, id'.valid.1]
  obtain ⟨htext, hrest⟩ := List.append_inj hlist hlength
  refine ⟨?_, String.toList_injective hrest⟩
  obtain ⟨text, valid⟩ := id
  obtain ⟨text', valid'⟩ := id'
  obtain rfl : text = text' := String.toList_injective htext
  rfl

theorem manifestPath_eq (id : ContentId) :
    manifestPath id = "blobs/" ++ id.text ++ ("/" ++ variantRecipeRevision ++ "/manifest.json") := by
  simp only [manifestPath, String.append_assoc]

theorem variantObjectPath_eq (key : VariantKey) : variantObjectPath key = "blobs/" ++ key.source.text ++
      ("/" ++ variantRecipeRevision ++ "/" ++ key.format.component ++ "/" ++ key.kind.component) := by
  simp only [variantObjectPath, VariantKey.text, String.append_assoc]

theorem manifestPath_injective {id id' : ContentId} (h : manifestPath id = manifestPath id') : id = id' := by
  rw [manifestPath_eq, manifestPath_eq] at h
  exact (path_cancel h).1

theorem manifestPath_ne_original (id id' : ContentId) : manifestPath id ≠ originalPath id' := by
  intro h
  rw [manifestPath_eq] at h
  exact absurd (path_cancel h).2 (by decide +kernel)

theorem manifestPath_ne_variant (id : ContentId) (key : VariantKey) :
    manifestPath id ≠ variantObjectPath key := by
  intro h
  rw [manifestPath_eq, variantObjectPath_eq] at h
  have hrest : ∀ (format : VariantFormat) (kind : VariantKind), "/" ++ variantRecipeRevision ++ "/manifest.json" ≠
      "/" ++ variantRecipeRevision ++ "/" ++ format.component ++ "/" ++ kind.component := by
    intro format kind
    cases format <;> cases kind <;> decide +kernel
  exact hrest key.format key.kind (path_cancel h).2

/-! ## Complete sets -/

section Laws

variable {blake3 : Bytes → ContentId} {fromSlice : Bytes → Except String DiskManifest}
  {validateEncodedVariant : VariantRecord → Bytes → Except MediaError Unit}
  {objects objects' : ObjectPath → Option Bytes} {repository repository' : Repository}

/-- The raster and all members of a set are there, with the lengths and digests the set gives. -/
structure Complete (blake3 : Bytes → ContentId) (objects : ObjectPath → Option Bytes) (set : VariantSet) :
    Prop where
  original : ∃ bytes, objects (originalPath set.source) = some bytes ∧ blake3 bytes = set.source ∧
    parseCanonicalHeader bytes = .ok (set.sourceWidth, set.sourceHeight)
  members : ∀ record ∈ set.variants, ∃ bytes, objects (variantObjectPath record.key) = some bytes ∧
    bytes.size = record.encodedLen ∧ blake3 bytes = record.blake3

variable {id : ContentId} {set : VariantSet} {lookup : Lookup}

/-- The manifest is what a commit puts last. -/
theorem objectPuts_manifest {prepared : PreparedMediaUpload} {manifest : Bytes}
    {before after : List (ObjectPath × Bytes)}
    (h : objectPuts prepared = before ++ (manifestPath id, manifest) :: after) :
    before = memberPuts prepared ∧ id = prepared.handle.id ∧ manifest = prepared.variants.manifest := by
  have hmembers : ∀ put ∈ memberPuts prepared, put.1 ≠ manifestPath id := by
    intro put hput
    rcases List.mem_cons.1 hput with rfl | hput
    · exact (manifestPath_ne_original _ _).symm
    · obtain ⟨member, -, rfl⟩ := List.mem_map.1 hput
      exact (manifestPath_ne_variant _ _).symm
  rcases List.append_eq_append_iff.1 h with ⟨extra, rfl, hextra⟩ | ⟨extra, hbefore, hextra⟩
  · cases extra with
    | nil =>
      obtain ⟨hput, -⟩ := List.cons.inj hextra
      exact ⟨List.append_nil _, (manifestPath_injective (Prod.mk.inj hput).1).symm, (Prod.mk.inj hput).2.symm⟩
    | cons put extra => exact absurd (congrArg List.length hextra) (by simp)
  · cases extra with
    | nil =>
      obtain ⟨hput, -⟩ := List.cons.inj hextra
      rw [List.append_nil] at hbefore
      exact ⟨hbefore.symm, manifestPath_injective (Prod.mk.inj hput).1, (Prod.mk.inj hput).2⟩
    | cons put extra =>
      obtain ⟨rfl, -⟩ := List.cons.inj hextra
      exact absurd rfl (hmembers (manifestPath id, manifest) (by rw [hbefore]; simp))

theorem complete_of_stored {prepared : PreparedMediaUpload} (hsound : prepared.Sound blake3)
    (hstored : Stored objects (memberPuts prepared)) : Complete blake3 objects prepared.variants.set := by
  rw [hsound.set]
  refine ⟨⟨prepared.canonicalBytes, hstored _ List.mem_cons_self, hsound.original, hsound.header⟩, ?_⟩
  intro record hrecord
  obtain ⟨member, hmember, rfl⟩ := List.mem_map.1 hrecord
  obtain ⟨-, hsize, hdigest⟩ := hsound.members member hmember
  exact ⟨member.encodedBytes, hstored _ (List.mem_cons_of_mem _ (List.mem_map_of_mem hmember)), hsize, hdigest⟩

/-- **A manifest that is there is that of a complete set.** -/
theorem complete_of_founded (h : Founded (Admitted blake3) objects) {manifest : Bytes}
    (hmanifest : objects (manifestPath id) = some manifest) :
    ∃ set, set.source = id ∧ manifest = serializeManifest set ∧ Complete blake3 objects set ∧
      ∀ found, parseManifest fromSlice id manifest = .ok found → found = set := by
  obtain ⟨before, after, ⟨encode, canonicalBytes, limits, prepared, hprepared, hputs⟩, hstored⟩ :=
    h _ _ hmanifest
  obtain ⟨rfl, rfl, rfl⟩ := objectPuts_manifest hputs.symm
  have hsound := prepareUpload_sound hprepared
  have hsource : prepared.variants.set.source = prepared.handle.id := by rw [hsound.set]
  refine ⟨prepared.variants.set, hsource, hsound.manifest, complete_of_stored hsound hstored, ?_⟩
  intro found hfound
  rw [hsound.manifest] at hfound
  refine parseManifest_serialize hsource (fun record hrecord => ?_) hfound
  rw [hsound.set] at hrecord
  obtain ⟨member, hmember, rfl⟩ := List.mem_map.1 hrecord
  exact (hsound.members member hmember).1

/-! ## Lookups -/

/-- The manifest under an id is read as this set. -/
def Reads (fromSlice : Bytes → Except String DiskManifest) (objects : ObjectPath → Option Bytes) (id : ContentId)
    (set : VariantSet) : Prop :=
  ∃ manifest, objects (manifestPath id) = some manifest ∧ parseManifest fromSlice id manifest = .ok set

/-- The record is one of those that are asked for. -/
def Request.Asks : Request → VariantRecord → Prop
  | .variant format kind, record => (record.key.format, record.key.kind) = (format, kind)
  | _, _ => True

/-- What is found is what the manifest says. -/
def Lookup.Matches (blake3 : Bytes → ContentId) (fromSlice : Bytes → Except String DiskManifest)
    (objects : ObjectPath → Option Bytes) (lookup : Lookup) : Found → Prop
  | .set set => Reads fromSlice objects lookup.id set
  | .variant record bytes => ∃ set, Reads fromSlice objects lookup.id set ∧ record ∈ set.variants ∧
      lookup.request.Asks record ∧ objects (variantObjectPath record.key) = some bytes ∧
      bytes.size = record.encodedLen ∧ blake3 bytes = record.blake3

/-- What a lookup knows. -/
def Lookup.Kept (blake3 : Bytes → ContentId) (fromSlice : Bytes → Except String DiskManifest)
    (objects : ObjectPath → Option Bytes) (lookup : Lookup) : Reading → Prop
  | .member set record rest => Reads fromSlice objects lookup.id set ∧ lookup.request.Asks record ∧
      ∀ other ∈ record :: rest, other ∈ set.variants
  | .done (.ok (some found)) => lookup.Matches blake3 fromSlice objects found
  | _ => True

theorem Reads.mono (h : Reads fromSlice objects id set) (hext : Extends objects objects') : Reads fromSlice objects' id set := by
  obtain ⟨manifest, hmanifest, hparse⟩ := h
  exact ⟨manifest, hext _ _ hmanifest, hparse⟩

theorem Lookup.Kept.mono {reading : Reading} (h : lookup.Kept blake3 fromSlice objects reading)
    (hext : Extends objects objects') :
    lookup.Kept blake3 fromSlice objects' reading := by
  match reading, h with
  | .manifest, _ | .done (.error _), _ | .done (.ok none), _ => exact trivial
  | .member _ _ _, ⟨hreads, hasks, hmem⟩ => exact ⟨hreads.mono hext, hasks, hmem⟩
  | .done (.ok (some (.set _))), hreads => exact Reads.mono hreads hext
  | .done (.ok (some (.variant _ _))), ⟨set, hreads, hmem, hasks, hstored, hsize, hdigest⟩ =>
    exact ⟨set, hreads.mono hext, hmem, hasks, hext _ _ hstored, hsize, hdigest⟩

theorem kept_readNext {records : List VariantRecord}
    (hreads : Reads fromSlice objects lookup.id set) (hasks : ∀ record, lookup.request.Asks record)
    (hmem : ∀ record ∈ records, record ∈ set.variants) :
    lookup.Kept blake3 fromSlice objects (readNext set records) := by
  cases records with
  | nil => exact hreads
  | cons record rest => exact ⟨hreads, hasks record, hmem⟩

theorem kept_open (hreads : Reads fromSlice objects lookup.id set) :
    lookup.Kept blake3 fromSlice objects (lookup.open set) := by
  unfold Lookup.open
  cases hrequest : lookup.request with
  | variant format kind =>
    dsimp only
    split
    · exact trivial
    · rename_i record hfound
      refine ⟨hreads, ?_, fun other hother => ?_⟩
      · rw [hrequest]
        have hrole : decide ((record.key.format, record.key.kind) = (format, kind)) = true := by
          have hchosen := List.find?_some hfound
          exact hchosen
        exact (of_decide_eq_true hrole : _ = _)
      · obtain rfl := List.mem_singleton.1 hother
        exact List.mem_of_find?_eq_some hfound
  | set => exact kept_readNext hreads (fun _ => by rw [hrequest]; trivial) fun _ hrecord => hrecord
  | probe => exact hreads

theorem getBounded_some {path : ObjectPath} {maxLen : Nat} {operation : String} {bytes : Bytes}
    (h : getBounded objects path maxLen operation = .ok (some bytes)) : objects path = some bytes := by
  unfold getBounded at h
  split at h
  · cases h
  · rename_i stored hstored
    split at h
    · cases h
    · obtain rfl := Option.some.inj (Except.ok.inj h)
      exact hstored

theorem kept_readManifest (lookup : Lookup) :
    lookup.Kept blake3 fromSlice objects (lookup.readManifest fromSlice objects) := by
  unfold Lookup.readManifest
  dsimp only
  split
  · exact trivial
  · exact trivial
  · rename_i manifest hmanifest
    split
    · exact trivial
    · rename_i set hparse
      split
      · exact trivial
      · exact kept_open ⟨manifest, getBounded_some hmanifest, hparse⟩

theorem verifyMemberBytes_ok {record : VariantRecord} {bytes : Bytes} {done : Unit}
    (h : verifyMemberBytes blake3 validateEncodedVariant id record bytes = .ok done) :
    bytes.size = record.encodedLen ∧ blake3 bytes = record.blake3 := by
  unfold verifyMemberBytes at h
  obtain ⟨_, hsize, h⟩ := bind_eq_ok.1 h
  obtain ⟨_, hdigest, -⟩ := bind_eq_ok.1 h
  exact ⟨not_not.1 (Fallible.refuseIf_eq_ok.1 hsize), not_not.1 (Fallible.refuseIf_eq_ok.1 hdigest)⟩

theorem kept_readMember {record : VariantRecord} {rest : List VariantRecord}
    (h : lookup.Kept blake3 fromSlice objects (.member set record rest)) :
    lookup.Kept blake3 fromSlice objects
      (lookup.readMember blake3 validateEncodedVariant objects set record rest) := by
  obtain ⟨hreads, hasks, hmem⟩ := h
  unfold Lookup.readMember
  split
  · exact trivial
  · exact trivial
  · rename_i bytes hbytes
    split
    · exact trivial
    · rename_i done hverified
      obtain ⟨hsize, hdigest⟩ := verifyMemberBytes_ok hverified
      have hrest : ∀ other ∈ rest, other ∈ set.variants :=
        fun other hother => hmem other (List.mem_cons_of_mem _ hother)
      cases hrequest : lookup.request with
      | variant format kind =>
        exact ⟨set, hreads, hmem record List.mem_cons_self, hasks, getBounded_some hbytes, hsize, hdigest⟩
      | set | probe => exact kept_readNext hreads (fun _ => by rw [hrequest]; trivial) hrest

/-! ## Runs -/

/-- What a run keeps. -/
structure RepositoryKept (blake3 : Bytes → ContentId) (fromSlice : Bytes → Except String DiskManifest)
    (repository : Repository) : Prop where
  commits : CreateOnly.Kept (Admitted blake3) repository.world
  lookups : ∀ n lookup, repository.lookups n = some lookup →
    lookup.Kept blake3 fromSlice repository.world.objects lookup.reading

theorem RepositoryKept.turn (h : RepositoryKept blake3 fromSlice repository) {n : Nat}
    (hlookup : lookup.Kept blake3 fromSlice repository.world.objects lookup.reading) :
    RepositoryKept blake3 fromSlice (repository.turn n lookup) where
  commits := h.commits
  lookups m found hfound := by
    by_cases hm : m = n
    · subst hm
      have hself : (repository.turn m lookup).lookups m = some lookup := Function.update_self _ _ _
      obtain rfl := Option.some.inj (hself.symm.trans hfound)
      exact hlookup
    · exact h.lookups m found ((Function.update_of_ne hm _ _).symm.trans hfound)

theorem RepositoryKept.step (h : RepositoryKept blake3 fromSlice repository)
    (hstep : Step blake3 fromSlice validateEncodedVariant repository repository') :
    RepositoryKept blake3 fromSlice repository' := by
  cases hstep with
  | commit step =>
    exact ⟨h.commits.step step, fun n lookup hlookup => (h.lookups n lookup hlookup).mono (step_extends step)⟩
  | lookup id request mediaLimits limits fresh => exact h.turn trivial
  | @readManifest n lookup looks reading => exact h.turn (kept_readManifest lookup)
  | @readMember n lookup set record rest looks reading =>
    have hkept := h.lookups n lookup looks
    rw [reading] at hkept
    exact h.turn (kept_readMember hkept)
  | refused error looks => exact h.turn trivial

theorem repository_kept (hrun : ReflTransGen (Step blake3 fromSlice validateEncodedVariant) {} repository) :
    RepositoryKept blake3 fromSlice repository := by
  induction hrun with
  | refl => exact ⟨kept_start, fun _ _ hlookup => nomatch hlookup⟩
  | tail _ hstep ih => exact ih.step hstep

theorem world_run (hrun : ReflTransGen (Step blake3 fromSlice validateEncodedVariant) repository repository') :
    ReflTransGen (CreateOnly.Step (Admitted blake3)) repository.world repository'.world := by
  induction hrun with
  | refl => exact .refl
  | tail _ hstep ih =>
    cases hstep with
    | commit step => exact ih.tail step
    | lookup | readManifest | readMember | refused => exact ih

/-- **A manifest that is there is that of a complete set; nothing is replaced; a commit that finds other bytes
never succeeds; and what a lookup finds is what the manifest says.** -/
theorem media_sets_complete
    (hrun : ReflTransGen (Step blake3 fromSlice validateEncodedVariant) {} repository) :
    (∀ id manifest, repository.world.objects (manifestPath id) = some manifest →
      ∃ set, set.source = id ∧ manifest = serializeManifest set ∧
        Complete blake3 repository.world.objects set ∧
        ∀ found, parseManifest fromSlice id manifest = .ok found → found = set) ∧
    (∀ later, ReflTransGen (Step blake3 fromSlice validateEncodedVariant) repository later →
      ∀ path bytes, repository.world.objects path = some bytes → later.world.objects path = some bytes) ∧
    (∀ commit writer put other, repository.world.writers commit = some writer → put ∈ writer.puts →
      repository.world.objects put.1 = some other → other ≠ put.2 →
      ∀ later, ReflTransGen (Step blake3 fromSlice validateEncodedVariant) repository later →
        ∀ writer', later.world.writers commit = some writer' → ¬ writer'.Done) ∧
    ∀ n lookup found, repository.lookups n = some lookup → lookup.reading = .done (.ok (some found)) →
      lookup.Matches blake3 fromSlice repository.world.objects found := by
  have hkept := repository_kept hrun
  refine ⟨fun id manifest hmanifest => complete_of_founded hkept.commits.founded hmanifest,
    fun later hlater => run_extends (world_run hlater), ?_, fun n lookup found hlookup hdone => ?_⟩
  · intro commit writer put other hwriter hput hother hne later hlater writer' hwriter'
    exact hkept.commits.differs hwriter hput hother hne (world_run hlater) hwriter'
  · have hfound := hkept.lookups n lookup hlookup
    rw [hdone] at hfound
    exact hfound

end Laws

/-! ## A red dot -/

/-- The canonical raster of one red pixel. -/
def redDot : Bytes := canonicalMagic ++ ⟨#[0, 0, 0, 1, 0, 0, 0, 1, 255, 0, 0, 255]⟩

/-- Short stand-ins for what the codecs make of it. -/
def redEncoder : Encoder := fun key _ _ _ _ _ => .ok (key.format.component.toUTF8, false)

/-- The digests of these. -/
def redDigest (bytes : Bytes) : ContentId :=
  if bytes = redDot then
    ⟨"2169cb188b0e1eee6fac7bb4ccb5679a5d2c32624c16e9654f5b1bef5b911373", by decide +kernel⟩
  else if bytes = VariantFormat.avif.component.toUTF8 then
    ⟨"74dc98ffbfa7bba29df66610a0aff44479f98170b8b7027004d990c8cd576d68", by decide +kernel⟩
  else ⟨"d01e031811d82d653e5595aff0e18a8fab71bcbd29d407117b1e6a17632ca09e", by decide +kernel⟩

/-- The limits of `VariantLimits::default`. -/
def defaultLimits : VariantLimits := ⟨2560, 2560, 6553600, 16 * 1024 * 1024, 64 * 1024 * 1024⟩

/-- The upload of the dot. -/
def redUpload : Option PreparedMediaUpload :=
  (prepareUpload redDigest redEncoder redDot defaultLimits).toOption

/-- A reader that reads the dot's manifest. -/
def readRed (bytes : Bytes) : Except String DiskManifest :=
  match redUpload with
  | some prepared =>
    if bytes = prepared.variants.manifest then .ok (diskManifest prepared.variants.set)
    else .error "expected value at line 1 column 1"
  | none => .error "expected value at line 1 column 1"

/-- The dot is committed, and its set is complete. -/
theorem redDot_complete : ∃ prepared, redUpload = some prepared ∧ ∃ repository,
    ReflTransGen (Step redDigest readRed fun _ _ => .ok ()) {} repository ∧
      repository.world.objects (manifestPath prepared.handle.id) = some prepared.variants.manifest ∧
      prepared.variants.set.variants.length = 6 ∧
      Complete redDigest repository.world.objects prepared.variants.set := by
  obtain ⟨prepared, hprepared⟩ := Option.isSome_iff_exists.1 (show redUpload.isSome = true by decide +kernel)
  have hfacts : ∀ prepared ∈ redUpload, ((objectPuts prepared).map (·.1)).Nodup ∧
      prepared.variants.set.variants.length = 6 := by
    decide +kernel
  obtain ⟨hnodup, hlength⟩ := hfacts prepared hprepared
  have hread : readRed prepared.variants.manifest = .ok (diskManifest prepared.variants.set) := by
    unfold readRed
    rw [hprepared]
    exact if_pos rfl
  have hadmitted : Admitted redDigest (objectPuts prepared) :=
    ⟨redEncoder, redDot, defaultLimits, prepared, Fallible.toOption_eq_some.1 hprepared, rfl⟩
  have hwriter : (({} : World ObjectPath Bytes).turn 0 { pending := objectPuts prepared }).writers 0 =
      some { pending := objectPuts prepared } := rfl
  obtain ⟨world, writer, hrun, hdone⟩ := run_alone hwriter rfl (fun _ _ => rfl) hnodup
  have hworld : ReflTransGen (CreateOnly.Step (Admitted redDigest)) {} world := .head (.start rfl hadmitted) hrun
  have hrepository : ReflTransGen (Step redDigest readRed fun _ _ => .ok ()) {} { world := world } := by
    clear hdone hrun
    induction hworld with
    | refl => exact .refl
    | tail _ hstep ih => exact ih.tail (.commit hstep)
  have hmanifest : world.objects (manifestPath prepared.handle.id) = some prepared.variants.manifest := by
    have hstored := (kept_run hworld).done hdone.1 hdone.2.1
    rw [hdone.2.2] at hstored
    exact hstored (manifestPath prepared.handle.id, prepared.variants.manifest) (by simp [Writer.puts, objectPuts])
  obtain ⟨set, -, -, hcomplete, honly⟩ :=
    (media_sets_complete hrepository).1 prepared.handle.id prepared.variants.manifest hmanifest
  have hsound := prepareUpload_sound (Fallible.toOption_eq_some.1 hprepared)
  obtain rfl := honly _ (hsound.parse hread)
  exact ⟨prepared, hprepared, _, hrepository, hmanifest, hlength, hcomplete⟩

end Fmarch.Media
