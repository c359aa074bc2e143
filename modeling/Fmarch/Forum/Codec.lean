import Fmarch.Domain.JsonCodec
import Fmarch.Forum.Topic
import Fmarch.Platform.UuidText

/-!
# The persisted forum schema (`forum::codec`)

`DecodedForumEvent.payload` and the older `TopicEvent.payload` both write what `decodeEvent` reads. Where a post
has no quotations or no mentions they differ: the first writes an empty list, the second nothing.

**`payloads_decode`**: what is read of either is the event written.
-/

namespace Fmarch.Forum

open Domain Domain.JsonCodec Platform Serde

/-! ## Uuids -/

/-- A `Uuid` in JSON. -/
def uuidCodec (uuids : UuidText) : Codec Json Uuid :=
  text.named uuids.text uuids.parse fun uuid => ⟨trivial, uuids.parse_text uuid⟩

/-! ## Kinds -/

def areaCreatedKind : String := "DiscussionAreaCreated"

def topicCreatedKind : String := "DiscussionTopicCreated"

def postSubmittedKind : String := "DiscussionPostSubmitted"

def postEditedKind : String := "DiscussionPostEdited"

def postRetractedKind : String := "DiscussionPostRetracted"

def postingStateChangedKind : String := "DiscussionTopicPostingStateChanged"

def visibilityChangedKind : String := "DiscussionTopicVisibilityChanged"

def topicRenamedKind : String := "DiscussionTopicRenamed"

def topicMovedKind : String := "DiscussionTopicMoved"

def topicPinnedChangedKind : String := "DiscussionTopicPinnedChanged"

/-- The kinds `decode_event` knows. -/
def kinds : List String :=
  [areaCreatedKind, topicCreatedKind, postSubmittedKind, postEditedKind, postRetractedKind,
    postingStateChangedKind, visibilityChangedKind, topicRenamedKind, topicMovedKind, topicPinnedChangedKind]

def DecodedForumEvent.kind : DecodedForumEvent → String
  | .areaCreated .. => areaCreatedKind
  | .topicCreated .. => topicCreatedKind
  | .postSubmitted .. => postSubmittedKind
  | .postEdited .. => postEditedKind
  | .postRetracted .. => postRetractedKind
  | .postingStateChanged .. => postingStateChangedKind
  | .visibilityChanged .. => visibilityChangedKind
  | .topicRenamed .. => topicRenamedKind
  | .topicMoved .. => topicMovedKind
  | .pinnedChanged .. => topicPinnedChangedKind

def TopicEvent.kind : TopicEvent → String
  | .created .. => topicCreatedKind
  | .postSubmitted .. => postSubmittedKind
  | .postEdited .. => postEditedKind
  | .postRetracted .. => postRetractedKind
  | .postingStateChanged .. => postingStateChangedKind
  | .visibilityChanged .. => visibilityChangedKind
  | .renamed .. => topicRenamedKind
  | .moved .. => topicMovedKind
  | .pinnedChanged .. => topicPinnedChangedKind

/-! ## Values -/

def PostingState.asStr : PostingState → String
  | .opened => "open"
  | .locked => "locked"

def TopicVisibility.asStr : TopicVisibility → String
  | .visible => "visible"
  | .hidden => "hidden"

def PostKind.asStr : PostKind → String
  | .discussionPost => "discussion_post"
  | .gamePost => "game_post"

/-- `PostingState`, in snake case. -/
def postingStateCodec : Codec Json PostingState :=
  enumeration [.opened, .locked] PostingState.asStr fun state => by cases state <;> rfl

/-- `TopicVisibility`, in snake case. -/
def visibilityCodec : Codec Json TopicVisibility :=
  enumeration [.visible, .hidden] TopicVisibility.asStr fun visibility => by
    cases visibility <;> rfl

/-- `PostKind`, in snake case. -/
def postKindCodec : Codec Json PostKind :=
  enumeration [.discussionPost, .gamePost] PostKind.asStr fun kind => by cases kind <;> rfl

section Schema

variable (uuids : UuidText)

/-- `PostRef`. -/
def postRefCodec : Codec Json PostRef :=
  (openRecord ((Fields.required "kind" postKindCodec).pair <|
      (Fields.required "scope_id" (uuidCodec uuids)).pair <| Fields.required "source_seq" i64))
    |>.map (fun (kind, scopeId, sourceSeq) => ⟨kind, scopeId, sourceSeq⟩)
    (fun target => (target.kind, target.scopeId, target.sourceSeq)) fun _ => rfl

/-- `Quotation`. -/
def quotationCodec : Codec Json Quotation :=
  (openRecord ((Fields.required "target" (postRefCodec uuids)).pair <| Fields.required "excerpt" text))
    |>.map (fun (target, excerpt) => ⟨target, excerpt⟩)
    (fun quotation => (quotation.target, quotation.excerpt)) fun _ => rfl

/-- `MentionSpan`: a `usize` has 64 bits. -/
def mentionSpanCodec : Codec Json MentionSpan :=
  (openRecord ((Fields.required "offset" (unsigned 64)).pair <| Fields.required "len" (unsigned 64)))
    |>.map (fun (offset, len) => ⟨offset, len⟩)
    (fun span => (span.offset, span.len)) fun _ => rfl

/-- `ProfileMention`. -/
def profileMentionCodec : Codec Json ProfileMention :=
  (openRecord ((Fields.required "profile_id" (uuidCodec uuids)).pair <|
      Fields.required "span" mentionSpanCodec))
    |>.map (fun (profileId, span) => ⟨profileId, span⟩)
    (fun mention => (mention.profileId, mention.span)) fun _ => rfl

/-- `reference_list`: absent and null are the empty list. -/
def referenceList {α : Type} (key : String) (c : Codec Json α) : Fields Json (List α) :=
  Fields.defaulted key (jsonFormat.nullAs (jsonFormat.list c) [] fun _ _ => rfl) []

/-- `present_profile`: a profile that is there is not null. -/
def presentProfile (key : String) : Fields Json (Option Uuid) :=
  Fields.present key (jsonFormat.filled (uuidCodec uuids))

/-! ## Variants -/

/-- The fields of `DecodedForumEvent::AreaCreated`. -/
def areaCreatedFields : Fields Json (String × String × String) :=
  (Fields.required "slug" text).pair <| (Fields.required "title" text).pair <|
    Fields.required "description" text

/-- The fields of `DecodedForumEvent::TopicCreated`. -/
def topicCreatedFields : Fields Json (Uuid × String × Option Uuid) :=
  (Fields.required "area_id" (uuidCodec uuids)).pair <| (Fields.required "title" text).pair <|
    presentProfile uuids "author_profile_id"

/-- The fields of `DecodedForumEvent::PostSubmitted`. -/
def postSubmittedFields : Fields Json (String × Option Uuid × List Quotation × List ProfileMention) :=
  (Fields.required "body" text).pair <| (presentProfile uuids "author_profile_id").pair <|
    (referenceList "quotations" (quotationCodec uuids)).pair <|
      referenceList "mentions" (profileMentionCodec uuids)

/-- The fields of `DecodedForumEvent::PostEdited`. -/
def postEditedFields : Fields Json (Int × String × List ProfileMention × Int) :=
  (Fields.required "source_seq" i64).pair <| (Fields.required "body" text).pair <|
    (referenceList "mentions" (profileMentionCodec uuids)).pair <|
      Fields.required "revision" i64

/-- `DecodedForumEvent::AreaCreated`. -/
def areaCreatedCodec : Codec Json (String × String × String) :=
  variant areaCreatedFields

/-- `DecodedForumEvent::TopicCreated`. -/
def topicCreatedCodec : Codec Json (Uuid × String × Option Uuid) :=
  variant (topicCreatedFields uuids)

/-- `DecodedForumEvent::PostSubmitted`. -/
def postSubmittedCodec : Codec Json (String × Option Uuid × List Quotation × List ProfileMention) :=
  variant (postSubmittedFields uuids)

/-- `DecodedForumEvent::PostEdited`. -/
def postEditedCodec : Codec Json (Int × String × List ProfileMention × Int) :=
  variant (postEditedFields uuids)

/-- `DecodedForumEvent::PostRetracted`. -/
def postRetractedCodec : Codec Json Int := variant (Fields.required "source_seq" i64)

/-- `DecodedForumEvent::PostingStateChanged`. -/
def postingStateChangedCodec : Codec Json PostingState :=
  variant (Fields.required "posting_state" postingStateCodec)

/-- `DecodedForumEvent::VisibilityChanged`. -/
def visibilityChangedCodec : Codec Json TopicVisibility :=
  variant (Fields.required "visibility" visibilityCodec)

/-- `DecodedForumEvent::TopicRenamed`. -/
def topicRenamedCodec : Codec Json String := variant (Fields.required "title" text)

/-- `DecodedForumEvent::TopicMoved`. -/
def topicMovedCodec : Codec Json Uuid := variant (Fields.required "area_id" (uuidCodec uuids))

/-- `DecodedForumEvent::PinnedChanged`. -/
def pinnedChangedCodec : Codec Json Bool := variant (Fields.required "pinned" flag)

/-! ## Writing -/

def DecodedForumEvent.payload : DecodedForumEvent → Json
  | .areaCreated slug title description => areaCreatedCodec.write (slug, title, description)
  | .topicCreated areaId title author => (topicCreatedCodec uuids).write (areaId, title, author)
  | .postSubmitted body author quotations mentions =>
    (postSubmittedCodec uuids).write (body, author, quotations, mentions)
  | .postEdited sourceSeq body mentions revision =>
    (postEditedCodec uuids).write (sourceSeq, body, mentions, revision)
  | .postRetracted sourceSeq => postRetractedCodec.write sourceSeq
  | .postingStateChanged postingState => postingStateChangedCodec.write postingState
  | .visibilityChanged visibility => visibilityChangedCodec.write visibility
  | .topicRenamed title => topicRenamedCodec.write title
  | .topicMoved areaId => (topicMovedCodec uuids).write areaId
  | .pinnedChanged pinned => pinnedChangedCodec.write pinned

def quotationsPayload (quotations : List Quotation) : Option Json :=
  if quotations.isEmpty then none else some ((jsonFormat.list (quotationCodec uuids)).write quotations)

def mentionsPayload (mentions : List ProfileMention) : Option Json :=
  if mentions.isEmpty then none else some ((jsonFormat.list (profileMentionCodec uuids)).write mentions)

def TopicEvent.payload : TopicEvent → Json
  | .created areaId title author =>
    .ofEntries [("area_id", .string (uuids.text areaId)), ("title", .string title),
      ("author_profile_id", .string (uuids.text author))]
  | .postSubmitted body author quotations mentions =>
    .ofEntries ([("body", .string body), ("author_profile_id", .string (uuids.text author))] ++
      ((quotationsPayload uuids quotations).map ("quotations", ·)).toList ++
      ((mentionsPayload uuids mentions).map ("mentions", ·)).toList)
  | .postEdited sourceSeq body mentions revision =>
    .ofEntries ([("source_seq", .number sourceSeq), ("body", .string body), ("revision", .number revision)] ++
      ((mentionsPayload uuids mentions).map ("mentions", ·)).toList)
  | .postRetracted sourceSeq => .ofEntries [("source_seq", .number sourceSeq)]
  | .postingStateChanged postingState => .ofEntries [("posting_state", .string postingState.asStr)]
  | .visibilityChanged visibility => .ofEntries [("visibility", .string visibility.asStr)]
  | .renamed title => .ofEntries [("title", .string title)]
  | .moved areaId => .ofEntries [("area_id", .string (uuids.text areaId))]
  | .pinnedChanged pinned => .ofEntries [("pinned", .bool pinned)]

/-! ## Reading -/

inductive ForumDecodeError where
  | unknownKind (kind : String)
  | unsupportedVersion (kind : String) (version : Int)
  | payload (kind : String) (version : Int)

/-- `DecodedForumEvent::deserialize`: the variant the tag names, read of the content. -/
def DecodedForumEvent.read (kind : String) (payload : Json) : Option DecodedForumEvent :=
  match kind with
  | "DiscussionAreaCreated" =>
    (areaCreatedCodec.read payload).map fun (slug, title, description) => .areaCreated slug title description
  | "DiscussionTopicCreated" =>
    ((topicCreatedCodec uuids).read payload).map fun (areaId, title, author) => .topicCreated areaId title author
  | "DiscussionPostSubmitted" =>
    ((postSubmittedCodec uuids).read payload).map fun (body, author, quotations, mentions) =>
      .postSubmitted body author quotations mentions
  | "DiscussionPostEdited" =>
    ((postEditedCodec uuids).read payload).map fun (sourceSeq, body, mentions, revision) =>
      .postEdited sourceSeq body mentions revision
  | "DiscussionPostRetracted" => (postRetractedCodec.read payload).map .postRetracted
  | "DiscussionTopicPostingStateChanged" => (postingStateChangedCodec.read payload).map .postingStateChanged
  | "DiscussionTopicVisibilityChanged" => (visibilityChangedCodec.read payload).map .visibilityChanged
  | "DiscussionTopicRenamed" => (topicRenamedCodec.read payload).map .topicRenamed
  | "DiscussionTopicMoved" => ((topicMovedCodec uuids).read payload).map .topicMoved
  | "DiscussionTopicPinnedChanged" => (pinnedChangedCodec.read payload).map .pinnedChanged
  | _ => none

def decodeEvent (kind : String) (version : Int) (payload : Json) : Except ForumDecodeError DecodedForumEvent :=
  if kind ∉ kinds then .error (.unknownKind kind)
  else if version ≠ 1 then .error (.unsupportedVersion kind version)
  else
    match DecodedForumEvent.read uuids kind payload with
    | some event => .ok event
    | none => .error (.payload kind version)

/-! ## Machine integers -/

/-- The sequence numbers and lengths of an event fit their types, `i64` and `usize`. -/
def DecodedForumEvent.InRange : DecodedForumEvent → Prop
  | .postSubmitted _ _ quotations mentions =>
    (∀ quotation ∈ quotations, i64.fits quotation.target.sourceSeq) ∧
      ∀ mention ∈ mentions, mention.span.offset < 2 ^ 64 ∧ mention.span.len < 2 ^ 64
  | .postEdited sourceSeq _ mentions revision =>
    i64.fits sourceSeq ∧ i64.fits revision ∧
      ∀ mention ∈ mentions, mention.span.offset < 2 ^ 64 ∧ mention.span.len < 2 ^ 64
  | .postRetracted sourceSeq => i64.fits sourceSeq
  | _ => True

variable {uuids}

theorem quotation_fits {quotation : Quotation} (h : i64.fits quotation.target.sourceSeq) :
    (quotationCodec uuids).fits quotation :=
  ⟨fun _ => ⟨fun _ => trivial, fun _ => trivial, fun _ => h⟩, fun _ => trivial⟩

theorem profileMention_fits {mention : ProfileMention}
    (h : mention.span.offset < 2 ^ 64 ∧ mention.span.len < 2 ^ 64) :
    (profileMentionCodec uuids).fits mention :=
  ⟨fun _ => trivial, fun _ => ⟨fun _ => h.1, fun _ => h.2⟩⟩

theorem presentProfile_fits {key : String} (author : Option Uuid) :
    (presentProfile uuids key).fits author := by
  intro hauthor
  cases author with
  | none => cases hauthor
  | some uuid => exact ⟨uuid, rfl, trivial⟩

/-! ## The payload of a decoded event -/

theorem read_payload (event : DecodedForumEvent) (h : event.InRange) :
    DecodedForumEvent.read uuids event.kind (event.payload uuids) = some event := by
  cases event with
  | areaCreated slug title description =>
    exact congrArg (Option.map _)
      (areaCreatedCodec.faithful _ ⟨fun _ => trivial, fun _ => trivial, fun _ => trivial⟩)
  | topicCreated areaId title author =>
    exact congrArg (Option.map _)
      ((topicCreatedCodec uuids).faithful _ ⟨fun _ => trivial, fun _ => trivial, presentProfile_fits author⟩)
  | postSubmitted body author quotations mentions =>
    refine congrArg (Option.map _) ((postSubmittedCodec uuids).faithful _
      ⟨fun _ => trivial, presentProfile_fits author, fun _ => ?_, fun _ => ?_⟩)
    · exact fun quotation hquotation => quotation_fits (h.1 quotation hquotation)
    · exact fun mention hmention => profileMention_fits (h.2 mention hmention)
  | postEdited sourceSeq body mentions revision =>
    refine congrArg (Option.map _) ((postEditedCodec uuids).faithful _
      ⟨fun _ => h.1, fun _ => trivial, fun _ => ?_, fun _ => h.2.1⟩)
    exact fun mention hmention => profileMention_fits (h.2.2 mention hmention)
  | postRetracted sourceSeq => exact congrArg (Option.map _) (postRetractedCodec.faithful _ fun _ => h)
  | postingStateChanged postingState =>
    exact congrArg (Option.map _) (postingStateChangedCodec.faithful _ fun _ => trivial)
  | visibilityChanged visibility =>
    exact congrArg (Option.map _) (visibilityChangedCodec.faithful _ fun _ => trivial)
  | topicRenamed title => exact congrArg (Option.map _) (topicRenamedCodec.faithful _ fun _ => trivial)
  | topicMoved areaId => exact congrArg (Option.map _) ((topicMovedCodec uuids).faithful _ fun _ => trivial)
  | pinnedChanged pinned => exact congrArg (Option.map _) (pinnedChangedCodec.faithful _ fun _ => trivial)

theorem kind_known (event : DecodedForumEvent) : event.kind ∈ kinds := by
  cases event <;> simp [kinds, DecodedForumEvent.kind]

theorem decodeEvent_of_read {event : DecodedForumEvent} {kind : String} {payload : Json} (hkind : kind ∈ kinds)
    (h : DecodedForumEvent.read uuids kind payload = some event) :
    decodeEvent uuids kind 1 payload = .ok event := by
  simp [decodeEvent, hkind, h]

/-! ## The payload of a topic event -/

/-- A list that is left out where it is empty is read as the list. -/
theorem referenceList_read {α : Type} {key : String} {c : Codec Json α} {values : List α}
    {found : String → Option Json} (hfits : ∀ a ∈ values, c.fits a)
    (h : found key = if values.isEmpty then none else some ((jsonFormat.list c).write values)) :
    (referenceList key c).read found = some values := by
  refine Fields.defaulted_read ?_
  by_cases hempty : values.isEmpty = true
  · rw [if_pos hempty] at h
    exact .inr ⟨h, List.isEmpty_iff.1 hempty⟩
  · rw [if_neg hempty] at h
    exact .inl ⟨h, hfits⟩

theorem postSubmitted_payload_read {body : String} {author : Uuid} {quotations : List Quotation}
    {mentions : List ProfileMention}
    (h : (DecodedForumEvent.postSubmitted body (some author) quotations mentions).InRange) :
    (postSubmittedCodec uuids).read
        ((TopicEvent.postSubmitted body author quotations mentions).payload uuids) =
      some (body, some author, quotations, mentions) := by
  have hquotations : ∀ quotation ∈ quotations, (quotationCodec uuids).fits quotation :=
    fun quotation hquotation => quotation_fits (h.1 quotation hquotation)
  have hmentions : ∀ mention ∈ mentions, (profileMentionCodec uuids).fits mention :=
    fun mention hmention => profileMention_fits (h.2 mention hmention)
  have hauthor : ((uuidCodec uuids).read (.string (uuids.text author))).map some = some (some author) :=
    congrArg (Option.map some) ((uuidCodec uuids).faithful author trivial)
  refine (jsonFormat.readRecord_object _ true false ?_ ?_).trans ?_
  · unfold quotationsPayload mentionsPayload
    cases quotations <;> cases mentions <;> simp
  · have hkeys : (postSubmittedFields uuids).keys =
        ["body", "author_profile_id", "quotations", "mentions"] := rfl
    rw [hkeys]
    unfold quotationsPayload mentionsPayload
    cases quotations <;> cases mentions <;> simp
  · refine Fields.pair_read rfl (Fields.pair_read hauthor (Fields.pair_read ?_ ?_))
    · refine referenceList_read hquotations ?_
      unfold quotationsPayload mentionsPayload
      cases quotations <;> cases mentions <;> rfl
    · refine referenceList_read hmentions ?_
      unfold quotationsPayload mentionsPayload
      cases quotations <;> cases mentions <;> rfl

theorem postEdited_payload_read {sourceSeq : Int} {body : String} {mentions : List ProfileMention}
    {revision : Int} (h : (DecodedForumEvent.postEdited sourceSeq body mentions revision).InRange) :
    (postEditedCodec uuids).read ((TopicEvent.postEdited sourceSeq body mentions revision).payload uuids) =
      some (sourceSeq, body, mentions, revision) := by
  obtain ⟨hseq, hrevision, hspans⟩ := h
  have hmentions : ∀ mention ∈ mentions, (profileMentionCodec uuids).fits mention :=
    fun mention hmention => profileMention_fits (hspans mention hmention)
  refine (jsonFormat.readRecord_object _ true false ?_ ?_).trans ?_
  · unfold mentionsPayload
    cases mentions <;> simp
  · have hkeys : (postEditedFields uuids).keys = ["source_seq", "body", "mentions", "revision"] := rfl
    rw [hkeys]
    unfold mentionsPayload
    cases mentions <;> simp
  · refine Fields.pair_read (i64.faithful sourceSeq hseq) (Fields.pair_read rfl
      (Fields.pair_read (referenceList_read hmentions ?_) (i64.faithful revision hrevision)))
    unfold mentionsPayload
    cases mentions <;> rfl

theorem topicPayload_read {event : TopicEvent} (h : event.decoded.InRange) :
    DecodedForumEvent.read uuids event.kind (event.payload uuids) = some event.decoded := by
  cases event with
  | postSubmitted body author quotations mentions =>
    exact congrArg (Option.map _) (postSubmitted_payload_read h)
  | postEdited sourceSeq body mentions revision =>
    exact congrArg (Option.map _) (postEdited_payload_read h)
  | created areaId title author => exact read_payload (.topicCreated areaId title (some author)) h
  | postRetracted sourceSeq => exact read_payload (.postRetracted sourceSeq) h
  | postingStateChanged postingState =>
    exact read_payload (.postingStateChanged postingState) h
  | visibilityChanged visibility => exact read_payload (.visibilityChanged visibility) h
  | renamed title => exact read_payload (.topicRenamed title) h
  | moved areaId => exact read_payload (.topicMoved areaId) h
  | pinnedChanged pinned => exact read_payload (.pinnedChanged pinned) h

end Schema

/-- What either encoder writes of an event is read, under its kind and the current version, as that event. -/
theorem payloads_decode (uuids : UuidText) : (∀ event : DecodedForumEvent, event.InRange →
      decodeEvent uuids event.kind 1 (event.payload uuids) = .ok event) ∧
    ∀ event : TopicEvent, event.decoded.InRange → event.decoded.kind = event.kind ∧
        decodeEvent uuids event.kind 1 (event.payload uuids) = .ok event.decoded := by
  refine ⟨fun event h => decodeEvent_of_read (kind_known event) (read_payload event h), fun event h => ?_⟩
  have hkind : event.decoded.kind = event.kind := by
    cases event <;> rfl
  exact ⟨hkind, decodeEvent_of_read (hkind ▸ kind_known event.decoded) (topicPayload_read h)⟩

/-- A post that quotes one post and mentions nobody. -/
def quotingPost : TopicEvent :=
  .postSubmitted "agreed" 3 [⟨⟨.discussionPost, 5, 1⟩, "the first post"⟩] []

/-- Both encoders' payloads of it are read, the one with an empty list of mentions and the one without. -/
theorem quotingPost_decodes :
    decodeEvent hyphenated quotingPost.decoded.kind 1 (quotingPost.decoded.payload hyphenated) =
        .ok quotingPost.decoded ∧
      decodeEvent hyphenated quotingPost.kind 1 (quotingPost.payload hyphenated) = .ok quotingPost.decoded := by
  have hrange : quotingPost.decoded.InRange := by
    refine ⟨fun quotation h => ?_, fun mention h => nomatch h⟩
    rw [List.mem_singleton.1 h]
    exact ⟨by decide, by decide⟩
  exact ⟨(payloads_decode hyphenated).1 _ hrange, ((payloads_decode hyphenated).2 _ hrange).2⟩

end Fmarch.Forum
