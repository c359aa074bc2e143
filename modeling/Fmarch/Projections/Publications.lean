import Fmarch.Forum.Replay
import Fmarch.Lib.Rows

/-!
# What the forum publishes (`projections::publications`, `project_discussion_event`)

A topic is a publication surface, each of its posts a publication on it, and each post that has not been
retracted a document of the public search. The fold of one forum event writes the topic's own rows and
these three tables. The tables of the inbox, of citations and of superseded revisions, and the columns of
a topic that none of this reads, are left out.
-/

namespace Fmarch.Projections.Publications

open Platform Forum

/-! ## Rows -/

inductive PublicSearchDocumentType where
  | discussion | discussionPost | profile | game | gamePost
  deriving DecidableEq

/-- `PublicContentRef`: the key of `public_publication` and of `moderation_target_state`. -/
structure PublicContentRef where
  surfaceId : Uuid
  sourceSeq : Int
  deriving DecidableEq

/-- The key of `public_search_document`. -/
structure DocumentKey where
  surfaceId : Uuid
  documentType : PublicSearchDocumentType
  sourceSeq : Int
  deriving DecidableEq

/-- `discussion_area`. -/
structure AreaRow where
  slug : String
  title : String
  description : String
  createdSeq : Int

/-- `discussion_topic`. -/
structure TopicRow where
  areaId : Uuid
  title : String
  authorProfileId : Option Uuid
  visibility : TopicVisibility

/-- `discussion_post`. -/
structure PostRow where
  topicId : Uuid
  authorProfileId : Option Uuid
  body : String
  mentions : List ProfileMention
  revision : Int
  editedAt : Option Int
  retractedAt : Option Int

/-- `publication_surface`. -/
structure SurfaceRow where
  searchGroup : String
  title : String
  href : String
  visible : Bool
  updatedSeq : Int

/-- `public_publication`. -/
structure PublicationRow where
  body : String
  href : String
  authorProfileId : Option Uuid
  occurredAt : Int
  visible : Bool

/-- `public_search_document`. -/
structure DocumentRow where
  titleText : String
  body : String
  href : String
  authorProfileId : Option Uuid
  publishedAt : Int
  updatedSeq : Int
  visible : Bool

/-- `moderation_target_state.visibility`. -/
inductive TargetVisibility where
  | visible | hidden
  deriving DecidableEq

inductive ModerationCaseStatus where
  | opened | hidden | dismissed | restored
  deriving DecidableEq

/-- `moderation_case`. -/
structure CaseRow where
  caseId : Uuid
  target : PublicContentRef
  status : ModerationCaseStatus
  version : Int

/-- The tables the forum and its moderation publish through. -/
structure Tables where
  areas : Rows Uuid AreaRow := .empty
  topics : Rows Uuid TopicRow := .empty
  posts : Rows Int PostRow := .empty
  surfaces : Rows Uuid SurfaceRow := .empty
  publications : Rows PublicContentRef PublicationRow := .empty
  documents : Rows DocumentKey DocumentRow := .empty
  cases : List CaseRow := []
  targets : Rows PublicContentRef TargetVisibility := .empty

/-- `EXISTS (… moderation.visibility = 'hidden')`. -/
def Tables.hidden (tables : Tables) (ref : PublicContentRef) : Bool :=
  tables.targets ref = some .hidden

/-- `ProjectionError`, as far as these folds return it. -/
inductive ProjectionError where
  | uniqueViolation | rowNotFound
  | protocol (message : String)
  | forumReplay (error : ForumReplayError)

/-! ## Addresses -/

/-- The text of a UUID. -/
def uuidText (id : Uuid) : String :=
  let hex := id.toHex
  "-".intercalate [byteSlice hex 0 8, byteSlice hex 8 12, byteSlice hex 12 16, byteSlice hex 16 20,
    byteSlice hex 20 32]

/-- `format!("/discussions/{slug}/t/{topic_id}")`. -/
def topicHref (slug : String) (topicId : Uuid) : String :=
  "/discussions/" ++ slug ++ "/t/" ++ uuidText topicId

/-- `surface.href || '#post-' || source_seq::text`. -/
def postHref (surfaceHref : String) (sourceSeq : Int) : String :=
  surfaceHref ++ "#post-" ++ toString sourceSeq

/-! ## Publications -/

def recordSurface (tables : Tables) (surfaceId : Uuid) (searchGroup title href : String)
    (visible : Bool) (updatedSeq : Int) : Tables :=
  { tables with
    surfaces := tables.surfaces.upsert surfaceId { searchGroup, title, href, visible, updatedSeq } }

/-- `record_surface_search_document`: a surface's own document stands at position 0, and keeps when it
was first published. -/
def recordSurfaceSearchDocument (tables : Tables) (surfaceId : Uuid)
    (documentType : PublicSearchDocumentType) (document : DocumentRow) : Tables :=
  let key : DocumentKey := ⟨surfaceId, documentType, 0⟩
  let publishedAt := ((tables.documents key).map (·.publishedAt)).getD document.publishedAt
  { tables with documents := tables.documents.upsert key { document with publishedAt } }

def recordForumSurface (tables : Tables) (topicId : Uuid) (updatedSeq occurredAt : Int) :
    Except ProjectionError Tables :=
  match (tables.topics topicId).bind fun topic =>
      (tables.areas topic.areaId).map fun area => (topic, area) with
  | none => .error .rowNotFound
  | some (topic, area) =>
    let visible : Bool := topic.visibility = .visible
    let href := topicHref area.slug topicId
    let tables := recordSurface tables topicId "discussions" topic.title href visible updatedSeq
    .ok (recordSurfaceSearchDocument tables topicId .discussion
      ⟨topic.title, "", href, topic.authorProfileId, occurredAt, updatedSeq, visible⟩)

/-- `record_publication`, of a forum post: nothing is published without a surface. -/
def recordPublication (tables : Tables) (surfaceId : Uuid) (sourceSeq : Int) (body : String)
    (authorProfileId : Option Uuid) (occurredAt : Int) : Tables :=
  let ref : PublicContentRef := ⟨surfaceId, sourceSeq⟩
  let publications :=
    match tables.surfaces surfaceId with
    | none => tables.publications
    | some surface =>
      tables.publications.upsert ref
        ⟨body, postHref surface.href sourceSeq, authorProfileId, occurredAt, !tables.hidden ref⟩
  let documents :=
    match publications ref with
    | none => tables.documents
    | some published =>
      tables.documents.upsert ⟨surfaceId, .discussionPost, sourceSeq⟩
        ⟨"", published.body, published.href, published.authorProfileId, published.occurredAt,
          sourceSeq, published.visible⟩
  { tables with publications, documents }

def rehomeForumPublications (tables : Tables) (topicId : Uuid) : Tables :=
  let publications := tables.publications.update (·.surfaceId = topicId) fun ref publication =>
    match tables.surfaces ref.surfaceId with
    | some surface => { publication with href := postHref surface.href ref.sourceSeq }
    | none => publication
  let documents :=
    tables.documents.update (fun key => key.surfaceId = topicId ∧ 0 < key.sourceSeq) fun key document =>
      match publications ⟨key.surfaceId, key.sourceSeq⟩ with
      | some publication => { document with href := publication.href }
      | none => document
  { tables with publications, documents }

def recordPublicationRevision (tables : Tables) (surfaceId : Uuid) (sourceSeq : Int) (body : String)
    (updatedSeq : Int) : Tables :=
  { tables with
    publications := tables.publications.update (· = ⟨surfaceId, sourceSeq⟩) fun _ publication =>
      { publication with body }
    documents := tables.documents.update
      (fun key => key.surfaceId = surfaceId ∧ key.sourceSeq = sourceSeq ∧ 0 < key.sourceSeq)
      fun _ document => { document with body, updatedSeq } }

def withdrawPublicationSearchDocument (tables : Tables) (surfaceId : Uuid) (sourceSeq : Int) : Tables :=
  { tables with
    documents := tables.documents.delete
      fun key => key.surfaceId = surfaceId ∧ key.sourceSeq = sourceSeq ∧ 0 < key.sourceSeq }

/-! ## The fold -/

/-- `UPDATE discussion_topic … WHERE topic_id = $1`. -/
def updateTopic (tables : Tables) (topicId : Uuid) (change : TopicRow → TopicRow) : Tables :=
  { tables with topics := tables.topics.update (· = topicId) fun _ => change }

/-- `UPDATE discussion_post … WHERE source_seq = $1 AND topic_id = $2`, which must find one row; `kind` is
the event that names the post. -/
def updatePost (tables : Tables) (kind : String) (topicId : Uuid) (sourceSeq : Int)
    (change : PostRow → PostRow) : Except ProjectionError Tables :=
  match (tables.posts sourceSeq).filter (·.topicId = topicId) with
  | some post => .ok { tables with posts := tables.posts.upsert sourceSeq (change post) }
  | none =>
    .error (.protocol (kind ++ " names post " ++ toString sourceSeq ++ " outside topic " ++ uuidText topicId))

/-- The `match` on the decoded event in `project_discussion_event`. -/
def projectFact (tables : Tables) (streamId : Uuid) (record : ForumEventRecord) :
    Except ProjectionError Tables :=
  match record.event with
  | .areaCreated slug title description =>
    .ok { tables with
      areas := tables.areas.upsert streamId ⟨slug, title, description, record.sourceSeq⟩ }
  | .topicCreated areaId title authorProfileId =>
    match tables.topics.insert streamId ⟨areaId, title, authorProfileId, .visible⟩ with
    | some topics => .ok { tables with topics }
    | none => .error .uniqueViolation
  | .postSubmitted body authorProfileId _ mentions =>
    match tables.posts.insert record.sourceSeq
        ⟨streamId, authorProfileId, body, mentions, 0, none, none⟩ with
    | some posts =>
      .ok (recordPublication { tables with posts } streamId record.sourceSeq body authorProfileId
        record.occurredAt)
    | none => .error .uniqueViolation
  | .postEdited sourceSeq body mentions revision => do
    let tables ← updatePost tables "DiscussionPostEdited" streamId sourceSeq fun post =>
      { post with body, mentions, revision, editedAt := some record.occurredAt }
    return recordPublicationRevision tables streamId sourceSeq body record.sourceSeq
  | .postRetracted sourceSeq => do
    let tables ← updatePost tables "DiscussionPostRetracted" streamId sourceSeq fun post =>
      { post with retractedAt := some record.occurredAt }
    return withdrawPublicationSearchDocument tables streamId sourceSeq
  | .postingStateChanged _ | .pinnedChanged _ => .ok tables
  | .topicRenamed title => .ok (updateTopic tables streamId fun topic => { topic with title })
  | .topicMoved areaId => .ok (updateTopic tables streamId fun topic => { topic with areaId })
  | .visibilityChanged visibility =>
    .ok (updateTopic tables streamId fun topic => { topic with visibility })

/-- `refresh_surface`: edits and retractions are overlays of one post. -/
def refreshesSurface : DecodedForumEvent → Bool
  | .areaCreated .. | .postEdited .. | .postRetracted .. => false
  | _ => true

/-- `rehome_publications`. -/
def rehomesPublications : DecodedForumEvent → Bool
  | .topicMoved .. => true
  | _ => false

/-- `if refresh_surface { … }`. -/
def refreshSurface (tables : Tables) (streamId : Uuid) (record : ForumEventRecord) :
    Except ProjectionError Tables :=
  if refreshesSurface record.event then
    recordForumSurface tables streamId record.sourceSeq record.occurredAt
  else .ok tables

/-- `if rehome_publications { … }`. -/
def rehomePublications (tables : Tables) (streamId : Uuid) (record : ForumEventRecord) : Tables :=
  if rehomesPublications record.event then rehomeForumPublications tables streamId else tables

def projectDiscussionEvent (tables : Tables) (streamId : Uuid) (record : ForumEventRecord) :
    Except ProjectionError Tables := do
  let tables ← projectFact tables streamId record
  let tables ← refreshSurface tables streamId record
  return rehomePublications tables streamId record

/-- The stored events of one stream, projected one after another. -/
def projectAll (tables : Tables) (streamId : Uuid) (records : List ForumEventRecord) :
    Except ProjectionError Tables :=
  records.foldlM (fun tables record => projectDiscussionEvent tables streamId record) tables

/-! ## The rebuild -/

/-- What `rebuild_discussion_stream` deletes of a topic; the surface takes its publications and documents
with it (`ON DELETE CASCADE`). -/
def clearTopic (tables : Tables) (topicId : Uuid) : Tables :=
  { tables with
    surfaces := tables.surfaces.delete (· = topicId)
    publications := tables.publications.delete (·.surfaceId = topicId)
    documents := tables.documents.delete (·.surfaceId = topicId)
    posts := tables.posts.deleteWhere (·.topicId = topicId)
    topics := tables.topics.delete (· = topicId) }

/-- `event.kind == forum::TOPIC_CREATED`. -/
def isTopicCreated (record : ForumEventRecord) : Bool :=
  match record.event with
  | .topicCreated .. => true
  | _ => false

/-- `event.kind == forum::AREA_CREATED`. -/
def isAreaCreated (record : ForumEventRecord) : Bool :=
  match record.event with
  | .areaCreated .. => true
  | _ => false

def rebuildDiscussionStream (tables : Tables) (streamId : Uuid) (records : List ForumEventRecord) :
    Except ProjectionError Tables :=
  if records.any isTopicCreated then
    match TopicAggregate.replay streamId records with
    | .ok _ => projectAll (clearTopic tables streamId) streamId records
    | .error error => .error (.forumReplay error)
  else if records.any isAreaCreated then
    match AreaAggregate.replay streamId records with
    | .ok _ => projectAll tables streamId records
    | .error error => .error (.forumReplay error)
  else .ok tables

end Fmarch.Projections.Publications
