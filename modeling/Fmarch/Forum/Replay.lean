import Fmarch.Domain.Values
import Fmarch.Forum.Topic
import Fmarch.Lib.Fallible

/-!
# Loading a topic (`forum::replay`)

A topic is loaded by folding its stored facts, and the fold refuses a history it does not
understand: a gap, a second creation, an edit or a retraction of a post it does not have. The
decisions check none of this in the same words.

**`replay_built`**: a history built by accepted commands alone, its events stored at contiguous
stream versions, is accepted, and loads the aggregate the commands were decided against.
-/

namespace Fmarch.Forum

open Platform Domain

/-! ## Histories -/

structure ForumEventRecord where
  sourceSeq : Int
  streamSeq : Int
  occurredAt : Int
  event : DecodedForumEvent

/-- The reasons of a `ForumReplayError`. -/
inductive ReplayReason where
  | versionsNotContiguous | positionsNotIncreasing | creationNotFirst | creationMissing
  | foreignCreation | editOfMissingPost | editOutOfOrder | retractionOfMissingPost
  | alreadyRetracted | secondCreation | topicFactInArea

structure ForumReplayError where
  streamSeq : Int
  reason : ReplayReason

def invalid {α : Type} (record : ForumEventRecord) (reason : ReplayReason) : Except ForumReplayError α :=
  .error ⟨record.streamSeq, reason⟩

def validatePosition (record : ForumEventRecord) (version lastSeq : Int) : Except ForumReplayError Unit :=
  if checkedAdd version 1 ≠ some record.streamSeq then invalid record .versionsNotContiguous
  else if record.sourceSeq ≤ lastSeq then invalid record .positionsNotIncreasing
  else .ok ()

structure TopicAggregate where
  state : Option TopicState := none
  posts : BTreeMap Int PostState := ∅
  quotations : BTreeMap Int (List Quotation) := ∅

namespace TopicAggregate

/-- `TopicAggregate::post`. -/
def post (aggregate : TopicAggregate) (sourceSeq : Int) : Option PostState :=
  aggregate.posts[sourceSeq]?

/-- `TopicAggregate::version`. -/
def version (aggregate : TopicAggregate) : Int :=
  match aggregate.state with
  | some state => state.version
  | none => 0

/-- The state a `TopicCreated` fact starts with. -/
def createdState (topicId : Uuid) (record : ForumEventRecord) (areaId : Uuid) (title : String) :
    TopicState where
  topicId
  areaId
  title
  pinned := false
  postingState := .opened
  visibility := .visible
  version := record.streamSeq

/-- The post a `PostSubmitted` fact inserts. -/
def submittedPost (topicId : Uuid) (record : ForumEventRecord) (body : String)
    (authorProfileId : Option Uuid) (quotations : List Quotation)
    (mentions : List ProfileMention) : PostState where
  topicId
  sourceSeq := record.sourceSeq
  authorProfileId
  body
  mentions
  hasQuotations := !quotations.isEmpty
  createdAt := record.occurredAt
  revision := 0
  retracted := false

/-- The second `match` of `TopicAggregate::fold`, on a topic that exists; `state` is written back
with the record's version. -/
def foldFact (topicId : Uuid) (record : ForumEventRecord) (aggregate : TopicAggregate)
    (state : TopicState) : Except ForumReplayError TopicAggregate :=
  let next : TopicAggregate :=
    { aggregate with state := some { state with version := record.streamSeq } }
  match record.event with
  | .areaCreated .. | .topicCreated .. => invalid record .foreignCreation
  | .postSubmitted body author quotations mentions =>
    .ok { next with
      posts := aggregate.posts.insert record.sourceSeq
        (submittedPost topicId record body author quotations mentions)
      quotations := aggregate.quotations.insert record.sourceSeq quotations }
  | .postEdited sourceSeq body mentions revision =>
    match aggregate.posts[sourceSeq]? with
    | none => invalid record .editOfMissingPost
    | some post =>
      if post.retracted ∨ checkedAdd post.revision 1 ≠ some revision then
        invalid record .editOutOfOrder
      else
        .ok { next with
          posts := aggregate.posts.insert sourceSeq { post with body, mentions, revision } }
  | .postRetracted sourceSeq =>
    match aggregate.posts[sourceSeq]? with
    | none => invalid record .retractionOfMissingPost
    | some post =>
      if post.retracted then invalid record .alreadyRetracted
      else
        .ok { next with posts := aggregate.posts.insert sourceSeq { post with retracted := true } }
  | .postingStateChanged postingState =>
    .ok { next with state := some { state with postingState, version := record.streamSeq } }
  | .visibilityChanged visibility =>
    .ok { next with state := some { state with visibility, version := record.streamSeq } }
  | .topicRenamed title =>
    .ok { next with state := some { state with title, version := record.streamSeq } }
  | .topicMoved areaId =>
    .ok { next with state := some { state with areaId, version := record.streamSeq } }
  | .pinnedChanged pinned =>
    .ok { next with state := some { state with pinned, version := record.streamSeq } }

/-- `TopicAggregate::fold`. -/
def fold (topicId : Uuid) (aggregate : TopicAggregate) (record : ForumEventRecord) :
    Except ForumReplayError TopicAggregate :=
  match record.event with
  | .topicCreated areaId title _ =>
    if aggregate.state.isSome ∨ record.streamSeq ≠ 1 then invalid record .creationNotFirst
    else .ok { aggregate with state := some (createdState topicId record areaId title) }
  | _ =>
    match aggregate.state with
    | none => invalid record .creationMissing
    | some state => foldFact topicId record aggregate state

/-- The loop of `TopicAggregate::replay`. -/
def replayFrom (topicId : Uuid) (aggregate : TopicAggregate) (version lastSeq : Int) :
    List ForumEventRecord → Except ForumReplayError TopicAggregate
  | [] => .ok aggregate
  | record :: records => do
    validatePosition record version lastSeq
    let next ← aggregate.fold topicId record
    replayFrom topicId next record.streamSeq record.sourceSeq records

/-- `TopicAggregate::replay`. -/
def replay (topicId : Uuid) (records : List ForumEventRecord) : Except ForumReplayError TopicAggregate :=
  replayFrom topicId {} 0 0 records

end TopicAggregate

structure AreaState where
  areaId : Uuid
  slug : String
  title : String
  description : String
  version : Int

structure AreaAggregate where
  state : Option AreaState := none

/-- The loop of `AreaAggregate::replay`. -/
def AreaAggregate.replayFrom (areaId : Uuid) (aggregate : AreaAggregate) :
    List ForumEventRecord → Except ForumReplayError AreaAggregate
  | [] => .ok aggregate
  | record :: records => do
    validatePosition record 0 0
    if aggregate.state.isSome then invalid record .secondCreation
    else
      match record.event with
      | .areaCreated slug title description =>
        replayFrom areaId ⟨some ⟨areaId, slug, title, description, record.streamSeq⟩⟩ records
      | _ => invalid record .topicFactInArea

def AreaAggregate.replay (areaId : Uuid) (records : List ForumEventRecord) :
    Except ForumReplayError AreaAggregate :=
  replayFrom areaId {} records

/-! ## Histories built by commands -/

/-- The value of `f` at the last record. -/
def lastOf (f : ForumEventRecord → Int) (start : Int) : List ForumEventRecord → Int
  | [] => start
  | record :: records => lastOf f (f record) records

/-- The records an append stores for events decided at `version`: at the next stream versions, and
at global positions past `lastSeq` that keep increasing. -/
inductive Stored : Int → Int → List TopicEvent → List ForumEventRecord → Prop where
  | done {version lastSeq : Int} : Stored version lastSeq [] []
  | event {version lastSeq : Int} {event : TopicEvent} {record : ForumEventRecord}
      {events : List TopicEvent} {records : List ForumEventRecord}
      (fact : record.event = event.decoded) (contiguous : record.streamSeq = version + 1)
      (inRange : IsI64 record.streamSeq) (later : lastSeq < record.sourceSeq)
      (rest : Stored record.streamSeq record.sourceSeq events records) :
      Stored version lastSeq (event :: events) (record :: records)

/-- The aggregate after one more fact, taken without question. -/
def TopicAggregate.evolve (topicId : Uuid) (aggregate : TopicAggregate)
    (record : ForumEventRecord) : TopicAggregate :=
  let edited (edit : TopicState → TopicState) : TopicAggregate :=
    { aggregate with
      state := aggregate.state.map fun state =>
        { edit state with version := record.streamSeq } }
  let posted (sourceSeq : Int) (edit : PostState → PostState) : TopicAggregate :=
    match aggregate.posts[sourceSeq]? with
    | some post => { edited id with posts := aggregate.posts.insert sourceSeq (edit post) }
    | none => edited id
  match record.event with
  | .areaCreated .. => aggregate
  | .topicCreated areaId title _ =>
    { aggregate with state := some (createdState topicId record areaId title) }
  | .postSubmitted body author quotations mentions =>
    { edited id with
      posts := aggregate.posts.insert record.sourceSeq
        (submittedPost topicId record body author quotations mentions)
      quotations := aggregate.quotations.insert record.sourceSeq quotations }
  | .postEdited sourceSeq body mentions revision =>
    posted sourceSeq fun post => { post with body, mentions, revision }
  | .postRetracted sourceSeq => posted sourceSeq fun post => { post with retracted := true }
  | .postingStateChanged postingState => edited fun state => { state with postingState }
  | .visibilityChanged visibility => edited fun state => { state with visibility }
  | .topicRenamed title => edited fun state => { state with title }
  | .topicMoved areaId => edited fun state => { state with areaId }
  | .pinnedChanged pinned => edited fun state => { state with pinned }

/-- A topic's aggregate and stored history, after accepted commands alone: each is decided against
the aggregate, and its events are stored at the aggregate's version. -/
inductive Built (topicId : Uuid) : TopicAggregate → List ForumEventRecord → Prop where
  | start : Built topicId {} []
  | topic {aggregate : TopicAggregate} {records stored : List ForumEventRecord}
      {command : TopicCommand} {events : List TopicEvent} (built : Built topicId aggregate records)
      (accepted : decideTopic aggregate.state command = .ok events)
      (append : Stored aggregate.version (lastOf (·.sourceSeq) 0 records) events stored) :
      Built topicId (stored.foldl (.evolve topicId) aggregate) (records ++ stored)
  | post {aggregate : TopicAggregate} {records stored : List ForumEventRecord} {sourceSeq : Int}
      {topic : TopicState} {post : PostState} {context : PostDecisionContext}
      {command : PostCommand} {events : List TopicEvent} (built : Built topicId aggregate records)
      (opened : aggregate.state = some topic) (addressed : aggregate.post sourceSeq = some post)
      (loaded : PostDecisionContext.new topic post = .ok context)
      (accepted : decidePost context command = .ok events)
      (append : Stored aggregate.version (lastOf (·.sourceSeq) 0 records) events stored) :
      Built topicId (stored.foldl (.evolve topicId) aggregate) (records ++ stored)

/-! ## What the fold accepts -/

/-- Every post is kept under its own position. -/
def TopicAggregate.Keyed (aggregate : TopicAggregate) : Prop :=
  ∀ (sourceSeq : Int) (post : PostState), aggregate.posts[sourceSeq]? = some post → post.sourceSeq = sourceSeq

/-- An event the fold accepts on top of the aggregate. -/
def TopicAggregate.Fits (aggregate : TopicAggregate) : TopicEvent → Prop
  | .created .. => aggregate.state = none
  | .postEdited sourceSeq _ _ revision =>
    aggregate.state.isSome ∧ ∃ post, aggregate.posts[sourceSeq]? = some post ∧
      post.retracted = false ∧ checkedAdd post.revision 1 = some revision
  | .postRetracted sourceSeq =>
    aggregate.state.isSome ∧ ∃ post, aggregate.posts[sourceSeq]? = some post ∧ post.retracted = false
  | _ => aggregate.state.isSome

section Accepted

variable {topicId : Uuid} {aggregate : TopicAggregate} {event : TopicEvent}
  {record : ForumEventRecord}

/-- The fold of a fact that fits is its effect. -/
theorem fold_of_fits (h : aggregate.Fits event) (hfact : record.event = event.decoded)
    (hseq : record.streamSeq = aggregate.version + 1) :
    aggregate.fold topicId record = .ok (aggregate.evolve topicId record) := by
  unfold TopicAggregate.fold TopicAggregate.evolve
  cases event with
  | created areaId title author =>
    have hnone : aggregate.state = none := h
    have hfirst : record.streamSeq = 1 := by
      rw [hseq, TopicAggregate.version, hnone]
      rfl
    simp [hfact, TopicEvent.decoded, hnone, hfirst]
  | postEdited sourceSeq body mentions revision =>
    obtain ⟨hsome, post, hpost, hlive, hnext⟩ := h
    obtain ⟨state, hstate⟩ := Option.isSome_iff_exists.1 hsome
    simp [hfact, TopicEvent.decoded, hstate, TopicAggregate.foldFact, hpost, hlive, hnext]
  | postRetracted sourceSeq =>
    obtain ⟨hsome, post, hpost, hlive⟩ := h
    obtain ⟨state, hstate⟩ := Option.isSome_iff_exists.1 hsome
    simp [hfact, TopicEvent.decoded, hstate, TopicAggregate.foldFact, hpost, hlive]
  | _ =>
    obtain ⟨state, hstate⟩ := Option.isSome_iff_exists.1 h
    simp [hfact, TopicEvent.decoded, hstate, TopicAggregate.foldFact]

/-- A fact that fits leaves the topic at the fact's version. -/
theorem evolve_version (h : aggregate.Fits event) (hfact : record.event = event.decoded) :
    (aggregate.evolve topicId record).version = record.streamSeq := by
  unfold TopicAggregate.evolve TopicAggregate.version
  cases event with
  | created => simp [hfact, TopicEvent.decoded, TopicAggregate.createdState]
  | postEdited | postRetracted =>
    obtain ⟨hsome, post, hpost, -⟩ := h
    obtain ⟨state, hstate⟩ := Option.isSome_iff_exists.1 hsome
    simp [hfact, TopicEvent.decoded, hstate, hpost]
  | _ =>
    obtain ⟨state, hstate⟩ := Option.isSome_iff_exists.1 h
    simp [hfact, TopicEvent.decoded, hstate]

theorem keyed_insert {posts : BTreeMap Int PostState}
    (h : ∀ (sourceSeq : Int) (post : PostState), posts[sourceSeq]? = some post →
      post.sourceSeq = sourceSeq) {inserted : PostState} {at' : Int}
    (hinserted : inserted.sourceSeq = at') (sourceSeq : Int) (post : PostState)
    (hpost : (posts.insert at' inserted)[sourceSeq]? = some post) : post.sourceSeq = sourceSeq := by
  rw [Std.TreeMap.getElem?_insert] at hpost
  split at hpost
  · rename_i hsame
    obtain rfl := Option.some.inj hpost
    exact hinserted.trans (Std.LawfulEqCmp.eq_of_compare hsame)
  · exact h sourceSeq post hpost

/-- A fact leaves every post under its own position. -/
theorem TopicAggregate.Keyed.evolve (h : aggregate.Keyed) : (aggregate.evolve topicId record).Keyed := by
  have hedit : ∀ (sourceSeq : Int) (post edited : PostState),
      aggregate.posts[sourceSeq]? = some post → edited.sourceSeq = post.sourceSeq →
      ∀ (other : Int) (found : PostState), (aggregate.posts.insert sourceSeq edited)[other]? = some found →
        found.sourceSeq = other := fun sourceSeq post edited hpost hedited =>
    keyed_insert h (hedited.trans (h sourceSeq post hpost))
  unfold TopicAggregate.evolve TopicAggregate.Keyed
  cases record.event with
  | postSubmitted => exact keyed_insert h rfl
  | postEdited sourceSeq | postRetracted sourceSeq =>
    cases hpost : aggregate.posts[sourceSeq]? with
    | some post =>
      simp only [hpost]
      exact hedit sourceSeq post _ hpost rfl
    | none =>
      simp only [hpost]
      exact h
  | _ => exact h

end Accepted

/-! ## What the decisions emit -/

/-- The events fit one after the other, wherever they are stored. -/
def TopicAggregate.FitAll (topicId : Uuid) : TopicAggregate → List TopicEvent → Prop
  | _, [] => True
  | aggregate, event :: events =>
    aggregate.Fits event ∧ ∀ record : ForumEventRecord, record.event = event.decoded →
        (aggregate.evolve topicId record).FitAll topicId events

variable {aggregate : TopicAggregate} {topicId : Uuid}

theorem fitAll_singleton {event : TopicEvent} (h : aggregate.Fits event) : aggregate.FitAll topicId [event] :=
  ⟨h, fun _ _ => trivial⟩

/-- A decision on the topic fits its aggregate. -/
theorem decideTopic_fits {command : TopicCommand} {events : List TopicEvent}
    (h : decideTopic aggregate.state command = .ok events) :
    aggregate.FitAll topicId events := by
  cases hstate : aggregate.state with
  | none =>
    rw [hstate] at h
    cases command with
    | create =>
      obtain ⟨_, -, hevents⟩ := Fallible.bind_eq_ok.1 h
      obtain rfl := Except.ok.inj hevents
      refine ⟨hstate, fun record hfact => fitAll_singleton ?_⟩
      simp [TopicAggregate.Fits, TopicAggregate.evolve, hfact, TopicEvent.decoded]
    | _ => exact absurd h (by simp [decideTopic])
  | some state =>
    rw [hstate] at h
    have hsome : aggregate.state.isSome := by rw [hstate]; rfl
    cases command with
    | create => exact absurd h (by simp [decideTopic])
    | submitPost content author =>
      simp only [decideTopic] at h
      split_ifs at h
      obtain ⟨_, -, hevents⟩ := Fallible.bind_eq_ok.1 h
      obtain rfl := Except.ok.inj hevents
      exact fitAll_singleton hsome
    | _ =>
      simp only [decideTopic] at h
      split_ifs at h
      obtain rfl := Except.ok.inj h
      exact fitAll_singleton hsome

/-- A decision on a post of the topic fits its aggregate. -/
theorem decidePost_fits {sourceSeq : Int} {topic : TopicState} {post : PostState}
    {context : PostDecisionContext} {command : PostCommand} {events : List TopicEvent}
    (hkeyed : aggregate.Keyed) (hstate : aggregate.state = some topic)
    (hpost : aggregate.post sourceSeq = some post)
    (hcontext : PostDecisionContext.new topic post = .ok context)
    (h : decidePost context command = .ok events) : aggregate.FitAll topicId events := by
  have hsome : aggregate.state.isSome := by rw [hstate]; rfl
  have hown : context.post = post := by
    unfold PostDecisionContext.new at hcontext
    split at hcontext
    · obtain rfl := Except.ok.inj hcontext
      rfl
    · cases hcontext
  have hfound : aggregate.posts[post.sourceSeq]? = some post := by
    rw [hkeyed sourceSeq post hpost]
    exact hpost
  unfold decidePost at h
  rw [hown] at h
  split_ifs at h with hvisible hopen hauthor hretracted
  cases command with
  | retract =>
    obtain rfl := Except.ok.inj h
    exact fitAll_singleton ⟨hsome, post, hfound, by simpa using hretracted⟩
  | edit body mentions author expectedRevision now =>
    dsimp only at h
    unfold decideEdit at h
    split_ifs at h
    split at h
    · cases h
    · split at h
      · cases h
      · obtain ⟨_, -, h⟩ := Fallible.bind_eq_ok.1 h
        obtain ⟨decided, -, h⟩ := Fallible.bind_eq_ok.1 h
        split at h
        · cases h
        · split at h
          · cases h
          · rename_i revision hrevision
            obtain rfl := Except.ok.inj h
            exact fitAll_singleton ⟨hsome, post, hfound, by simpa using hretracted, hrevision⟩

/-! ## Loading what was built -/

/-- The history loads the aggregate, up to its last version. -/
structure Loaded (topicId : Uuid) (aggregate : TopicAggregate) (records : List ForumEventRecord) :
    Prop where
  replayed : TopicAggregate.replay topicId records = .ok aggregate
  version : aggregate.version = lastOf (·.streamSeq) 0 records
  keyed : aggregate.Keyed

section Loading

variable {topicId : Uuid}

theorem lastOf_append (f : ForumEventRecord → Int) (start : Int)
    (records : List ForumEventRecord) (record : ForumEventRecord) :
    lastOf f start (records ++ [record]) = f record := by
  induction records generalizing start with
  | nil => rfl
  | cons head records ih => exact ih (f head)

variable {aggregate : TopicAggregate} {records : List ForumEventRecord}

/-- A replay resumes where it stopped. -/
theorem replayFrom_append {next : TopicAggregate} {version last : Int}
    (h : TopicAggregate.replayFrom topicId aggregate version last records = .ok next)
    (more : List ForumEventRecord) :
    TopicAggregate.replayFrom topicId aggregate version last (records ++ more) =
      TopicAggregate.replayFrom topicId next (lastOf (·.streamSeq) version records)
        (lastOf (·.sourceSeq) last records) more := by
  induction records generalizing aggregate version last with
  | nil =>
    obtain rfl := Except.ok.inj h
    rfl
  | cons record records ih =>
    unfold TopicAggregate.replayFrom at h
    obtain ⟨_, hposition, h⟩ := Fallible.bind_eq_ok.1 h
    obtain ⟨folded, hfolded, h⟩ := Fallible.bind_eq_ok.1 h
    rw [List.cons_append, TopicAggregate.replayFrom, hposition, hfolded]
    exact ih h

/-- One more stored event that fits is loaded too. -/
theorem Loaded.extend {event : TopicEvent} {record : ForumEventRecord}
    (h : Loaded topicId aggregate records) (hfits : aggregate.Fits event)
    (hfact : record.event = event.decoded) (hseq : record.streamSeq = aggregate.version + 1)
    (hrange : IsI64 record.streamSeq) (hlater : lastOf (·.sourceSeq) 0 records < record.sourceSeq) :
    Loaded topicId (aggregate.evolve topicId record) (records ++ [record]) where
  replayed := by
    have hposition : validatePosition record (lastOf (·.streamSeq) 0 records)
        (lastOf (·.sourceSeq) 0 records) = .ok () := by
      unfold validatePosition
      have hnext : checkedAdd (lastOf (·.streamSeq) 0 records) 1 = some record.streamSeq :=
        checkedAdd_eq_some.2 ⟨hrange, by rw [hseq, h.version]⟩
      rw [if_neg (not_not_intro hnext), if_neg (by omega)]
    unfold TopicAggregate.replay
    rw [replayFrom_append h.replayed, TopicAggregate.replayFrom, hposition, fold_of_fits hfits hfact hseq]
    rfl
  version := by
    rw [lastOf_append]
    exact evolve_version hfits hfact
  keyed := h.keyed.evolve

/-- The events of a decision are loaded once they are stored. -/
theorem Loaded.store {stored : List ForumEventRecord} {events : List TopicEvent}
    {version last : Int} (h : Loaded topicId aggregate records)
    (hfits : aggregate.FitAll topicId events) (hversion : version = aggregate.version)
    (hlast : last = lastOf (·.sourceSeq) 0 records) (hstored : Stored version last events stored) :
    Loaded topicId (stored.foldl (.evolve topicId) aggregate) (records ++ stored) := by
  induction hstored generalizing aggregate records with
  | done => simpa using h
  | @event version last event record events stored hfact hseq hrange hlater _ ih =>
    obtain ⟨hfirst, hrest⟩ := hfits
    subst hversion hlast
    have hnext := h.extend hfirst hfact hseq hrange hlater
    rw [List.foldl_cons, ← List.singleton_append, ← List.append_assoc]
    exact ih hnext (hrest record hfact) (evolve_version hfirst hfact).symm
      (lastOf_append _ _ _ _).symm

theorem Built.loaded (h : Built topicId aggregate records) : Loaded topicId aggregate records := by
  induction h with
  | start => exact ⟨rfl, rfl, fun _ _ hpost => by simp at hpost⟩
  | topic _ accepted append ih => exact ih.store (decideTopic_fits accepted) rfl rfl append
  | post _ hstate addressed loaded accepted append ih =>
    exact ih.store (decidePost_fits ih.keyed hstate addressed loaded accepted) rfl rfl append

/-- A topic built by accepted commands is always loaded again, as the aggregate its commands were
decided against. -/
theorem replay_built {aggregate : TopicAggregate} {records : List ForumEventRecord}
    (h : Built topicId aggregate records) :
    TopicAggregate.replay topicId records = .ok aggregate :=
  h.loaded.replayed

end Loading

/-! ## An edited topic -/

/-- The title of the topic. -/
def editedTitle : TopicTitle := ⟨"Night one", by decide, by decide⟩

/-- Its opening post. -/
def editedOpening : PostBody := ⟨"Helo", by decide⟩

/-- The edit of the opening post. -/
def editedBody : PostBody := ⟨"Hello", by decide⟩

/-- The facts of the topic, as stored: the profile `5` creates it in the area `3` and edits it. -/
def editedTopic : List ForumEventRecord :=
  [⟨10, 1, 100, .topicCreated 3 "Night one" (some 5)⟩, ⟨11, 2, 100, .postSubmitted "Helo" (some 5) [] []⟩,
    ⟨15, 3, 160, .postEdited 11 "Hello" [] 1⟩]

/-- The topic `7` with these facts. -/
def editedTopicAggregate : TopicAggregate := editedTopic.foldl (.evolve 7) {}

theorem editedTopic_built : Built 7 editedTopicAggregate editedTopic := by
  have hcreated : Built 7 ((editedTopic.take 2).foldl (.evolve 7) {}) (editedTopic.take 2) := by
    have haccepted : decideTopic none (.create 7 3 editedTitle editedOpening 5) =
        .ok [.created 3 "Night one" 5, .postSubmitted "Helo" 5 [] []] := rfl
    exact .topic .start haccepted
      (.event rfl rfl (by decide) (by decide) (.event rfl rfl (by decide) (by decide) .done))
  have hpost : ((editedTopic.take 2).foldl (.evolve 7) {} : TopicAggregate).post 11 =
      some ⟨7, 11, some 5, "Helo", [], false, 100, 0, false⟩ := by decide +kernel
  have haccepted : decidePost
      ⟨⟨7, 3, "Night one", false, .opened, .visible, 2⟩,
        ⟨7, 11, some 5, "Helo", [], false, 100, 0, false⟩, rfl, by decide⟩
      (.edit editedBody [] 5 0 160) = .ok [.postEdited 11 "Hello" [] 1] := rfl
  exact .post hcreated rfl hpost rfl haccepted
    (.event rfl rfl (by decide) (by decide) .done)

/-- The edited topic loads. -/
theorem editedTopic_replayed : TopicAggregate.replay 7 editedTopic = .ok editedTopicAggregate :=
  replay_built editedTopic_built

end Fmarch.Forum
