import Fmarch.Projections.Publications

/-!
# A topic's posts and their documents

What the tables of a topic have to say, given the topic as its events make it. `PostsAgree` is about the
posts: each has its row, its publication, and, unless it is retracted, its search document, which show its
body and its address, and are visible unless moderation hides it. `TopicAgrees` adds the topic's row and
its surface.

**`TopicAgrees.project`**: the projection of one more event keeps a topic in agreement with its aggregate,
and **`Untouched.project`** that it leaves other topics alone.
-/

namespace Fmarch.Projections.Publications

open Platform Domain Forum

/-! ## Agreement -/

/-- The state of a post, as its row and its aggregate both have it. -/
structure PostFacts where
  body : String
  revision : Int
  retracted : Bool

/-- The facts in a row. -/
def PostRow.facts (post : PostRow) : PostFacts := ⟨post.body, post.revision, post.retractedAt.isSome⟩

/-- The facts in an aggregate. -/
def postFacts (post : PostState) : PostFacts := ⟨post.body, post.revision, post.retracted⟩

/-- The post of the topic at a position. -/
def Tables.postOf (tables : Tables) (topicId : Uuid) (sourceSeq : Int) : Option PostRow :=
  (tables.posts sourceSeq).filter (·.topicId = topicId)

/-- What a publication or a document shows of its post. -/
structure Shown where
  body : String
  href : String
  visible : Bool

/-- What a publication shows. -/
def PublicationRow.shown (row : PublicationRow) : Shown := ⟨row.body, row.href, row.visible⟩

/-- What a document shows. -/
def DocumentRow.shown (row : DocumentRow) : Shown := ⟨row.body, row.href, row.visible⟩

section Agreement

variable (tables : Tables) (hidden : PublicContentRef → Bool) (topicId : Uuid)

/-- What a post of the topic has to show. -/
def postShown (href : String) (sourceSeq : Int) (post : PostState) : Shown :=
  ⟨post.body, postHref href sourceSeq, !hidden ⟨topicId, sourceSeq⟩⟩

/-- The rows of the topic's posts are those of the aggregate's posts, at the address `href`. -/
structure PostsAgree (href : String) (posts : Int → Option PostState) : Prop where
  rows : ∀ seq, (tables.postOf topicId seq).map PostRow.facts = (posts seq).map postFacts
  positive : ∀ seq post, posts seq = some post → 0 < seq
  publications : ∀ seq, (tables.publications ⟨topicId, seq⟩).map PublicationRow.shown =
    (posts seq).map (postShown hidden topicId href seq)
  documents : ∀ seq, (tables.documents ⟨topicId, .discussionPost, seq⟩).map DocumentRow.shown =
    ((posts seq).filter (!·.retracted)).map (postShown hidden topicId href seq)

/-- The address of the topic's surface. -/
def Tables.surfaceHref : String := ((tables.surfaces topicId).map (·.href)).getD ""

/-- The surface of a topic that has a row has its title, its address and its visibility. -/
def SurfaceAgrees : Prop :=
  ∀ topic, tables.topics topicId = some topic → ∃ area surface,
    tables.areas topic.areaId = some area ∧ tables.surfaces topicId = some surface ∧
      surface.title = topic.title ∧ surface.href = topicHref area.slug topicId ∧
      surface.visible = decide (topic.visibility = .visible)

/-- The tables have the topic as its aggregate has it. -/
structure TopicAgrees (aggregate : TopicAggregate) : Prop where
  topic : (tables.topics topicId).map (fun row => (row.areaId, row.title, row.visibility)) =
    aggregate.state.map fun state => (state.areaId, state.title, state.visibility)
  unopened : aggregate.state = none → ∀ seq, aggregate.post seq = none
  surface : SurfaceAgrees tables topicId
  posts : PostsAgree tables hidden topicId (tables.surfaceHref topicId) aggregate.post

end Agreement

variable {tables tables' : Tables} {hidden : PublicContentRef → Bool} {topicId : Uuid} {href : String}
  {posts : Int → Option PostState} {aggregate : TopicAggregate} {record : ForumEventRecord}

/-! ## Posts -/

namespace PostsAgree

section

variable (h : PostsAgree tables hidden topicId href posts)
include h

/-- Agreement is about the posts' rows, publications and documents alone. -/
theorem congr (hposts : ∀ seq, tables'.postOf topicId seq = tables.postOf topicId seq)
    (hpublications : ∀ seq, tables'.publications ⟨topicId, seq⟩ = tables.publications ⟨topicId, seq⟩)
    (hdocuments : ∀ seq, tables'.documents ⟨topicId, .discussionPost, seq⟩ =
      tables.documents ⟨topicId, .discussionPost, seq⟩) :
    PostsAgree tables' hidden topicId href posts where
  rows seq := by rw [hposts, h.rows]
  positive := h.positive
  publications seq := by rw [hpublications, h.publications]
  documents seq := by rw [hdocuments, h.documents]

theorem rehomed_of_none (hnone : ∀ seq, posts seq = none) (href' : String) :
    PostsAgree tables hidden topicId href' posts :=
  { h with
    publications seq := by simpa [hnone seq] using h.publications seq
    documents seq := by simpa [hnone seq] using h.documents seq }

/-- A post that is submitted is published. -/
theorem submit {surface : SurfaceRow}
    (hsurface : tables.surfaces topicId = some surface) (hhref : surface.href = href)
    (hhidden : tables.hidden = hidden) {seq : Int} (hpos : 0 < seq) {row : PostRow}
    (hrow : row.topicId = topicId) {post : PostState} (hfacts : row.facts = postFacts post)
    (hlive : post.retracted = false) (occurredAt : Int) :
    PostsAgree (recordPublication { tables with posts := tables.posts.upsert seq row } topicId seq post.body
        row.authorProfileId occurredAt)
      hidden topicId href (fun k => if k = seq then some post else posts k) where
  rows k := by
    unfold recordPublication Tables.postOf
    by_cases hk : k = seq
    · subst hk
      simp [hrow, hfacts, Option.filter]
    · have hrows := h.rows k
      unfold Tables.postOf at hrows
      simp [hk, hrows]
  positive k post' hpost := by
    by_cases hk : k = seq
    · exact hk ▸ hpos
    · exact h.positive k post' (by simpa [hk] using hpost)
  publications k := by
    unfold recordPublication
    by_cases hk : k = seq
    · subst hk
      simp [hsurface, PublicationRow.shown, postShown, hhref, ← hhidden, Tables.hidden]
    · have hpublication := h.publications k
      simp [hsurface, hk, hpublication]
  documents k := by
    unfold recordPublication
    by_cases hk : k = seq
    · subst hk
      simp [hsurface, DocumentRow.shown, postShown, hhref, ← hhidden, Tables.hidden, hlive]
    · have hdocument := h.documents k
      simp [hsurface, hk, hdocument]

/-- A post that is edited shows the new body. -/
theorem edit {seq : Int} {row : PostRow}
    (hrow : tables.postOf topicId seq = some row) {change : PostRow → PostRow}
    {changed : PostState → PostState} {body : String}
    (htopic : (change row).topicId = topicId)
    (hfacts : ∀ post, row.facts = postFacts post → (change row).facts = postFacts (changed post))
    (hbody : ∀ post, (changed post).body = body)
    (hkept : ∀ post, (changed post).retracted = post.retracted) (updatedSeq : Int) :
    PostsAgree
      (recordPublicationRevision { tables with posts := tables.posts.upsert seq (change row) } topicId seq
        body updatedSeq)
      hidden topicId href (fun k => if k = seq then (posts k).map changed else posts k) where
  rows k := by
    have hrows := h.rows k
    unfold recordPublicationRevision Tables.postOf
    by_cases hk : k = seq
    · subst hk
      rw [hrow] at hrows
      obtain ⟨post, hpost, hsame⟩ := Option.map_eq_some_iff.1 hrows.symm
      simp [htopic, Option.filter, hpost, hfacts post hsame.symm]
    · unfold Tables.postOf at hrows
      simp [hk, hrows]
  positive k post hpost := by
    by_cases hk : k = seq
    · subst hk
      rw [if_pos rfl] at hpost
      obtain ⟨before, hbefore, -⟩ := Option.map_eq_some_iff.1 hpost
      exact h.positive k before hbefore
    · exact h.positive k post (by simpa [hk] using hpost)
  publications k := by
    have hpublication := h.publications k
    unfold recordPublicationRevision
    by_cases hk : k = seq
    · subst hk
      cases hpost : posts k with
      | none =>
        rw [hpost] at hpublication
        simp_all [Rows.update]
      | some post =>
        rw [hpost] at hpublication
        obtain ⟨publication, hpub, hshown⟩ := Option.map_eq_some_iff.1 hpublication
        have hparts := Shown.mk.inj hshown
        simp [Rows.update, hpub, PublicationRow.shown, postShown, hbody, hparts.2.1, hparts.2.2]
    · rw [if_neg hk, ← hpublication]
      simp [Rows.update, hk]
  documents k := by
    have hdocument := h.documents k
    unfold recordPublicationRevision
    by_cases hk : k = seq
    · subst hk
      cases hpost : posts k with
      | none =>
        rw [hpost] at hdocument
        simp_all [Rows.update]
      | some post =>
        have hpos : 0 < k := h.positive k post hpost
        rw [hpost] at hdocument
        cases hretracted : post.retracted with
        | true =>
          rw [Option.filter_some, hretracted] at hdocument
          have hnone := Option.map_eq_none_iff.1 hdocument
          simp [Rows.update, hpos, hnone, hkept, hretracted]
        | false =>
          rw [Option.filter_some, hretracted] at hdocument
          obtain ⟨document, hdoc, hshown⟩ := Option.map_eq_some_iff.1 hdocument
          have hparts := Shown.mk.inj hshown
          simp [Rows.update, hpos, hdoc, hkept, hretracted, DocumentRow.shown, postShown, hbody,
            hparts.2.1, hparts.2.2]
    · rw [if_neg hk, ← hdocument]
      simp [Rows.update, hk]

/-- A post that is retracted loses its document, and keeps its publication. -/
theorem retract {seq : Int} {row : PostRow}
    (hrow : tables.postOf topicId seq = some row) (retractedAt : Int) :
    PostsAgree (withdrawPublicationSearchDocument
        { tables with posts := tables.posts.upsert seq { row with retractedAt := some retractedAt } }
        topicId seq)
      hidden topicId href
      (fun k => if k = seq then (posts k).map ({ · with retracted := true }) else posts k) where
  rows k := by
    have hrows := h.rows k
    unfold withdrawPublicationSearchDocument Tables.postOf
    by_cases hk : k = seq
    · subst hk
      rw [hrow] at hrows
      obtain ⟨post, hpost, hsame⟩ := Option.map_eq_some_iff.1 hrows.symm
      have hparts := PostFacts.mk.inj hsame
      have hown : row.topicId = topicId := by
        have hfilter := Option.filter_eq_some_iff.1 hrow
        simpa using hfilter.2
      simp [hown, hpost, PostRow.facts, postFacts, hparts.1, hparts.2.1]
    · unfold Tables.postOf at hrows
      simp [hk, hrows]
  positive k post hpost := by
    by_cases hk : k = seq
    · subst hk
      rw [if_pos rfl] at hpost
      obtain ⟨before, hbefore, -⟩ := Option.map_eq_some_iff.1 hpost
      exact h.positive k before hbefore
    · exact h.positive k post (by simpa [hk] using hpost)
  publications k := by
    have hpublication := h.publications k
    unfold withdrawPublicationSearchDocument
    by_cases hk : k = seq
    · subst hk
      rw [if_pos rfl, Option.map_map]
      exact hpublication
    · rw [if_neg hk]
      exact hpublication
  documents k := by
    have hdocument := h.documents k
    unfold withdrawPublicationSearchDocument
    by_cases hk : k = seq
    · subst hk
      cases hpost : posts k with
      | none =>
        rw [hpost] at hdocument
        simp_all [Rows.delete]
      | some post =>
        have hpos : 0 < k := h.positive k post hpost
        simp [Rows.delete, hpos]
    · rw [if_neg hk, ← hdocument]
      simp [Rows.delete, hk]

/-- A topic that moves takes its posts to the address of its surface. -/
theorem rehome {surface : SurfaceRow} (hsurface : tables.surfaces topicId = some surface) :
    PostsAgree (rehomeForumPublications tables topicId) hidden topicId surface.href posts where
  rows := h.rows
  positive := h.positive
  publications k := by
    have hpublication := h.publications k
    unfold rehomeForumPublications
    cases hpost : posts k with
    | none =>
      rw [hpost] at hpublication
      simp_all [Rows.update]
    | some post =>
      rw [hpost] at hpublication
      obtain ⟨publication, hpub, hshown⟩ := Option.map_eq_some_iff.1 hpublication
      have hparts := Shown.mk.inj hshown
      simp [Rows.update, hpub, hsurface, PublicationRow.shown, postShown, hparts.1, hparts.2.2]
  documents k := by
    have hpublication := h.publications k
    have hdocument := h.documents k
    unfold rehomeForumPublications
    cases hpost : posts k with
    | none =>
      rw [hpost] at hdocument
      simp_all [Rows.update]
    | some post =>
      have hpos : 0 < k := h.positive k post hpost
      rw [hpost] at hpublication hdocument
      obtain ⟨publication, hpub, -⟩ := Option.map_eq_some_iff.1 hpublication
      cases hretracted : post.retracted with
      | true =>
        rw [Option.filter_some, hretracted] at hdocument
        have hnone := Option.map_eq_none_iff.1 hdocument
        simp [Rows.update, hpos, hnone, hretracted]
      | false =>
        rw [Option.filter_some, hretracted] at hdocument
        obtain ⟨document, hdoc, hshown⟩ := Option.map_eq_some_iff.1 hdocument
        have hparts := Shown.mk.inj hshown
        simp [Rows.update, hpos, hdoc, hretracted, hpub, hsurface, DocumentRow.shown, postShown,
          hparts.1, hparts.2.2]

end

end PostsAgree

/-! ## The surface -/

variable {occurredAt updatedSeq : Int}

/-- What `recordForumSurface` finds and what it writes. -/
theorem recordForumSurface_eq_ok (h : recordForumSurface tables topicId updatedSeq occurredAt = .ok tables') :
    ∃ topic area, tables.topics topicId = some topic ∧ tables.areas topic.areaId = some area ∧
      tables' = recordSurfaceSearchDocument
        (recordSurface tables topicId "discussions" topic.title (topicHref area.slug topicId)
          (topic.visibility = .visible) updatedSeq) topicId .discussion
        ⟨topic.title, "", topicHref area.slug topicId, topic.authorProfileId, occurredAt, updatedSeq,
          topic.visibility = .visible⟩ := by
  unfold recordForumSurface at h
  cases htopic : tables.topics topicId with
  | none => simp [htopic] at h
  | some topic =>
    cases harea : tables.areas topic.areaId with
    | none => simp [htopic, harea] at h
    | some area =>
      simp only [htopic, harea, Option.bind_some, Option.map_some] at h
      exact ⟨topic, area, rfl, harea, (Except.ok.inj h).symm⟩

theorem PostsAgree.recordForumSurface (h : PostsAgree tables hidden topicId href posts)
    (hok : recordForumSurface tables topicId updatedSeq occurredAt = .ok tables') :
    PostsAgree tables' hidden topicId href posts := by
  obtain ⟨topic, area, -, -, rfl⟩ := recordForumSurface_eq_ok hok
  refine h.congr (fun _ => rfl) (fun _ => rfl) fun seq => ?_
  unfold recordSurfaceSearchDocument recordSurface
  simp

theorem SurfaceAgrees.surfaceHref (h : SurfaceAgrees tables topicId) {topic : TopicRow} {area : AreaRow}
    (htopic : tables.topics topicId = some topic) (harea : tables.areas topic.areaId = some area) :
    tables.surfaceHref topicId = topicHref area.slug topicId := by
  obtain ⟨area', surface, harea', hsurface, -, hhref, -⟩ := h topic htopic
  obtain rfl := Option.some.inj (harea'.symm.trans harea)
  simp [Tables.surfaceHref, hsurface, hhref]

theorem surfaceAgrees_recordForumSurface
    (hok : recordForumSurface tables topicId updatedSeq occurredAt = .ok tables') :
    SurfaceAgrees tables' topicId := by
  obtain ⟨topic, area, htopic, harea, rfl⟩ := recordForumSurface_eq_ok hok
  intro topic' htopic'
  obtain rfl := Option.some.inj (htopic.symm.trans htopic')
  exact ⟨area, _, harea, Rows.upsert_self, rfl, rfl, rfl⟩

/-- A topic whose posts are at the address of its area agrees once its surface is refreshed. -/
theorem TopicAgrees.refresh
    (htopic : (tables.topics topicId).map (fun row => (row.areaId, row.title, row.visibility)) = aggregate.state.map fun state => (state.areaId, state.title, state.visibility))
    (hunopened : aggregate.state = none → ∀ seq, aggregate.post seq = none)
    (hposts : ∀ topic area, tables.topics topicId = some topic → tables.areas topic.areaId = some area → PostsAgree tables hidden topicId (topicHref area.slug topicId) aggregate.post)
    (hok : recordForumSurface tables topicId updatedSeq occurredAt = .ok tables') :
    TopicAgrees tables' hidden topicId aggregate := by
  have hsurface := surfaceAgrees_recordForumSurface hok
  obtain ⟨topic, area, hrow, harea, rfl⟩ := recordForumSurface_eq_ok hok
  have hagree := (hposts topic area hrow harea).recordForumSurface hok
  refine ⟨htopic, hunopened, hsurface, ?_⟩
  rw [hsurface.surfaceHref (show _ = some topic from hrow) harea]
  exact hagree

/-! ## What a fact does to an aggregate -/

section Evolve

open TopicAggregate

theorem ite_map_none {stored : BTreeMap Int PostState} {seq k : Int} {edit : PostState → PostState}
    (hnone : stored[seq]? = none) :
    (if k = seq then (stored[k]?).map edit else stored[k]?) = stored[k]? := by
  split
  case isTrue hk => rw [hk, hnone, Option.map_none]
  case isFalse => rfl

theorem getElem?_overlay {stored : BTreeMap Int PostState} {seq : Int} {post : PostState}
    (hpost : stored[seq]? = some post) (edit : PostState → PostState) (k : Int) :
    (stored.insert seq (edit post))[k]? = if k = seq then (stored[k]?).map edit else stored[k]? := by
  simp only [Std.TreeMap.getElem?_insert, compare_eq_iff_eq]
  by_cases hk : k = seq
  · rw [if_pos hk.symm, if_pos hk, hk, hpost, Option.map_some]
  · rw [if_neg (Ne.symm hk), if_neg hk]

theorem post_evolve_submitted {body : String} {author : Option Uuid} {quotations : List Quotation}
    {mentions : List ProfileMention}
    (h : record.event = .postSubmitted body author quotations mentions) :
    (aggregate.evolve topicId record).post = fun k => if k = record.sourceSeq then
        some (submittedPost topicId record body author quotations mentions)
      else aggregate.post k := by
  funext k
  unfold evolve TopicAggregate.post
  rw [h]
  simp only [Std.TreeMap.getElem?_insert, compare_eq_iff_eq]
  by_cases hk : k = record.sourceSeq
  · rw [if_pos hk.symm, if_pos hk]
  · rw [if_neg (Ne.symm hk), if_neg hk]

variable {sourceSeq : Int}

theorem post_evolve_edited {revision : Int} {body : String} {mentions : List ProfileMention}
    (h : record.event = .postEdited sourceSeq body mentions revision) :
    (aggregate.evolve topicId record).post = fun k =>
      if k = sourceSeq then (aggregate.post k).map ({ · with body, mentions, revision })
      else aggregate.post k := by
  funext k
  unfold evolve TopicAggregate.post
  rw [h]
  cases hpost : aggregate.posts[sourceSeq]? with
  | none =>
    simp only [hpost]
    exact (ite_map_none hpost).symm
  | some post =>
    simp only [hpost]
    exact getElem?_overlay hpost ({ · with body, mentions, revision }) k

theorem post_evolve_retracted (h : record.event = .postRetracted sourceSeq) :
    (aggregate.evolve topicId record).post = fun k =>
      if k = sourceSeq then (aggregate.post k).map ({ · with retracted := true })
      else aggregate.post k := by
  funext k
  unfold evolve TopicAggregate.post
  rw [h]
  cases hpost : aggregate.posts[sourceSeq]? with
  | none =>
    simp only [hpost]
    exact (ite_map_none hpost).symm
  | some post =>
    simp only [hpost]
    exact getElem?_overlay hpost ({ · with retracted := true }) k

/-- The facts about the topic itself. -/
def curates : DecodedForumEvent → Bool
  | .postSubmitted .. | .postEdited .. | .postRetracted .. => false
  | _ => true

theorem post_evolve_curated (h : curates record.event = true) :
    (aggregate.evolve topicId record).post = aggregate.post := by
  funext k
  unfold evolve TopicAggregate.post
  cases hevent : record.event <;> simp_all [curates]

theorem state_evolve_overlay
    (h : (∃ body mentions revision, record.event = .postEdited sourceSeq body mentions revision) ∨ record.event = .postRetracted sourceSeq) :
    (aggregate.evolve topicId record).state =
      aggregate.state.map ({ · with version := record.streamSeq }) := by
  unfold evolve
  obtain ⟨body, mentions, revision, h⟩ | h := h <;>
  · rw [h]
    cases hpost : aggregate.posts[sourceSeq]? <;> simp only [hpost] <;> rfl

end Evolve

/-! ## The projection of an event -/

/-- The row a post's update is about. -/
theorem updatePost_eq_ok {kind : String} {sourceSeq : Int} {change : PostRow → PostRow}
    (h : updatePost tables kind topicId sourceSeq change = .ok tables') :
    ∃ row, tables.postOf topicId sourceSeq = some row ∧
      tables' = { tables with posts := tables.posts.upsert sourceSeq (change row) } := by
  unfold updatePost at h
  cases hrow : (tables.posts sourceSeq).filter (·.topicId = topicId) with
  | none => simp [hrow] at h
  | some row =>
    simp only [hrow] at h
    exact ⟨row, hrow, (Except.ok.inj h).symm⟩

/-- A change of a topic's own row, by the row's columns and by the aggregate's state alike. -/
theorem TopicAgrees.curate (h : TopicAgrees tables hidden topicId aggregate)
    {change : TopicRow → TopicRow} {edit : TopicState → TopicState} {next : TopicAggregate}
    (hsame : ∀ row state, (row.areaId, row.title, row.visibility) =
        (state.areaId, state.title, state.visibility) →
      ((change row).areaId, (change row).title, (change row).visibility) =
        ((edit state).areaId, (edit state).title, (edit state).visibility))
    (hstate : next.state = aggregate.state.map edit) (hpost : next.post = aggregate.post) :
    ((updateTopic tables topicId change).topics topicId).map
        (fun row => (row.areaId, row.title, row.visibility)) =
      next.state.map (fun state => (state.areaId, state.title, state.visibility)) ∧
    (next.state = none → ∀ seq, next.post seq = none) := by
  have htopic := h.topic
  rw [hstate, hpost]
  constructor
  · unfold updateTopic
    cases hrow : tables.topics topicId with
    | none =>
      rw [hrow] at htopic
      have hnone := Option.map_eq_none_iff.1 htopic.symm
      simp [Rows.update, hrow, hnone]
    | some row =>
      rw [hrow] at htopic
      obtain ⟨state, hsome, hparts⟩ := Option.map_eq_some_iff.1 htopic.symm
      have hafter := hsame row state hparts.symm
      simp only [Rows.update, hrow, hsome, decide_true, if_true, Option.map_some, hafter]
  · intro hnone
    exact h.unopened (Option.map_eq_none_iff.1 hnone)

/-- A change that keeps the topic in its area. -/
theorem TopicAgrees.curate_refresh (h : TopicAgrees tables hidden topicId aggregate)
    {change : TopicRow → TopicRow} {edit : TopicState → TopicState} {next : TopicAggregate}
    (hok : recordForumSurface (updateTopic tables topicId change) topicId updatedSeq occurredAt = .ok tables')
    (hstate : next.state = aggregate.state.map edit) (hpost : next.post = aggregate.post)
    (hsame : ∀ row state, (row.areaId, row.title, row.visibility) = (state.areaId, state.title, state.visibility) → ((change row).areaId, (change row).title, (change row).visibility) = ((edit state).areaId, (edit state).title, (edit state).visibility))
    (harea : ∀ row, (change row).areaId = row.areaId) :
    TopicAgrees tables' hidden topicId next := by
  obtain ⟨htopic, hunopened⟩ := h.curate hsame hstate hpost
  refine TopicAgrees.refresh htopic hunopened (fun topic area hrow hslug => ?_) hok
  unfold updateTopic at hrow
  obtain ⟨before, hbefore, rfl⟩ := Option.map_eq_some_iff.1
    (by simpa [Rows.update] using hrow : (tables.topics topicId).map change = some topic)
  have hplace : tables.areas before.areaId = some area := by
    rw [← harea before]
    exact hslug
  rw [hpost, ← h.surface.surfaceHref hbefore hplace]
  exact h.posts.congr (fun _ => rfl) (fun _ => rfl) (fun _ => rfl)

theorem updateTopic_id (tables : Tables) (topicId : Uuid) : updateTopic tables topicId id = tables := by
  unfold updateTopic Rows.update
  congr 1
  funext k
  simp

/-- An overlay of a post leaves the topic and its surface. -/
theorem TopicAgrees.overlay (h : TopicAgrees tables hidden topicId aggregate) {sourceSeq : Int}
    (hevent : (∃ body mentions revision, record.event = .postEdited sourceSeq body mentions revision) ∨
      record.event = .postRetracted sourceSeq)
    (hpost : (aggregate.evolve topicId record).post = posts)
    (hempty : (∀ seq, aggregate.post seq = none) → ∀ seq, posts seq = none) (htopics : tables'.topics = tables.topics)
    (hareas : tables'.areas = tables.areas) (hsurfaces : tables'.surfaces = tables.surfaces)
    (hagree : PostsAgree tables' hidden topicId (tables.surfaceHref topicId) posts) :
    TopicAgrees tables' hidden topicId (aggregate.evolve topicId record) := by
  have hstate : (aggregate.evolve topicId record).state =
      aggregate.state.map ({ · with version := record.streamSeq }) := state_evolve_overlay hevent
  refine ⟨?_, ?_, ?_, ?_⟩
  · rw [htopics, hstate, Option.map_map]
    exact h.topic
  · intro hnone
    rw [hstate, Option.map_eq_none_iff] at hnone
    rw [hpost]
    exact hempty (h.unopened hnone)
  · unfold SurfaceAgrees
    rw [htopics, hareas, hsurfaces]
    exact h.surface
  · unfold Tables.surfaceHref
    rw [hsurfaces, hpost]
    exact hagree

/-- A topic whose posts are at the old address agrees once its surface is refreshed and its posts are
taken there. -/
theorem TopicAgrees.move
    (htopic : (tables.topics topicId).map (fun row => (row.areaId, row.title, row.visibility)) = aggregate.state.map fun state => (state.areaId, state.title, state.visibility))
    (hunopened : aggregate.state = none → ∀ seq, aggregate.post seq = none)
    (hposts : PostsAgree tables hidden topicId href aggregate.post)
    (hok : recordForumSurface tables topicId updatedSeq occurredAt = .ok tables') :
    TopicAgrees (rehomeForumPublications tables' topicId) hidden topicId aggregate := by
  have hagree := hposts.recordForumSurface hok
  have hsurface := surfaceAgrees_recordForumSurface hok
  obtain ⟨topic, area, hrow, -, rfl⟩ := recordForumSurface_eq_ok hok
  obtain ⟨area', surface, -, hfound, -⟩ := hsurface topic hrow
  refine ⟨htopic, hunopened, hsurface, ?_⟩
  have hhref : ∀ tables : Tables, tables.surfaces topicId = some surface →
      (rehomeForumPublications tables topicId).surfaceHref topicId = surface.href := by
    intro tables hsome
    simp [Tables.surfaceHref, rehomeForumPublications, hsome]
  rw [hhref _ hfound]
  exact hagree.rehome hfound

/-- **The projection of one more event keeps a topic in agreement with its aggregate.** -/
theorem TopicAgrees.project (h : TopicAgrees tables hidden topicId aggregate)
    (hhidden : tables.hidden = hidden) (hpos : 0 < record.sourceSeq)
    (hfact : isAreaCreated record = false)
    (hok : projectDiscussionEvent tables topicId record = .ok tables') :
    TopicAgrees tables' hidden topicId (aggregate.evolve topicId record) := by
  have hcurated : curates record.event = true →
      (aggregate.evolve topicId record).post = aggregate.post := post_evolve_curated
  unfold projectDiscussionEvent at hok
  obtain ⟨written, hwritten, hok⟩ := Fallible.bind_eq_ok.1 hok
  obtain ⟨refreshed, hrefreshed, hok⟩ := Fallible.bind_eq_ok.1 hok
  obtain rfl := Except.ok.inj hok
  unfold projectFact at hwritten
  unfold refreshSurface at hrefreshed
  unfold rehomePublications
  cases hevent : record.event <;>
    simp only [hevent, refreshesSurface, rehomesPublications, if_true, Bool.false_eq_true, if_false]
      at hwritten hrefreshed ⊢
  case areaCreated => simp [isAreaCreated, hevent] at hfact
  case topicCreated areaId title author =>
    cases hinsert : tables.topics.insert topicId ⟨areaId, title, author, .visible⟩ with
    | none => simp [hinsert] at hwritten
    | some topics =>
      simp only [hinsert] at hwritten
      obtain rfl := Except.ok.inj hwritten
      obtain ⟨hfree, rfl⟩ := Rows.insert_eq_some.1 hinsert
      have hnone : aggregate.state = none :=
        Option.map_eq_none_iff.1 (by rw [← h.topic, hfree, Option.map_none])
      have hpost := hcurated (by simp [hevent, curates])
      refine TopicAgrees.refresh ?_ ?_ (fun _ area _ _ => ?_) hrefreshed
      · simp [TopicAggregate.evolve, hevent, TopicAggregate.createdState]
      · intro _ seq
        rw [hpost]
        exact h.unopened hnone seq
      · rw [hpost]
        exact (h.posts.rehomed_of_none (h.unopened hnone) _).congr (fun _ => rfl) (fun _ => rfl)
          fun _ => rfl
  case postSubmitted body author quotations mentions =>
    cases hinsert : tables.posts.insert record.sourceSeq
        ⟨topicId, author, body, mentions, 0, none, none⟩ with
    | none => simp [hinsert] at hwritten
    | some posts =>
      simp only [hinsert] at hwritten
      obtain rfl := Except.ok.inj hwritten
      obtain ⟨hfree, rfl⟩ := Rows.insert_eq_some.1 hinsert
      have hstate : (aggregate.evolve topicId record).state =
          aggregate.state.map ({ · with version := record.streamSeq }) := by
        simp [TopicAggregate.evolve, hevent]
      obtain ⟨topic, -, htopic, -, -⟩ := recordForumSurface_eq_ok hrefreshed
      have hopened : tables.topics topicId = some topic := htopic
      obtain ⟨area, surface, harea, hsurface, -, hhref, -⟩ := h.surface topic hopened
      have hfacts : (⟨topicId, author, body, mentions, 0, none, none⟩ : PostRow).facts =
          postFacts (TopicAggregate.submittedPost topicId record body author quotations mentions) := rfl
      have hagree := h.posts.submit hsurface (by simp [Tables.surfaceHref, hsurface]) hhidden hpos rfl
        hfacts rfl record.occurredAt
      rw [← post_evolve_submitted hevent] at hagree
      refine TopicAgrees.refresh ?_ ?_ (fun topic' area' htopic' harea' => ?_) hrefreshed
      · rw [hstate, Option.map_map]
        exact h.topic
      · intro hnone
        rw [hstate, Option.map_eq_none_iff] at hnone
        have hclosed := h.topic
        rw [hopened, hnone] at hclosed
        cases hclosed
      · rw [← h.surface.surfaceHref (show tables.topics topicId = some topic' from htopic') harea']
        exact hagree
  case postEdited sourceSeq body mentions revision =>
    obtain rfl := Except.ok.inj hrefreshed
    obtain ⟨updated, hupdated, hwritten⟩ := Fallible.bind_eq_ok.1 hwritten
    obtain rfl := Except.ok.inj hwritten
    obtain ⟨row, hrow, rfl⟩ := updatePost_eq_ok hupdated
    have hown : row.topicId = topicId := by simpa using (Option.filter_eq_some_iff.1 hrow).2
    have hfacts : ∀ post, row.facts = postFacts post →
        ({ row with body, mentions, revision, editedAt := some record.occurredAt } : PostRow).facts =
          postFacts { post with body, mentions, revision } := fun post hsame => by
      simp [PostRow.facts, postFacts, (PostFacts.mk.inj hsame).2.2]
    have hagree := @PostsAgree.edit _ _ _ _ _ h.posts _ _ hrow
      (fun post => { post with body, mentions, revision, editedAt := some record.occurredAt })
      ({ · with body, mentions, revision }) body hown hfacts (fun _ => rfl) (fun _ => rfl)
      record.sourceSeq
    exact h.overlay (.inl ⟨body, mentions, revision, hevent⟩) (post_evolve_edited hevent)
      (fun hnone k => by simp [hnone k]) rfl rfl rfl hagree
  case postRetracted sourceSeq =>
    obtain rfl := Except.ok.inj hrefreshed
    obtain ⟨updated, hupdated, hwritten⟩ := Fallible.bind_eq_ok.1 hwritten
    obtain rfl := Except.ok.inj hwritten
    obtain ⟨row, hrow, rfl⟩ := updatePost_eq_ok hupdated
    exact h.overlay (.inr hevent) (post_evolve_retracted hevent) (fun hnone k => by simp [hnone k]) rfl
      rfl rfl (h.posts.retract hrow record.occurredAt)
  case postingStateChanged postingState =>
    obtain rfl := Except.ok.inj hwritten
    rw [← updateTopic_id tables topicId] at hrefreshed
    have hstate : (aggregate.evolve topicId record).state =
        aggregate.state.map ({ · with postingState, version := record.streamSeq }) := by
      simp [TopicAggregate.evolve, hevent]
    exact h.curate_refresh hrefreshed hstate (post_evolve_curated (by simp [hevent, curates]))
      (by simp_all) (fun _ => rfl)
  case pinnedChanged pinned =>
    obtain rfl := Except.ok.inj hwritten
    rw [← updateTopic_id tables topicId] at hrefreshed
    have hstate : (aggregate.evolve topicId record).state =
        aggregate.state.map ({ · with pinned, version := record.streamSeq }) := by
      simp [TopicAggregate.evolve, hevent]
    exact h.curate_refresh hrefreshed hstate (post_evolve_curated (by simp [hevent, curates]))
      (by simp_all) (fun _ => rfl)
  case topicRenamed title =>
    obtain rfl := Except.ok.inj hwritten
    have hstate : (aggregate.evolve topicId record).state =
        aggregate.state.map ({ · with title, version := record.streamSeq }) := by
      simp [TopicAggregate.evolve, hevent]
    exact h.curate_refresh hrefreshed hstate (post_evolve_curated (by simp [hevent, curates]))
      (by simp_all) (fun _ => rfl)
  case visibilityChanged visibility =>
    obtain rfl := Except.ok.inj hwritten
    have hstate : (aggregate.evolve topicId record).state =
        aggregate.state.map ({ · with visibility, version := record.streamSeq }) := by
      simp [TopicAggregate.evolve, hevent]
    exact h.curate_refresh hrefreshed hstate (post_evolve_curated (by simp [hevent, curates]))
      (by simp_all) (fun _ => rfl)
  case topicMoved areaId =>
    obtain rfl := Except.ok.inj hwritten
    have hstate : (aggregate.evolve topicId record).state =
        aggregate.state.map ({ · with areaId, version := record.streamSeq }) := by
      simp [TopicAggregate.evolve, hevent]
    have hpost := hcurated (by simp [hevent, curates])
    obtain ⟨htopic, hunopened⟩ := @TopicAgrees.curate _ _ _ _ h
      (fun topic => { topic with areaId }) _ _ (by simp_all) hstate hpost
    have hposts : PostsAgree (updateTopic tables topicId fun topic => { topic with areaId }) hidden topicId
        (tables.surfaceHref topicId) (aggregate.evolve topicId record).post := by
      rw [hpost]
      exact h.posts.congr (fun _ => rfl) (fun _ => rfl) (fun _ => rfl)
    exact TopicAgrees.move htopic hunopened hposts hrefreshed

/-! ## Other topics -/

/-- The rows of a topic are the same in both tables. -/
structure Untouched (tables tables' : Tables) (topicId : Uuid) : Prop where
  topics : tables'.topics topicId = tables.topics topicId
  posts : ∀ seq, tables'.postOf topicId seq = tables.postOf topicId seq
  surfaces : tables'.surfaces topicId = tables.surfaces topicId
  publications : ∀ seq, tables'.publications ⟨topicId, seq⟩ = tables.publications ⟨topicId, seq⟩
  documents : ∀ seq, tables'.documents ⟨topicId, .discussionPost, seq⟩ =
    tables.documents ⟨topicId, .discussionPost, seq⟩

namespace Untouched

variable {tables'' : Tables} {other : Uuid}

theorem refl (tables : Tables) (other : Uuid) : Untouched tables tables other :=
  ⟨rfl, fun _ => rfl, rfl, fun _ => rfl, fun _ => rfl⟩

theorem trans (h : Untouched tables tables' other) (h' : Untouched tables' tables'' other) :
    Untouched tables tables'' other where
  topics := h'.topics.trans h.topics
  posts seq := (h'.posts seq).trans (h.posts seq)
  surfaces := h'.surfaces.trans h.surfaces
  publications seq := (h'.publications seq).trans (h.publications seq)
  documents seq := (h'.documents seq).trans (h.documents seq)

section

variable (hne : other ≠ topicId)
include hne

theorem recordForumSurface {updatedSeq occurredAt : Int}
    (h : recordForumSurface tables topicId updatedSeq occurredAt = .ok tables') :
    Untouched tables tables' other := by
  obtain ⟨topic, area, -, -, rfl⟩ := recordForumSurface_eq_ok h
  unfold recordSurfaceSearchDocument recordSurface
  exact ⟨rfl, fun _ => rfl, Rows.upsert_of_ne hne, fun _ => rfl, fun _ => by simp⟩

theorem recordPublication (seq : Int) (body : String) (author : Option Uuid) (occurredAt : Int) :
    Untouched tables (recordPublication tables topicId seq body author occurredAt) other where
  topics := rfl
  posts _ := rfl
  surfaces := rfl
  publications k := by
    unfold Publications.recordPublication
    cases tables.surfaces topicId <;> simp [hne]
  documents k := by
    unfold Publications.recordPublication
    dsimp only
    split
    · rfl
    · exact Rows.upsert_of_ne (by simp [hne])

theorem rehome : Untouched tables (rehomeForumPublications tables topicId) other :=
  ⟨rfl, fun _ => rfl, rfl, fun _ => by simp [rehomeForumPublications, Rows.update, hne],
    fun _ => by simp [rehomeForumPublications, Rows.update, hne]⟩

theorem revise (seq : Int) (body : String) (updatedSeq : Int) :
    Untouched tables (recordPublicationRevision tables topicId seq body updatedSeq) other :=
  ⟨rfl, fun _ => rfl, rfl, fun _ => by simp [recordPublicationRevision, Rows.update, hne],
    fun _ => by simp [recordPublicationRevision, Rows.update, hne]⟩

theorem withdraw (seq : Int) :
    Untouched tables (withdrawPublicationSearchDocument tables topicId seq) other :=
  ⟨rfl, fun _ => rfl, rfl, fun _ => rfl,
    fun _ => by simp [withdrawPublicationSearchDocument, Rows.delete, hne]⟩

/-- A write of one of the topic's own posts. -/
theorem writePost {seq : Int} {row : PostRow} (hrow : row.topicId = topicId)
    (hfree : tables.postOf other seq = none) :
    Untouched tables { tables with posts := tables.posts.upsert seq row } other where
  topics := rfl
  posts k := by
    unfold Tables.postOf at hfree ⊢
    by_cases hk : k = seq
    · subst hk
      rw [hfree]
      simp [hrow, Option.filter, hne.symm]
    · simp [hk]
  surfaces := rfl
  publications _ := rfl
  documents _ := rfl

theorem updateTopic (change : TopicRow → TopicRow) :
    Untouched tables (updateTopic tables topicId change) other :=
  ⟨by simp [Publications.updateTopic, Rows.update, hne], fun _ => rfl, rfl, fun _ => rfl, fun _ => rfl⟩

theorem clearTopic : Untouched tables (clearTopic tables topicId) other where
  topics := by simp [Publications.clearTopic, Rows.delete, hne]
  posts seq := by
    unfold Publications.clearTopic Tables.postOf
    simp only [Rows.deleteWhere]
    cases hrow : tables.posts seq with
    | none => rfl
    | some row =>
      by_cases hown : row.topicId = topicId
      · have hother : row.topicId ≠ other := fun h => hne (h.symm.trans hown)
        simp [Option.filter, hown, hne.symm]
      · simp [Option.filter, hown]
  surfaces := by simp [Publications.clearTopic, Rows.delete, hne]
  publications seq := by simp [Publications.clearTopic, Rows.delete, hne]
  documents seq := by simp [Publications.clearTopic, Rows.delete, hne]

/-- The post that an update is about is not another topic's. -/
theorem updatePost {kind : String} {seq : Int} {change : PostRow → PostRow}
    (h : updatePost tables kind topicId seq change = .ok tables')
    (hchange : ∀ row, (change row).topicId = row.topicId) : Untouched tables tables' other := by
  obtain ⟨row, hrow, rfl⟩ := updatePost_eq_ok h
  obtain ⟨hsome, hown⟩ := Option.filter_eq_some_iff.1 hrow
  have hmine : row.topicId = topicId := by simpa using hown
  refine writePost hne ((hchange row).trans hmine) ?_
  unfold Tables.postOf
  simp [hsome, Option.filter, hmine, hne.symm]

/-- **The projection of an event leaves other topics alone.** -/
theorem project (hok : projectDiscussionEvent tables topicId record = .ok tables') :
    Untouched tables tables' other := by
  unfold projectDiscussionEvent at hok
  obtain ⟨written, hwritten, hok⟩ := Fallible.bind_eq_ok.1 hok
  obtain ⟨refreshed, hrefreshed, hok⟩ := Fallible.bind_eq_ok.1 hok
  obtain rfl := Except.ok.inj hok
  have hfact : Untouched tables written other := by
    unfold projectFact at hwritten
    cases hevent : record.event <;> simp only [hevent] at hwritten
    case areaCreated =>
      obtain rfl := Except.ok.inj hwritten
      exact ⟨rfl, fun _ => rfl, rfl, fun _ => rfl, fun _ => rfl⟩
    case topicCreated areaId title author =>
      cases hinsert : tables.topics.insert topicId ⟨areaId, title, author, .visible⟩ with
      | none => simp [hinsert] at hwritten
      | some topics =>
        simp only [hinsert] at hwritten
        obtain rfl := Except.ok.inj hwritten
        obtain ⟨-, rfl⟩ := Rows.insert_eq_some.1 hinsert
        exact ⟨Rows.upsert_of_ne hne, fun _ => rfl, rfl, fun _ => rfl, fun _ => rfl⟩
    case postSubmitted body author quotations mentions =>
      cases hinsert : tables.posts.insert record.sourceSeq
          ⟨topicId, author, body, mentions, 0, none, none⟩ with
      | none => simp [hinsert] at hwritten
      | some posts =>
        simp only [hinsert] at hwritten
        obtain rfl := Except.ok.inj hwritten
        obtain ⟨hfree, rfl⟩ := Rows.insert_eq_some.1 hinsert
        refine (writePost hne rfl ?_).trans (recordPublication hne _ _ _ _)
        simp [Tables.postOf, hfree]
    case postEdited =>
      obtain ⟨updated, hupdated, hwritten⟩ := Fallible.bind_eq_ok.1 hwritten
      obtain rfl := Except.ok.inj hwritten
      exact (updatePost hne hupdated fun _ => rfl).trans (revise hne _ _ _)
    case postRetracted =>
      obtain ⟨updated, hupdated, hwritten⟩ := Fallible.bind_eq_ok.1 hwritten
      obtain rfl := Except.ok.inj hwritten
      exact (updatePost hne hupdated fun _ => rfl).trans (withdraw hne _)
    all_goals
      obtain rfl := Except.ok.inj hwritten
      first
      | exact refl _ _
      | exact updateTopic hne _
  have hsurface : Untouched written refreshed other := by
    unfold refreshSurface at hrefreshed
    split at hrefreshed
    · exact recordForumSurface hne hrefreshed
    · obtain rfl := Except.ok.inj hrefreshed
      exact refl _ _
  refine (hfact.trans hsurface).trans ?_
  unfold rehomePublications
  split
  · exact rehome hne
  · exact refl _ _

end

end Untouched

/-- A topic whose rows are the same agrees as before, if its area is still there. -/
theorem TopicAgrees.congr (h : TopicAgrees tables hidden topicId aggregate)
    (hsame : Untouched tables tables' topicId)
    (hareas : ∀ areaId area, tables.areas areaId = some area → tables'.areas areaId = some area) :
    TopicAgrees tables' hidden topicId aggregate where
  topic := by
    rw [hsame.topics]
    exact h.topic
  unopened := h.unopened
  surface := by
    intro topic htopic
    rw [hsame.topics] at htopic
    obtain ⟨area, surface, harea, hsurface, hshown⟩ := h.surface topic htopic
    exact ⟨area, surface, hareas _ _ harea, hsame.surfaces.trans hsurface, hshown⟩
  posts := by
    unfold Tables.surfaceHref
    rw [hsame.surfaces]
    exact h.posts.congr hsame.posts hsame.publications hsame.documents

end Fmarch.Projections.Publications
