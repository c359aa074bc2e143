import Fmarch.Lib.Steps
import Fmarch.Projections.Moderation

/-!
# The search documents of forum posts

The forum's streams, the moderation cases and the tables both are projected into, under any order of
commands, moderation and rebuilds, each in a transaction of its own. Who may give a command, what it costs
and what a post may quote is left open: every command the deciders accept may come. The documents of games
and profiles are under their own surfaces and are left out.

**`post_documents_exact`**: a post has a visible search document exactly if it is not retracted and no
moderation case hides it, and a visible document has the body of the post's current revision, the current
title of its topic and its current address.
-/

namespace Fmarch.Projections.Publications

open Function (update update_self update_of_ne)

open Platform Forum Relation

/-! ## Runs -/

/-- The stored events and the tables; `lastSeq` is the last global position given out. -/
structure Site where
  tables : Tables := {}
  streams : Uuid → List ForumEventRecord := fun _ => []
  cases : Uuid → List ModerationRecord := fun _ => []
  lastSeq : Int := 0

/-- The records stored for the events of a decision. -/
structure StoredCase (lastSeq : Int) (events : List ModerationEvent) (records : List ModerationRecord) :
    Prop where
  facts : records.map (·.event) = events
  later : ∀ record ∈ records, lastSeq < record.seq

/-- `capture_moderation_evidence` finds the content: it is published and shown. -/
def Tables.reportable (tables : Tables) (target : PublicContentRef) : Bool :=
  ((tables.publications target).any (·.visible)) && ((tables.surfaces target.surfaceId).any (·.visible))

/-- `ModerationCommand::SubmitReport`. -/
def ModerationCommand.isReport : ModerationCommand → Bool
  | .submitReport .. => true
  | _ => false

namespace Site

/-- A commit of forum events. -/
def store (site : Site) (streamId : Uuid) (stored : List ForumEventRecord) (tables : Tables)
    (lastSeq : Int) : Site :=
  { site with
    tables, lastSeq
    streams := update site.streams streamId (site.streams streamId ++ stored) }

/-- A commit of moderation events. -/
def storeCase (site : Site) (caseId : Uuid) (stored : List ModerationRecord) (tables : Tables)
    (lastSeq : Int) : Site :=
  { site with
    tables, lastSeq
    cases := update site.cases caseId (site.cases caseId ++ stored) }

/-- One transaction that commits. A command loads its stream, is decided, and its events are stored and
projected; a report or a moderator's action goes through its case; a rebuild replays a stream. -/
inductive Step : Site → Site → Prop where
  | createArea {site : Site} {areaId : Uuid} {slug title description : String}
      {record : ForumEventRecord} {tables : Tables} {lastSeq : Int}
      (loaded : AreaAggregate.replay areaId (site.streams areaId) = .ok {})
      (fact : record.event = .areaCreated slug title description) (first : record.streamSeq = 1)
      (later : site.lastSeq < record.sourceSeq)
      (projected : projectAll site.tables areaId [record] = .ok tables)
      (last : record.sourceSeq ≤ lastSeq) :
      Step site (site.store areaId [record] tables lastSeq)
  | topic {site : Site} {topicId : Uuid} {aggregate : TopicAggregate} {command : TopicCommand}
      {events : List TopicEvent} {stored : List ForumEventRecord} {tables : Tables} {lastSeq : Int}
      (loaded : TopicAggregate.replay topicId (site.streams topicId) = .ok aggregate)
      (accepted : decideTopic aggregate.state command = .ok events)
      (appended : Stored aggregate.version site.lastSeq events stored)
      (projected : projectAll site.tables topicId stored = .ok tables)
      (last : ∀ record ∈ stored, record.sourceSeq ≤ lastSeq) (grows : site.lastSeq ≤ lastSeq) :
      Step site (site.store topicId stored tables lastSeq)
  | post {site : Site} {topicId : Uuid} {aggregate : TopicAggregate} {sourceSeq : Int}
      {topic : TopicState} {post : PostState} {context : PostDecisionContext} {command : PostCommand}
      {events : List TopicEvent} {stored : List ForumEventRecord} {tables : Tables} {lastSeq : Int}
      (loaded : TopicAggregate.replay topicId (site.streams topicId) = .ok aggregate)
      (opened : aggregate.state = some topic) (addressed : aggregate.post sourceSeq = some post)
      (context_ok : PostDecisionContext.new topic post = .ok context)
      (accepted : decidePost context command = .ok events)
      (appended : Stored aggregate.version site.lastSeq events stored)
      (projected : projectAll site.tables topicId stored = .ok tables)
      (last : ∀ record ∈ stored, record.sourceSeq ≤ lastSeq) (grows : site.lastSeq ≤ lastSeq) :
      Step site (site.store topicId stored tables lastSeq)
  | openReport {site : Site} {caseId reportId : Uuid} {target : PublicContentRef}
      {reason details : String} {events : List ModerationEvent} {stored : List ModerationRecord}
      {tables : Tables} {lastSeq : Int} (admitted : site.tables.reportable target = true)
      (unknown : site.tables.cases.find? (·.target = target) = none) (fresh : site.cases caseId = [])
      (accepted : decideModeration none (.openReport target reportId reason details) = .ok events)
      (appended : StoredCase site.lastSeq events stored)
      (folded : foldAll site.tables caseId stored = .ok tables)
      (last : ∀ record ∈ stored, record.seq ≤ lastSeq) (grows : site.lastSeq ≤ lastSeq) :
      Step site (site.storeCase caseId stored tables lastSeq)
  | moderate {site : Site} {caseId : Uuid} {row : CaseRow} {command : ModerationCommand}
      {events : List ModerationEvent} {stored : List ModerationRecord} {tables : Tables} {lastSeq : Int}
      (found : site.tables.cases.find? (·.caseId = caseId) = some row)
      (admitted : command.isReport = true → site.tables.reportable row.target = true)
      (accepted : decideModeration (some ⟨row.caseId, row.target, row.status, row.version⟩) command =
        .ok events)
      (appended : StoredCase site.lastSeq events stored)
      (folded : foldAll site.tables caseId stored = .ok tables)
      (last : ∀ record ∈ stored, record.seq ≤ lastSeq) (grows : site.lastSeq ≤ lastSeq) :
      Step site (site.storeCase caseId stored tables lastSeq)
  | rebuild {site : Site} {streamId : Uuid} {tables : Tables}
      (rebuilt : rebuildDiscussionStream site.tables streamId (site.streams streamId) = .ok tables) :
      Step site { site with tables }
  | rebuildCase {site : Site} {caseId : Uuid} {tables : Tables}
      (rebuilt : rebuildModerationStream site.tables caseId (site.cases caseId) = .ok tables) :
      Step site { site with tables }

/-- A state some run leads to. -/
def Reachable (site : Site) : Prop := ReflTransGen Step {} site

/-- A case of the content hides it, by its stored events. -/
def HiddenByModeration (site : Site) (target : PublicContentRef) : Prop :=
  ∃ caseId, openedTarget (site.cases caseId) = some target ∧ caseHidden (site.cases caseId) false = true

end Site

/-! ## What is stored -/

variable {tables tables' : Tables} {hidden : PublicContentRef → Bool} {topicId caseId : Uuid}
  {target : PublicContentRef} {aggregate : TopicAggregate} {record : ForumEventRecord}
  {records : List ForumEventRecord}

theorem lastOf_le {bound : Int} (hstart : 0 ≤ bound) (h : ∀ record ∈ records, record.sourceSeq ≤ bound) :
    lastOf (·.sourceSeq) 0 records ≤ bound := by
  obtain rfl | ⟨init, last, rfl⟩ := List.eq_nil_or_concat' records
  · exact hstart
  · rw [lastOf_append]
    exact h last (by simp)

variable {events : List TopicEvent} {version : Int} {areaId streamId : Uuid} {site' : Site}

theorem stored_of_le {a b : Int} (h : Stored version a events records) (hle : b ≤ a) : Stored version b events records := by
  cases h with
  | done => exact .done
  | event fact contiguous inRange later rest => exact .event fact contiguous inRange (by omega) rest

/-- What is stored of a topic is past the last position, and never the creation of an area. -/
theorem mem_stored {lastSeq : Int} (h : Stored version lastSeq events records) :
    ∀ record ∈ records, lastSeq < record.sourceSeq ∧ isAreaCreated record = false := by
  induction h with
  | done => simp
  | @event version lastSeq event record events records fact contiguous inRange later rest ih =>
    intro other hother
    obtain rfl | hother := List.mem_cons.1 hother
    · refine ⟨later, ?_⟩
      unfold isAreaCreated
      rw [fact]
      cases event <;> rfl
    · exact ⟨by have := (ih other hother).1; omega, (ih other hother).2⟩

/-- A topic's stream never creates an area. -/
theorem built_topic (h : Built topicId aggregate records) :
    ∀ record ∈ records, isAreaCreated record = false := by
  induction h with
  | start => simp
  | topic _ _ append ih | post _ _ _ _ _ append ih =>
    intro record hrecord
    obtain hrecord | hrecord := List.mem_append.1 hrecord
    · exact ih record hrecord
    · exact (mem_stored append record hrecord).2

theorem foldl_of_built (h : Built topicId aggregate records) :
    aggregate = records.foldl (.evolve topicId) {} := by
  induction h with
  | start => rfl
  | topic _ _ _ ih | post _ _ _ _ _ _ ih => rw [List.foldl_append, ← ih]

/-! ## The projection of a stream -/

theorem refreshSurface_frame (hok : refreshSurface tables topicId record = .ok tables') :
    tables'.targets = tables.targets ∧ tables'.cases = tables.cases ∧ tables'.areas = tables.areas := by
  unfold refreshSurface at hok
  split at hok
  · obtain ⟨topic, area, -, -, rfl⟩ := recordForumSurface_eq_ok hok
    exact ⟨rfl, rfl, rfl⟩
  · obtain rfl := Except.ok.inj hok
    exact ⟨rfl, rfl, rfl⟩

/-- A fact writes no moderation, and no area unless it creates one. -/
theorem projectFact_frame (hok : projectFact tables topicId record = .ok tables') :
    tables'.targets = tables.targets ∧ tables'.cases = tables.cases ∧
      (isAreaCreated record = false → tables'.areas = tables.areas) := by
  unfold projectFact at hok
  unfold isAreaCreated
  cases hevent : record.event <;> simp only [hevent] at hok ⊢
  case areaCreated =>
    obtain rfl := Except.ok.inj hok
    exact ⟨rfl, rfl, by simp⟩
  case topicCreated | postSubmitted =>
    split at hok
    · obtain rfl := Except.ok.inj hok
      exact ⟨rfl, rfl, fun _ => rfl⟩
    · simp at hok
  case postEdited | postRetracted =>
    obtain ⟨updated, hupdated, hok⟩ := Fallible.bind_eq_ok.1 hok
    obtain rfl := Except.ok.inj hok
    obtain ⟨row, -, rfl⟩ := updatePost_eq_ok hupdated
    exact ⟨rfl, rfl, fun _ => rfl⟩
  all_goals
    obtain rfl := Except.ok.inj hok
    exact ⟨rfl, rfl, fun _ => rfl⟩

theorem project_frame (hok : projectDiscussionEvent tables topicId record = .ok tables') :
    tables'.targets = tables.targets ∧ tables'.cases = tables.cases ∧
      (isAreaCreated record = false → tables'.areas = tables.areas) := by
  unfold projectDiscussionEvent at hok
  obtain ⟨written, hwritten, hok⟩ := Fallible.bind_eq_ok.1 hok
  obtain ⟨refreshed, hrefreshed, hok⟩ := Fallible.bind_eq_ok.1 hok
  obtain rfl := Except.ok.inj hok
  obtain ⟨htargets, hcases, hareas⟩ := projectFact_frame hwritten
  obtain ⟨htargets', hcases', hareas'⟩ := refreshSurface_frame hrefreshed
  have hrehomed : ∀ tables : Tables, (rehomePublications tables topicId record).targets = tables.targets ∧
      (rehomePublications tables topicId record).cases = tables.cases ∧
      (rehomePublications tables topicId record).areas = tables.areas := by
    intro tables
    unfold rehomePublications
    split <;> exact ⟨rfl, rfl, rfl⟩
  obtain ⟨htargets'', hcases'', hareas''⟩ := hrehomed refreshed
  exact ⟨by rw [htargets'', htargets', htargets], by rw [hcases'', hcases', hcases],
    fun harea => by rw [hareas'', hareas', hareas harea]⟩

theorem hidden_congr (h : tables'.targets = tables.targets) : tables'.hidden = tables.hidden := by
  unfold Tables.hidden
  rw [h]

theorem caseKeys_congr (h : tables'.cases = tables.cases) : tables'.caseKeys = tables.caseKeys := by
  unfold Tables.caseKeys
  rw [h]

/-- What the projection of the events of one topic does. -/
structure Projects (tables tables' : Tables) (topicId : Uuid) (records : List ForumEventRecord) : Prop where
  hidden : tables'.hidden = tables.hidden
  keys : tables'.caseKeys = tables.caseKeys
  areas : tables'.areas = tables.areas
  others : ∀ other, other ≠ topicId → Untouched tables tables' other
  topic : ∀ {aggregate : TopicAggregate}, TopicAgrees tables tables.hidden topicId aggregate →
    TopicAgrees tables' tables.hidden topicId (records.foldl (.evolve topicId) aggregate)

theorem projectAll_projects
    (hrecords : ∀ record ∈ records, 0 < record.sourceSeq ∧ isAreaCreated record = false)
    (hok : projectAll tables topicId records = .ok tables') :
    Projects tables tables' topicId records := by
  induction records generalizing tables with
  | nil =>
    obtain rfl := Except.ok.inj hok
    exact ⟨rfl, rfl, rfl, fun _ _ => .refl _ _, id⟩
  | cons record records ih =>
    unfold projectAll at hok
    rw [List.foldlM_cons] at hok
    obtain ⟨next, hnext, hrest⟩ := Fallible.bind_eq_ok.1 hok
    obtain ⟨hpos, hfact⟩ := hrecords record List.mem_cons_self
    obtain ⟨htargets, hcases, hareas⟩ := project_frame hnext
    have hhidden := hidden_congr htargets
    have hmore := ih (fun other hother => hrecords other (List.mem_cons_of_mem _ hother)) hrest
    refine ⟨hmore.hidden.trans hhidden, hmore.keys.trans (caseKeys_congr hcases),
      hmore.areas.trans (hareas hfact),
      fun other hne => (Untouched.project hne hnext).trans (hmore.others other hne), fun hagree => ?_⟩
    have hstep := hagree.project rfl hpos hfact hnext
    rw [← hhidden] at hstep ⊢
    exact hmore.topic hstep

/-- The tables with one area written. -/
def Tables.withArea (tables : Tables) (areaId : Uuid) (row : AreaRow) : Tables :=
  { tables with areas := tables.areas.upsert areaId row }

/-- The projection of the creation of an area. -/
theorem projectAll_area {slug title description : String}
    (hfact : record.event = .areaCreated slug title description)
    (hok : projectAll tables areaId [record] = .ok tables') :
    tables' = tables.withArea areaId ⟨slug, title, description, record.sourceSeq⟩ := by
  unfold projectAll at hok
  rw [List.foldlM_cons] at hok
  obtain ⟨next, hnext, hdone⟩ := Fallible.bind_eq_ok.1 hok
  rw [List.foldlM_nil] at hdone
  obtain rfl := Except.ok.inj hdone
  unfold projectDiscussionEvent projectFact refreshSurface rehomePublications at hnext
  simp only [hfact, refreshesSurface, rehomesPublications, Bool.false_eq_true, if_false] at hnext
  exact (Except.ok.inj hnext).symm

/-- A cleared topic has nothing. -/
theorem topicAgrees_cleared (tables : Tables) (hidden : PublicContentRef → Bool) (topicId : Uuid) :
    TopicAgrees (clearTopic tables topicId) hidden topicId {} where
  topic := by simp [clearTopic]
  unopened _ _ := by simp [TopicAggregate.post]
  surface := by
    intro topic htopic
    simp [clearTopic] at htopic
  posts :=
    { rows := fun seq => by
        unfold Tables.postOf clearTopic
        simp only [Rows.deleteWhere]
        cases tables.posts seq with
        | none => simp [TopicAggregate.post]
        | some row =>
          by_cases hown : row.topicId = topicId <;> simp [Option.filter, hown, TopicAggregate.post]
      positive := fun seq post hpost => by simp [TopicAggregate.post] at hpost
      publications := fun seq => by simp [clearTopic, TopicAggregate.post]
      documents := fun seq => by simp [clearTopic, TopicAggregate.post] }

/-! ## Laws -/

/-- A stream is a topic's, as its commands built it, or an area's, of one fact; an unused one is a topic's
that has not begun. -/
inductive StreamLawful (site : Site) (streamId : Uuid) : Prop where
  | topic {aggregate : TopicAggregate} (built : Built streamId aggregate (site.streams streamId))
      (agrees : TopicAgrees site.tables site.tables.hidden streamId aggregate)
      (noArea : site.tables.areas streamId = none)
  | area {record : ForumEventRecord} {slug title description : String}
      (stored : site.streams streamId = [record])
      (fact : record.event = .areaCreated slug title description) (first : record.streamSeq = 1)
      (row : site.tables.areas streamId = some ⟨slug, title, description, record.sourceSeq⟩)
      (agrees : TopicAgrees site.tables site.tables.hidden streamId {})

/-- A case is not there, or has its key and says whether its target is hidden. -/
inductive CaseLawful (site : Site) (caseId : Uuid) : Prop where
  | unopened (empty : site.cases caseId = [])
      (absent : ∀ target, (caseId, target) ∉ site.tables.caseKeys)
  | opened {first : ModerationRecord} {rest : List ModerationRecord} {target : PublicContentRef}
      (stored : site.cases caseId = first :: rest) (fact : first.event = .caseOpened target)
      (once : ∀ record ∈ rest, opensCase record = false)
      (key : (caseId, target) ∈ site.tables.caseKeys)
      (agrees : site.tables.hidden target = caseHidden rest false)

/-- What holds of every state a run leads to. -/
structure Lawful (site : Site) : Prop where
  nonneg : 0 ≤ site.lastSeq
  positions : ∀ streamId, ∀ record ∈ site.streams streamId,
    0 < record.sourceSeq ∧ record.sourceSeq ≤ site.lastSeq
  streams : ∀ streamId, StreamLawful site streamId
  keyed : CasesKeyed site.tables
  cases : ∀ caseId, CaseLawful site caseId
  hiddenCase : ∀ target, site.tables.hidden target = true → ∃ caseId, (caseId, target) ∈ site.tables.caseKeys

variable {site : Site} {stored : List ForumEventRecord} {lastSeq : Int}

theorem lawful_start : Lawful {} where
  nonneg := le_refl 0
  positions := by simp
  streams streamId := by
    have hcleared := topicAgrees_cleared {} (Tables.hidden {}) streamId
    refine .topic .start (hcleared.congr ⟨?_, ?_, ?_, ?_, ?_⟩ fun _ _ => id) rfl
    all_goals simp [clearTopic, Tables.postOf, Rows.deleteWhere]
  keyed := ⟨List.nodup_nil, List.nodup_nil⟩
  cases caseId := .unopened rfl (by simp [Tables.caseKeys])
  hiddenCase target h := by simp [Tables.hidden] at h

/-- A case keeps its law while its records, its key and its target's state stay. -/
theorem CaseLawful.congr (h : CaseLawful site caseId) (hcases : site'.cases caseId = site.cases caseId)
    (hkeys : ∀ target, (caseId, target) ∈ site'.tables.caseKeys ↔ (caseId, target) ∈ site.tables.caseKeys)
    (hhidden : ∀ target, (caseId, target) ∈ site.tables.caseKeys → site'.tables.hidden target = site.tables.hidden target) : CaseLawful site' caseId := by
  cases h with
  | unopened empty absent =>
    exact .unopened (hcases.trans empty) fun target hkey => absent target ((hkeys target).1 hkey)
  | opened stored fact once key agrees =>
    exact .opened (hcases.trans stored) fact once ((hkeys _).2 key) ((hhidden _ key).trans agrees)

/-- A stream keeps its law when its own rows and the areas stay. -/
theorem StreamLawful.congr (h : StreamLawful site streamId)
    (hstreams : site'.streams streamId = site.streams streamId)
    (hareas : ∀ areaId area, site.tables.areas areaId = some area → site'.tables.areas areaId = some area)
    (hown : site'.tables.areas streamId = site.tables.areas streamId)
    (htopic : ∀ aggregate, TopicAgrees site.tables site.tables.hidden streamId aggregate → TopicAgrees site'.tables site'.tables.hidden streamId aggregate) : StreamLawful site' streamId := by
  cases h with
  | topic built agrees noArea => exact .topic (hstreams ▸ built) (htopic _ agrees) (hown.trans noArea)
  | area stored fact first row agrees =>
    exact .area (hstreams.trans stored) fact first (hareas _ _ row) (htopic _ agrees)

/-- What a topic loads as is what its commands built. -/
theorem Lawful.loaded (h : Lawful site)
    (hload : TopicAggregate.replay topicId (site.streams topicId) = .ok aggregate) :
    Built topicId aggregate (site.streams topicId) ∧
      TopicAgrees site.tables site.tables.hidden topicId aggregate ∧ site.tables.areas topicId = none := by
  cases h.streams topicId with
  | topic built agrees noArea =>
    obtain rfl := Except.ok.inj (built.loaded.replayed.symm.trans hload)
    exact ⟨built, agrees, noArea⟩
  | area stored fact first row agrees =>
    rw [stored] at hload
    unfold TopicAggregate.replay TopicAggregate.replayFrom TopicAggregate.fold at hload
    obtain ⟨_, -, hload⟩ := Fallible.bind_eq_ok.1 hload
    obtain ⟨_, hfold, -⟩ := Fallible.bind_eq_ok.1 hload
    simp [fact, invalid] at hfold

/-! ## Steps -/

/-- Events of a topic that are decided, stored and projected. -/
theorem Lawful.storeTopic (h : Lawful site)
    (hload : TopicAggregate.replay topicId (site.streams topicId) = .ok aggregate)
    (hstored : Stored aggregate.version site.lastSeq events stored)
    (hbuilt : Built topicId (stored.foldl (.evolve topicId) aggregate) (site.streams topicId ++ stored))
    (hok : projectAll site.tables topicId stored = .ok tables')
    (hlast : ∀ record ∈ stored, record.sourceSeq ≤ lastSeq) (hgrows : site.lastSeq ≤ lastSeq) :
    Lawful (site.store topicId stored tables' lastSeq) := by
  obtain ⟨-, hagrees, hnoArea⟩ := h.loaded hload
  have hnonneg := h.nonneg
  have hlater := mem_stored hstored
  have hproject := projectAll_projects
    (fun record hrecord => ⟨by have := (hlater record hrecord).1; omega, (hlater record hrecord).2⟩) hok
  have hother : ∀ other, other ≠ topicId →
      (site.store topicId stored tables' lastSeq).streams other = site.streams other := fun other hne =>
    update_of_ne hne _ _
  have hown : (site.store topicId stored tables' lastSeq).streams topicId =
      site.streams topicId ++ stored := update_self _ _ _
  refine ⟨by have := h.nonneg; show 0 ≤ lastSeq; omega, fun id record hrecord => ?_, fun id => ?_,
    ⟨hproject.keys ▸ h.keyed.ids, hproject.keys ▸ h.keyed.targets⟩, fun id => ?_, fun target hhidden => ?_⟩
  · have hold : ∀ record ∈ site.streams id, 0 < record.sourceSeq ∧ record.sourceSeq ≤ lastSeq :=
      fun record hrecord => ⟨(h.positions id record hrecord).1,
        le_trans (h.positions id record hrecord).2 hgrows⟩
    by_cases hid : id = topicId
    · subst hid
      rw [hown] at hrecord
      obtain hrecord | hrecord := List.mem_append.1 hrecord
      · exact hold record hrecord
      · exact ⟨by have := (hlater record hrecord).1; omega, hlast record hrecord⟩
    · rw [hother id hid] at hrecord
      exact hold record hrecord
  · by_cases hid : id = topicId
    · subst hid
      refine .topic (hown ▸ hbuilt) ?_ ?_
      · exact hproject.hidden ▸ hproject.topic hagrees
      · exact (congrFun hproject.areas id).trans hnoArea
    · refine (h.streams id).congr (hother id hid) (fun areaId area harea => ?_) ?_ fun aggregate hagree => ?_
      · exact (congrFun hproject.areas areaId).trans harea
      · exact congrFun hproject.areas id
      · have hkept : TopicAgrees tables' site.tables.hidden id aggregate :=
          hagree.congr (hproject.others id hid) fun _ _ harea => hproject.areas ▸ harea
        exact hproject.hidden ▸ hkept
  · refine (h.cases id).congr rfl (fun target => ?_) fun target _ => ?_
    · exact hproject.keys ▸ Iff.rfl
    · exact congrFun hproject.hidden target
  · obtain ⟨id, hkey⟩ := h.hiddenCase target (hproject.hidden ▸ hhidden)
    exact ⟨id, hproject.keys ▸ hkey⟩

/-- Once an area is created it stays so. -/
theorem areaReplay_state {before after : AreaAggregate} (hsome : before.state.isSome)
    (h : AreaAggregate.replayFrom areaId before records = .ok after) : after.state.isSome := by
  cases records with
  | nil =>
    obtain rfl := Except.ok.inj h
    exact hsome
  | cons record records =>
    unfold AreaAggregate.replayFrom at h
    obtain ⟨_, -, h⟩ := Fallible.bind_eq_ok.1 h
    simp [hsome, invalid] at h

/-- An area's stream starts empty, and then no topic and no area is under its id. -/
theorem Lawful.unusedArea (h : Lawful site)
    (hload : AreaAggregate.replay areaId (site.streams areaId) = .ok {}) :
    site.streams areaId = [] ∧ TopicAgrees site.tables site.tables.hidden areaId {} ∧
      site.tables.areas areaId = none := by
  have hempty : site.streams areaId = [] := by
    cases hrecords : site.streams areaId with
    | nil => rfl
    | cons record records =>
      rw [hrecords] at hload
      unfold AreaAggregate.replay AreaAggregate.replayFrom at hload
      obtain ⟨_, -, hload⟩ := Fallible.bind_eq_ok.1 hload
      simp only [Option.isSome_none, Bool.false_eq_true, if_false] at hload
      split at hload
      · exact absurd (areaReplay_state rfl hload) (by simp)
      · simp [invalid] at hload
  cases h.streams areaId with
  | @topic aggregate built agrees noArea =>
    rw [hempty] at built
    obtain rfl : aggregate = {} := foldl_of_built built
    exact ⟨hempty, agrees, noArea⟩
  | area stored => cases stored.symm.trans hempty

/-- The creation of an area. -/
theorem Lawful.storeArea (h : Lawful site) {slug title description : String}
    (hload : AreaAggregate.replay areaId (site.streams areaId) = .ok {})
    (hfact : record.event = .areaCreated slug title description) (hfirst : record.streamSeq = 1)
    (hlater : site.lastSeq < record.sourceSeq)
    (hok : projectAll site.tables areaId [record] = .ok tables')
    (hlast : record.sourceSeq ≤ lastSeq) :
    Lawful (site.store areaId [record] tables' lastSeq) := by
  obtain ⟨hempty, hagrees, hnoArea⟩ := h.unusedArea hload
  obtain rfl := projectAll_area hfact hok
  have hnonneg := h.nonneg
  have hareas : ∀ id area, site.tables.areas id = some area →
      site.tables.areas.upsert areaId ⟨slug, title, description, record.sourceSeq⟩ id = some area := by
    intro id area harea
    have hne : id ≠ areaId := fun hid => by simp [hid, hnoArea] at harea
    rw [Rows.upsert_of_ne hne, harea]
  have hagree : ∀ {id : Uuid} {aggregate : TopicAggregate},
      TopicAgrees site.tables site.tables.hidden id aggregate →
      TopicAgrees (site.tables.withArea areaId ⟨slug, title, description, record.sourceSeq⟩)
        site.tables.hidden id aggregate :=
    fun hagree => hagree.congr ⟨rfl, fun _ => rfl, rfl, fun _ => rfl, fun _ => rfl⟩ hareas
  have hother : ∀ {tables : Tables} (other), other ≠ areaId →
      (site.store areaId [record] tables lastSeq).streams other = site.streams other :=
    fun other hne => update_of_ne hne _ _
  have hown : ∀ {tables : Tables}, (site.store areaId [record] tables lastSeq).streams areaId = [record] :=
    (update_self _ _ _).trans (by rw [hempty]; rfl)
  refine ⟨by show 0 ≤ lastSeq; omega, fun id other hrecord => ?_, fun id => ?_,
    ⟨h.keyed.ids, h.keyed.targets⟩, fun id => (h.cases id).congr rfl (fun _ => Iff.rfl) fun _ _ => rfl, h.hiddenCase⟩
  · by_cases hid : id = areaId
    · subst hid
      rw [hown] at hrecord
      obtain rfl := List.mem_singleton.1 hrecord
      exact ⟨by omega, hlast⟩
    · rw [hother id hid] at hrecord
      have hbounds := h.positions id other hrecord
      exact ⟨hbounds.1, by show other.sourceSeq ≤ lastSeq; omega⟩
  · by_cases hid : id = areaId
    · subst hid
      exact .area hown hfact hfirst Rows.upsert_self (hagree hagrees)
    · exact (h.streams id).congr (hother id hid) hareas (Rows.upsert_of_ne hid) fun _ => hagree

/-- A rebuild makes the rows of a stream again as they were. -/
theorem Lawful.rebuild (h : Lawful site)
    (hok : rebuildDiscussionStream site.tables streamId (site.streams streamId) = .ok tables') :
    Lawful { site with tables := tables' } := by
  unfold rebuildDiscussionStream at hok
  cases h.streams streamId with
  | topic built agrees noArea =>
    have hrecords : ∀ record ∈ site.streams streamId,
        0 < record.sourceSeq ∧ isAreaCreated record = false := fun record hrecord =>
      ⟨(h.positions streamId record hrecord).1, built_topic built record hrecord⟩
    have hnoAreas : (site.streams streamId).any isAreaCreated = false :=
      List.any_eq_false.2 fun record hrecord => by simp [(hrecords record hrecord).2]
    rw [built.loaded.replayed, hnoAreas] at hok
    split at hok
    · have hproject := projectAll_projects hrecords hok
      have hhidden : tables'.hidden = site.tables.hidden := hproject.hidden
      refine ⟨h.nonneg, h.positions, fun id => ?_, ⟨hproject.keys ▸ h.keyed.ids,
        hproject.keys ▸ h.keyed.targets⟩, fun id => ?_, fun target htarget => ?_⟩
      · by_cases hid : id = streamId
        · subst hid
          have hagain := hproject.topic (topicAgrees_cleared site.tables _ id)
          rw [← foldl_of_built built] at hagain
          exact .topic built (hhidden ▸ hagain) ((congrFun hproject.areas id).trans noArea)
        · refine (h.streams id).congr rfl (fun areaId area harea => ?_) ?_ fun aggregate' hagree => ?_
          · exact (congrFun hproject.areas areaId).trans harea
          · exact congrFun hproject.areas id
          · have hkept : TopicAgrees tables' site.tables.hidden id aggregate' :=
              hagree.congr ((Untouched.clearTopic hid).trans (hproject.others id hid))
                fun _ _ harea => hproject.areas ▸ harea
            exact hhidden ▸ hkept
      · exact (h.cases id).congr rfl (fun _ => hproject.keys ▸ Iff.rfl) fun target _ =>
          congrFun hhidden target
      · obtain ⟨id, hkey⟩ := h.hiddenCase target (hhidden ▸ htarget)
        exact ⟨id, hproject.keys ▸ hkey⟩
    · simp only [Bool.false_eq_true, if_false] at hok
      obtain rfl := Except.ok.inj hok
      exact h
  | @area record slug title description stored fact first row agrees =>
    have htopic : [record].any isTopicCreated = false := by simp [isTopicCreated, fact]
    have harea : [record].any isAreaCreated = true := by simp [isAreaCreated, fact]
    rw [stored, htopic, harea] at hok
    simp only [Bool.false_eq_true, if_false, if_true] at hok
    split at hok
    · obtain rfl := projectAll_area fact hok
      have hsame : site.tables.areas.upsert streamId ⟨slug, title, description, record.sourceSeq⟩ =
          site.tables.areas := by
        funext id
        by_cases hid : id = streamId
        · rw [hid, Rows.upsert_self, row]
        · exact Rows.upsert_of_ne hid
      unfold Tables.withArea
      rw [hsame]
      exact h
    · simp at hok

/-- A stream keeps its law when a case is moderated. -/
theorem StreamLawful.moderated {records : List ModerationRecord} (h : StreamLawful site streamId)
    (hstreams : site'.streams = site.streams) (hareas : site'.tables.areas = site.tables.areas)
    (htopic : ∀ aggregate, TopicAgrees site.tables site.tables.hidden streamId aggregate → TopicAgrees site'.tables (hiddenBy site.tables.hidden target records) streamId aggregate)
    (hhidden : site'.tables.hidden = hiddenBy site.tables.hidden target records) :
    StreamLawful site' streamId := by
  refine h.congr (congrFun hstreams _) (fun areaId area harea => ?_) (congrFun hareas _)
    fun aggregate hagree => ?_
  · exact (congrFun hareas areaId).trans harea
  · rw [hhidden]
    exact htopic aggregate hagree

theorem hiddenBy_of_ne {ref : PublicContentRef} (hne : ref ≠ target) (records : List ModerationRecord) :
    hiddenBy hidden target records ref = hidden ref := if_neg hne

theorem hiddenBy_self (records : List ModerationRecord) :
    hiddenBy hidden target records target = caseHidden records (hidden target) := if_pos rfl

/-- Only a first report opens a case. -/
theorem decideModeration_opens_not {state : ModerationCaseState} {command : ModerationCommand}
    {events : List ModerationEvent} (h : decideModeration (some state) command = .ok events)
    (record : ModerationRecord) (hmem : record.event ∈ events) : opensCase record = false := by
  unfold opensCase
  unfold decideModeration at h
  cases command <;> simp only at h
  case openReport => simp at h
  all_goals
    split at h <;> simp only [Except.ok.injEq, reduceCtorEq] at h
    subst h
    obtain hevent := List.mem_singleton.1 hmem
    rw [hevent]

/-- A moderator's action on an open case, or one more report. -/
theorem Lawful.moderate (h : Lawful site) {row : CaseRow} {stored : List ModerationRecord}
    (hfound : site.tables.cases.find? (·.caseId = caseId) = some row)
    (hopen : ∀ record ∈ stored, opensCase record = false)
    (hok : foldAll site.tables caseId stored = .ok tables') (hgrows : site.lastSeq ≤ lastSeq) :
    Lawful (site.storeCase caseId stored tables' lastSeq) := by
  have hid : row.caseId = caseId := by simpa using List.find?_some hfound
  have hkey : (caseId, row.target) ∈ site.tables.caseKeys :=
    List.mem_map.2 ⟨row, List.mem_of_find?_eq_some hfound, by rw [hid]⟩
  have heffect := foldAll_moderates h.keyed hkey hopen hok
  have hother : ∀ other, other ≠ caseId →
      (site.storeCase caseId stored tables' lastSeq).cases other = site.cases other := fun other hne =>
    update_of_ne hne _ _
  have hown : (site.storeCase caseId stored tables' lastSeq).cases caseId = site.cases caseId ++ stored :=
    update_self _ _ _
  refine ⟨le_trans h.nonneg hgrows, fun id record hrecord => ?_, fun id => ?_,
    ⟨heffect.keys ▸ h.keyed.ids, heffect.keys ▸ h.keyed.targets⟩, fun id => ?_, fun target htarget => ?_⟩
  · have hbounds := h.positions id record hrecord
    exact ⟨hbounds.1, le_trans hbounds.2 hgrows⟩
  · exact (h.streams id).moderated rfl heffect.areas (fun _ => heffect.topics) heffect.hidden
  · by_cases hcase : id = caseId
    · subst hcase
      cases h.cases id with
      | unopened empty absent => exact absurd hkey (absent _)
      | @opened first rest target hstored fact once key agrees =>
        have htarget : row.target = target := h.keyed.target_eq key hfound
        refine .opened (hown.trans (by rw [hstored]; rfl)) fact (fun record hrecord => ?_)
          (heffect.keys ▸ key) ?_
        · exact (List.mem_append.1 hrecord).elim (once record) (hopen record)
        · refine (congrFun heffect.hidden target).trans ?_
          rw [htarget, hiddenBy_self, agrees]
          exact (List.foldl_append).symm
    · refine (h.cases id).congr (hother id hcase) (fun _ => heffect.keys ▸ Iff.rfl) fun target hmem => ?_
      have hne : target ≠ row.target := by
        rintro rfl
        exact hcase (Prod.mk.inj (List.inj_on_of_nodup_map h.keyed.targets hmem hkey rfl)).1
      exact (congrFun heffect.hidden target).trans (hiddenBy_of_ne hne _)
  · by_cases hsame : target = row.target
    · subst hsame
      exact ⟨caseId, heffect.keys ▸ hkey⟩
    · have hkept : hiddenBy site.tables.hidden row.target stored target = site.tables.hidden target :=
        hiddenBy_of_ne hsame stored
      obtain ⟨id, hmem⟩ := h.hiddenCase target
        (hkept.symm.trans ((congrFun heffect.hidden target).symm.trans htarget))
      exact ⟨id, heffect.keys ▸ hmem⟩

/-- The first fold of a case: its row is inserted, and then its events have their effect. -/
theorem foldAll_opened {tables tables' : Tables} {first : ModerationRecord}
    {rest : List ModerationRecord} (hkeyed : CasesKeyed tables)
    (hfact : first.event = .caseOpened target) (hopen : ∀ record ∈ rest, opensCase record = false)
    (hok : foldAll tables caseId (first :: rest) = .ok tables') :
    (∀ key ∈ tables.caseKeys, key.1 ≠ caseId ∧ key.2 ≠ target) ∧
      tables'.caseKeys = tables.caseKeys ++ [(caseId, target)] ∧ CasesKeyed tables' ∧
      tables'.areas = tables.areas ∧ tables'.hidden = hiddenBy tables.hidden target rest ∧
      ∀ {hidden : PublicContentRef → Bool} {topicId : Uuid} {aggregate : TopicAggregate},
        TopicAgrees tables hidden topicId aggregate →
          TopicAgrees tables' (hiddenBy hidden target rest) topicId aggregate := by
  unfold foldAll at hok
  rw [List.foldlM_cons] at hok
  obtain ⟨opened, hopened, hrest⟩ := Fallible.bind_eq_ok.1 hok
  unfold foldModerationEvent at hopened
  simp only [hfact] at hopened
  split at hopened
  case h_2 => simp at hopened
  case h_1 cases hinsert =>
    obtain rfl := Except.ok.inj hopened
    obtain ⟨hfree, rfl⟩ := Relational.insertRow_eq_some.1 hinsert
    have hclear : ∀ key ∈ tables.caseKeys, key.1 ≠ caseId ∧ key.2 ≠ target := by
      intro key hkey
      obtain ⟨old, hold, rfl⟩ := List.mem_map.1 hkey
      simpa [caseClash] using hfree old hold
    have hkeys : Tables.caseKeys { tables with
        cases := tables.cases ++ [⟨caseId, target, .opened, first.streamSeq⟩] } =
        tables.caseKeys ++ [(caseId, target)] := by
      simp [Tables.caseKeys]
    have hnodup : CasesKeyed { tables with
        cases := tables.cases ++ [⟨caseId, target, .opened, first.streamSeq⟩] } := by
      refine ⟨?_, ?_⟩ <;> rw [hkeys, List.map_append, List.nodup_append]
      · refine ⟨hkeyed.ids, by simp, fun id hid other hother => ?_⟩
        obtain ⟨key, hkey, rfl⟩ := List.mem_map.1 hid
        obtain rfl := List.mem_singleton.1 hother
        exact (hclear key hkey).1
      · refine ⟨hkeyed.targets, by simp, fun id hid other hother => ?_⟩
        obtain ⟨key, hkey, rfl⟩ := List.mem_map.1 hid
        obtain rfl := List.mem_singleton.1 hother
        exact (hclear key hkey).2
    have hmem : (caseId, target) ∈ Tables.caseKeys { tables with
        cases := tables.cases ++ [⟨caseId, target, .opened, first.streamSeq⟩] } := by
      rw [hkeys]
      simp
    have heffect := foldAll_moderates hnodup hmem hopen hrest
    exact ⟨hclear, heffect.keys.trans hkeys, ⟨heffect.keys ▸ hnodup.ids, heffect.keys ▸ hnodup.targets⟩,
      heffect.areas, heffect.hidden, fun hagree => heffect.topics
        (hagree.congr ⟨rfl, fun _ => rfl, rfl, fun _ => rfl, fun _ => rfl⟩ fun _ _ => id)⟩

/-- The first report of a content. -/
theorem Lawful.openReport (h : Lawful site) {first : ModerationRecord} {rest : List ModerationRecord}
    (hfresh : site.cases caseId = []) (hfact : first.event = .caseOpened target)
    (hquiet : ∀ record ∈ rest, record.event.visibility = none)
    (hopen : ∀ record ∈ rest, opensCase record = false)
    (hok : foldAll site.tables caseId (first :: rest) = .ok tables') (hgrows : site.lastSeq ≤ lastSeq) :
    Lawful (site.storeCase caseId (first :: rest) tables' lastSeq) := by
  obtain ⟨hclear, hkeys, hkeyed, hareas, hhidden, htopics⟩ := foldAll_opened h.keyed hfact hopen hok
  have hstart : site.tables.hidden target = false := by
    by_contra hhidden
    obtain ⟨id, hmem⟩ := h.hiddenCase target (by simpa using hhidden)
    exact (hclear _ hmem).2 rfl
  have hkept : caseHidden rest false = false := by
    have hall : ∀ start, caseHidden rest start = start := by
      intro start
      unfold caseHidden
      refine List.foldlRecOn rest hiddenAfter (motive := fun hidden => hidden = start) rfl ?_
      intro hidden hprev record hrecord
      rw [hiddenAfter, hquiet record hrecord, hprev]
    exact hall false
  have hother : ∀ other, other ≠ caseId →
      (site.storeCase caseId (first :: rest) tables' lastSeq).cases other = site.cases other :=
    fun other hne => update_of_ne hne _ _
  have hown : (site.storeCase caseId (first :: rest) tables' lastSeq).cases caseId = first :: rest :=
    (update_self _ _ _).trans (by rw [hfresh]; rfl)
  have hsame : hiddenBy site.tables.hidden target rest = site.tables.hidden := by
    funext ref
    by_cases href : ref = target
    · rw [href, hiddenBy_self, hstart, hkept]
    · exact hiddenBy_of_ne href rest
  refine ⟨le_trans h.nonneg hgrows, fun id record hrecord => ?_, fun id => ?_, hkeyed, fun id => ?_,
    fun ref href => ?_⟩
  · have hbounds := h.positions id record hrecord
    exact ⟨hbounds.1, le_trans hbounds.2 hgrows⟩
  · exact (h.streams id).moderated rfl hareas (fun _ => htopics) hhidden
  · by_cases hcase : id = caseId
    · subst hcase
      refine .opened hown hfact hopen (hkeys ▸ by simp) ?_
      rw [hkept]
      exact (congrFun (hhidden.trans hsame) target).trans hstart
    · refine (h.cases id).congr (hother id hcase) (fun ref => ?_) fun ref _ => ?_
      · show (id, ref) ∈ tables'.caseKeys ↔ _
        rw [hkeys]
        simp [hcase]
      · exact congrFun (hhidden.trans hsame) ref
  · obtain ⟨id, hmem⟩ := h.hiddenCase ref ((congrFun (hhidden.trans hsame) ref).symm.trans href)
    refine ⟨id, ?_⟩
    show _ ∈ tables'.caseKeys
    rw [hkeys]
    exact List.mem_append_left _ hmem

/-- A rebuild of a case hides and shows again what it had. -/
theorem Lawful.rebuildCase (h : Lawful site)
    (hok : rebuildModerationStream site.tables caseId (site.cases caseId) = .ok tables') :
    Lawful { site with tables := tables' } := by
  unfold rebuildModerationStream at hok
  cases h.cases caseId with
  | unopened empty absent =>
    rw [empty] at hok
    obtain rfl := Except.ok.inj hok
    exact h
  | @opened first rest target hstored fact once key agrees =>
    have hopened : openedTarget (first :: rest) = some target := by simp [openedTarget, fact]
    rw [hstored, hopened] at hok
    dsimp only at hok
    obtain ⟨-, hkeys, hkeyed, hareas, hhidden, htopics⟩ :=
      foldAll_opened (h.keyed.clearCase caseId target) fact once hok
    rw [caseKeys_clearCase] at hkeys
    have hmem : ∀ id ref, (id, ref) ∈ tables'.caseKeys ↔ (id, ref) ∈ site.tables.caseKeys := by
      intro id ref
      rw [hkeys, List.mem_append, List.mem_filter, List.mem_singleton]
      constructor
      · rintro (⟨hmem, -⟩ | hsame)
        · exact hmem
        · exact hsame ▸ key
      · intro hmem
        by_cases hid : id = caseId
        · subst hid
          rw [h.keyed.eq_of_mem key hmem]
          exact .inr rfl
        · exact .inl ⟨hmem, by simpa using hid⟩
    have hreplayed : hiddenBy site.tables.hidden target rest = site.tables.hidden := by
      funext ref
      by_cases href : ref = target
      · rw [href, hiddenBy_self, agrees, caseHidden_replay]
      · exact hiddenBy_of_ne href rest
    have hsame : tables'.hidden = site.tables.hidden := by
      rw [hhidden]
      funext ref
      by_cases href : ref = target
      · rw [href, hiddenBy_self, hidden_clearCase, if_pos rfl, agrees]
      · rw [hiddenBy_of_ne href, hidden_clearCase, if_neg href]
    refine ⟨h.nonneg, h.positions, fun id => ?_, hkeyed, fun id => ?_, fun ref href => ?_⟩
    · refine (h.streams id).moderated rfl hareas (fun aggregate hagree => htopics ?_)
        (hsame.trans hreplayed.symm)
      exact hagree.congr ⟨rfl, fun _ => rfl, rfl, fun _ => rfl, fun _ => rfl⟩ fun _ _ harea => harea
    · exact (h.cases id).congr rfl (hmem id) fun ref _ => congrFun hsame ref
    · obtain ⟨id, hid⟩ := h.hiddenCase ref (hsame ▸ href)
      exact ⟨id, (hmem id ref).2 hid⟩

theorem Lawful.storedAfter (h : Lawful site) (streamId : Uuid)
    (hstored : Stored version site.lastSeq events stored) :
    Stored version (lastOf (·.sourceSeq) 0 (site.streams streamId)) events stored :=
  stored_of_le hstored
    (lastOf_le h.nonneg fun record hrecord => (h.positions streamId record hrecord).2)

/-- **Every transaction keeps the laws.** -/
theorem Lawful.step {site : Site} (h : Lawful site) (hstep : Site.Step site site') : Lawful site' := by
  cases hstep with
  | createArea loaded fact first later projected last =>
    exact h.storeArea loaded fact first later projected last
  | topic loaded accepted appended projected last grows =>
    obtain ⟨hbuilt, -, -⟩ := h.loaded loaded
    exact h.storeTopic loaded appended (hbuilt.topic accepted (h.storedAfter _ appended)) projected last
      grows
  | post loaded opened addressed context_ok accepted appended projected last grows =>
    obtain ⟨hbuilt, -, -⟩ := h.loaded loaded
    exact h.storeTopic loaded appended
      (hbuilt.post opened addressed context_ok accepted (h.storedAfter _ appended)) projected last grows
  | openReport admitted unknown fresh accepted appended folded last grows =>
    obtain rfl := Except.ok.inj accepted
    obtain ⟨first, rest, rfl, hfirst, hrest⟩ := List.map_eq_cons_iff.1 appended.facts
    obtain ⟨report, rest, rfl, hreport, hnil⟩ := List.map_eq_cons_iff.1 hrest
    obtain rfl := List.map_eq_nil_iff.1 hnil
    refine h.openReport fresh hfirst (fun record hrecord => ?_) (fun record hrecord => ?_) folded grows
    · obtain rfl := List.mem_singleton.1 hrecord
      rw [hreport]
      rfl
    · obtain rfl := List.mem_singleton.1 hrecord
      unfold opensCase
      rw [hreport]
  | moderate found admitted accepted appended folded last grows =>
    refine h.moderate found (fun record hrecord => ?_) folded grows
    have hmem := List.mem_map_of_mem (f := (·.event)) hrecord
    rw [appended.facts] at hmem
    exact decideModeration_opens_not accepted record hmem
  | rebuild rebuilt => exact h.rebuild rebuilt
  | rebuildCase rebuilt => exact h.rebuildCase rebuilt

theorem Site.Reachable.lawful {site : Site} (h : Site.Reachable site) : Lawful site :=
  Steps.preserved Lawful (fun _ _ hstep hlawful => hlawful.step hstep) h lawful_start

/-! ## The documents of the posts -/

/-- By the records of the cases, what is hidden is what the moderation state says. -/
theorem Lawful.hidden_iff (h : Lawful site) (target : PublicContentRef) :
    site.tables.hidden target = true ↔ site.HiddenByModeration target := by
  have hopened : ∀ {first : ModerationRecord} {rest : List ModerationRecord} {other : PublicContentRef},
      first.event = .caseOpened other → openedTarget (first :: rest) = some other ∧
          caseHidden (first :: rest) false = caseHidden rest false := by
    intro first rest other hfact
    refine ⟨by simp [openedTarget, hfact], ?_⟩
    unfold caseHidden
    rw [List.foldl_cons]
    simp [hiddenAfter, hfact, ModerationEvent.visibility]
  constructor
  · intro hhidden
    obtain ⟨caseId, hkey⟩ := h.hiddenCase target hhidden
    cases h.cases caseId with
    | unopened empty absent => exact absurd hkey (absent target)
    | opened stored fact once key agrees =>
      obtain rfl := h.keyed.eq_of_mem key hkey
      refine ⟨caseId, ?_, ?_⟩ <;> rw [stored]
      · exact (hopened fact).1
      · rw [(hopened fact).2, ← agrees]
        exact hhidden
  · rintro ⟨caseId, htarget, hhidden⟩
    cases h.cases caseId with
    | unopened empty absent => simp [empty, openedTarget] at htarget
    | opened stored fact once key agrees =>
      rw [stored, (hopened fact).1] at htarget
      obtain rfl := Option.some.inj htarget
      rw [agrees, ← (hopened fact).2, ← stored]
      exact hhidden

/-- The area of a topic is one that was created. -/
theorem Lawful.area (h : Lawful site) {row : AreaRow} (hrow : site.tables.areas areaId = some row) :
    ∃ area, AreaAggregate.replay areaId (site.streams areaId) = .ok ⟨some area⟩ ∧ area.slug = row.slug := by
  cases h.streams areaId with
  | topic built agrees noArea => cases noArea.symm.trans hrow
  | @area record slug title description stored fact first found agrees =>
    obtain rfl := Option.some.inj (found.symm.trans hrow)
    have hpos := (h.positions areaId record (by simp [stored])).1
    have hposition : validatePosition record 0 0 = .ok () := by
      have hnext : checkedAdd 0 1 = some record.streamSeq := by rw [first]; rfl
      unfold validatePosition
      rw [if_neg (not_not_intro hnext), if_neg (by omega)]
    refine ⟨⟨areaId, slug, title, description, record.streamSeq⟩, ?_, rfl⟩
    rw [stored, AreaAggregate.replay, AreaAggregate.replayFrom, hposition]
    simp [fact, AreaAggregate.replayFrom, bind, Except.bind]

/-- The document of a forum post. -/
def Tables.postDocument (tables : Tables) (topicId : Uuid) (sourceSeq : Int) : Option DocumentRow :=
  tables.documents ⟨topicId, .discussionPost, sourceSeq⟩

/-- **The search documents of forum posts.** In every state a run leads to, and for every topic as its
stored events load it: a post has a visible document exactly if it is not retracted and no case hides it;
and a visible document is a post's, with the body of its current revision, at the topic's current address,
under a surface with the topic's current title, which is the title `public_search.sql` shows it under. -/
theorem post_documents_exact {site : Site} (h : Site.Reachable site) {topicId : Uuid}
    {aggregate : TopicAggregate}
    (hload : TopicAggregate.replay topicId (site.streams topicId) = .ok aggregate) (sourceSeq : Int) :
    (∀ post, aggregate.post sourceSeq = some post →
      ((∃ document, site.tables.postDocument topicId sourceSeq = some document ∧ document.visible = true) ↔
        post.retracted = false ∧ ¬ site.HiddenByModeration ⟨topicId, sourceSeq⟩)) ∧
    ∀ document, site.tables.postDocument topicId sourceSeq = some document → document.visible = true →
      ∃ post state area surface, aggregate.post sourceSeq = some post ∧ aggregate.state = some state ∧
        AreaAggregate.replay state.areaId (site.streams state.areaId) = .ok ⟨some area⟩ ∧
        site.tables.surfaces topicId = some surface ∧ document.body = post.body ∧
        surface.title = state.title ∧
        document.href = postHref (topicHref area.slug topicId) sourceSeq := by
  have hlawful := h.lawful
  obtain ⟨-, hagrees, -⟩ := hlawful.loaded hload
  have hhidden := hlawful.hidden_iff ⟨topicId, sourceSeq⟩
  have hdocument := hagrees.posts.documents sourceSeq
  constructor
  · intro post hpost
    rw [hpost] at hdocument
    rw [← hhidden]
    cases hretracted : post.retracted with
    | true =>
      rw [Option.filter_some, hretracted] at hdocument
      have hnone : site.tables.postDocument topicId sourceSeq = none := Option.map_eq_none_iff.1 hdocument
      simp [hnone]
    | false =>
      rw [Option.filter_some, hretracted] at hdocument
      obtain ⟨document, hfound, hshown⟩ := Option.map_eq_some_iff.1 hdocument
      have hvisible : document.visible = !site.tables.hidden ⟨topicId, sourceSeq⟩ :=
        (Shown.mk.inj hshown).2.2
      have hfound' : site.tables.postDocument topicId sourceSeq = some document := hfound
      simp [hfound', hvisible]
  · intro document hfound hvisible
    have hfound' : site.tables.documents ⟨topicId, .discussionPost, sourceSeq⟩ = some document := hfound
    rw [hfound'] at hdocument
    obtain ⟨post, hlive, hshown⟩ := Option.map_eq_some_iff.1 hdocument.symm
    have hpost := (Option.filter_eq_some_iff.1 hlive).1
    have hparts := Shown.mk.inj hshown
    cases hstate : aggregate.state with
    | none => exact absurd (hagrees.unopened hstate sourceSeq) (by simp [hpost])
    | some state =>
      have htopic := hagrees.topic
      rw [hstate] at htopic
      obtain ⟨row, hrow, hsame⟩ := Option.map_eq_some_iff.1 htopic
      have harea : row.areaId = state.areaId := congrArg (·.1) hsame
      have htitle : row.title = state.title := congrArg (·.2.1) hsame
      obtain ⟨area, surface, hslug, hsurface, hshownTitle, hhref, -⟩ := hagrees.surface row hrow
      obtain ⟨created, hcreated, hcreatedSlug⟩ := hlawful.area hslug
      rw [harea] at hcreated
      refine ⟨post, state, created, surface, hpost, rfl, hcreated, hsurface, hparts.1.symm,
        hshownTitle.trans htitle, ?_⟩
      rw [← hparts.2.1, hagrees.surface.surfaceHref hrow hslug, hcreatedSlug]

/-! ## A post that was hidden, shown again, and rebuilt -/

/-- The area of the edited topic. -/
def generalArea : ForumEventRecord := ⟨5, 1, 90, .areaCreated "general" "General" "Talk"⟩

/-- The case of its post: reported, hidden, and restored. -/
def restoredCase : List ModerationRecord :=
  [⟨16, 1, .caseOpened ⟨7, 11⟩⟩, ⟨17, 2, .reportSubmitted 21 "spam" ""⟩, ⟨18, 3, .contentHidden "spam"⟩,
    ⟨19, 4, .contentRestored "appeal"⟩]

/-- The tables a projection leaves. -/
def projected (result : Except ProjectionError Tables) : Tables :=
  match result with
  | .ok tables => tables
  | .error _ => {}

/-- The area is created. -/
def areaSite : Site := Site.store {} 3 [generalArea] (projected (projectAll {} 3 [generalArea])) 5

/-- The topic is created with its opening post. -/
def topicSite : Site :=
  areaSite.store 7 (editedTopic.take 2) (projected (projectAll areaSite.tables 7 (editedTopic.take 2))) 11

/-- The post is edited. -/
def editedSite : Site :=
  topicSite.store 7 (editedTopic.drop 2)
    (projected (projectAll topicSite.tables 7 (editedTopic.drop 2))) 15

/-- The post is reported. -/
def reportedSite : Site :=
  editedSite.storeCase 9 (restoredCase.take 2)
    (projected (foldAll editedSite.tables 9 (restoredCase.take 2))) 17

/-- A moderator hides it. -/
def hiddenSite : Site :=
  reportedSite.storeCase 9 [⟨18, 3, .contentHidden "spam"⟩]
    (projected (foldAll reportedSite.tables 9 [⟨18, 3, .contentHidden "spam"⟩])) 18

/-- A moderator restores it. -/
def restoredSite : Site :=
  hiddenSite.storeCase 9 [⟨19, 4, .contentRestored "appeal"⟩]
    (projected (foldAll hiddenSite.tables 9 [⟨19, 4, .contentRestored "appeal"⟩])) 19

/-- The topic is rebuilt. -/
def rebuiltSite : Site :=
  { restoredSite with
    tables := projected (rebuildDiscussionStream restoredSite.tables 7 (restoredSite.streams 7)) }

theorem editedSite_reachable : Site.Reachable editedSite := by
  have harea : Site.Step {} areaSite := .createArea rfl rfl rfl (by decide) rfl (by decide)
  have htopic : Site.Step areaSite topicSite := by
    have haccepted : decideTopic none (.create 7 3 editedTitle editedOpening 5) =
        .ok [.created 3 "Night one" 5, .postSubmitted "Helo" 5 [] []] := rfl
    exact .topic rfl haccepted
      (.event rfl rfl (by decide) (by decide) (.event rfl rfl (by decide) (by decide) .done)) rfl
      (by decide) (by decide)
  have hedit : Site.Step topicSite editedSite := by
    have hload : TopicAggregate.replay 7 (topicSite.streams 7) =
        .ok ((editedTopic.take 2).foldl (.evolve 7) {}) := rfl
    have hpost : ((editedTopic.take 2).foldl (.evolve 7) {} : TopicAggregate).post 11 =
        some ⟨7, 11, some 5, "Helo", [], false, 100, 0, false⟩ := by decide +kernel
    have haccepted : decidePost
        ⟨⟨7, 3, "Night one", false, .opened, .visible, 2⟩,
          ⟨7, 11, some 5, "Helo", [], false, 100, 0, false⟩, rfl, by decide⟩
        (.edit editedBody [] 5 0 160) = .ok [.postEdited 11 "Hello" [] 1] := rfl
    exact .post hload rfl hpost rfl haccepted (.event rfl rfl (by decide) (by decide) .done) rfl
      (by decide) (by decide)
  exact ((ReflTransGen.single harea).tail htopic).tail hedit

theorem rebuiltSite_reachable : Site.Reachable rebuiltSite := by
  have hreport : Site.Step editedSite reportedSite := by
    have haccepted : decideModeration none (.openReport ⟨7, 11⟩ 21 "spam" "") =
        .ok [.caseOpened ⟨7, 11⟩, .reportSubmitted 21 "spam" ""] := rfl
    exact .openReport rfl rfl rfl haccepted ⟨rfl, by decide⟩ rfl (by decide) (by decide)
  have hhide : Site.Step reportedSite hiddenSite := by
    have hfound : reportedSite.tables.cases.find? (·.caseId = 9) = some ⟨9, ⟨7, 11⟩, .opened, 2⟩ := rfl
    have haccepted : decideModeration (some ⟨9, ⟨7, 11⟩, .opened, 2⟩) (.hide "spam") =
        .ok [.contentHidden "spam"] := rfl
    exact .moderate hfound (by simp [ModerationCommand.isReport]) haccepted ⟨rfl, by decide⟩ rfl (by decide)
      (by decide)
  have hrestore : Site.Step hiddenSite restoredSite := by
    have hfound : hiddenSite.tables.cases.find? (·.caseId = 9) = some ⟨9, ⟨7, 11⟩, .hidden, 3⟩ := rfl
    have haccepted : decideModeration (some ⟨9, ⟨7, 11⟩, .hidden, 3⟩) (.restore "appeal") =
        .ok [.contentRestored "appeal"] := rfl
    exact .moderate hfound (by simp [ModerationCommand.isReport]) haccepted ⟨rfl, by decide⟩ rfl (by decide)
      (by decide)
  have hrebuild : Site.Step restoredSite rebuiltSite := by
    have hok : rebuildDiscussionStream restoredSite.tables 7 (restoredSite.streams 7) =
        .ok rebuiltSite.tables := rfl
    exact .rebuild hok
  exact (((editedSite_reachable.tail hreport).tail hhide).tail hrestore).tail hrebuild

/-- The restored post is found again, as it was edited. -/
theorem rebuiltSite_document :
    ∃ document, rebuiltSite.tables.postDocument 7 11 = some document ∧ document.visible = true := by
  have hload : TopicAggregate.replay 7 (rebuiltSite.streams 7) = .ok editedTopicAggregate := rfl
  have hpost : editedTopicAggregate.post 11 =
      some ⟨7, 11, some 5, "Hello", [], false, 100, 1, false⟩ := by decide +kernel
  refine ((post_documents_exact rebuiltSite_reachable hload 11).1 _ hpost).2 ⟨rfl, ?_⟩
  rintro ⟨caseId, -, hhidden⟩
  by_cases hcase : caseId = 9
  · subst hcase
    cases hhidden
  · have hnone : rebuiltSite.cases caseId = [] := by
      unfold rebuiltSite restoredSite hiddenSite reportedSite Site.storeCase
      simp only [update_of_ne hcase]
      rfl
    rw [hnone] at hhidden
    cases hhidden

end Fmarch.Projections.Publications
