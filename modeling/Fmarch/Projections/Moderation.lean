import Fmarch.Lib.Relational
import Fmarch.Projections.PostDocuments
import Mathlib.Data.List.Nodup

/-!
# Moderation cases (`trust_safety::decide_moderation`, `fold_moderation_event`)

A case is about one published content and hides or restores it. Its fold writes the content's moderation
state, and carries it over to the publication and to the search document, which have their own `visible`.
Reports, the history of a case and the evidence of a report are rows of their own, which nothing here
reads, and are left out.

**`Moderates`** is what folding the events of an open case does, whatever they are: the moderation state,
the publication and the document of its target change together, and nothing else.
-/

namespace Fmarch.Projections.Publications

open Platform Forum Relational

/-! ## Decisions -/

structure ModerationCaseState where
  caseId : Uuid
  target : PublicContentRef
  status : ModerationCaseStatus
  version : Int

inductive ModerationCommand where
  | openReport (target : PublicContentRef) (reportId : Uuid) (reason details : String)
  | submitReport (reportId : Uuid) (reason details : String)
  | hide (reason : String)
  | dismiss (reason : String)
  | restore (reason : String)

inductive ModerationEvent where
  | caseOpened (target : PublicContentRef)
  | reportSubmitted (reportId : Uuid) (reason details : String)
  | contentHidden (reason : String)
  | caseDismissed (reason : String)
  | contentRestored (reason : String)

/-- `TrustSafetyReject`, as far as `decide_moderation` returns it. -/
inductive TrustSafetyReject where
  | moderationCaseAlreadyExists | moderationCaseNotFound | moderationTargetHidden
  | invalidModerationTransition

def decideModeration : Option ModerationCaseState → ModerationCommand →
    Except TrustSafetyReject (List ModerationEvent)
  | none, .openReport target reportId reason details =>
    .ok [.caseOpened target, .reportSubmitted reportId reason details]
  | some _, .openReport .. => .error .moderationCaseAlreadyExists
  | none, _ => .error .moderationCaseNotFound
  | some state, .submitReport reportId reason details =>
    if state.status = .hidden then .error .moderationTargetHidden
    else .ok [.reportSubmitted reportId reason details]
  | some state, .hide reason =>
    if state.status = .opened then .ok [.contentHidden reason]
    else .error .invalidModerationTransition
  | some state, .dismiss reason =>
    if state.status = .opened then .ok [.caseDismissed reason]
    else .error .invalidModerationTransition
  | some state, .restore reason =>
    if state.status = .hidden then .ok [.contentRestored reason]
    else .error .invalidModerationTransition

/-! ## The fold -/

/-- A stored event of a case. -/
structure ModerationRecord where
  seq : Int
  streamSeq : Int
  event : ModerationEvent

/-- Two cases cannot share their id, nor their target. -/
def caseClash (a b : CaseRow) : Bool := a.caseId = b.caseId ∨ a.target = b.target

/-- `UPDATE moderation_case SET status … WHERE case_id = $1`. -/
def updateCase (tables : Tables) (caseId : Uuid) (status : ModerationCaseStatus) (version : Int) : Tables :=
  { tables with
    cases := tables.cases.map fun row =>
      if row.caseId = caseId then { row with status, version } else row }

/-- The three writes of `set_moderation_target_visibility`. -/
def showTarget (tables : Tables) (target : PublicContentRef) (visibility : TargetVisibility) : Tables :=
  let visible : Bool := visibility = .visible
  { tables with
    targets := tables.targets.upsert target visibility
    publications := tables.publications.update (· = target) fun _ publication =>
      { publication with visible }
    documents := tables.documents.update
      (fun key => key.surfaceId = target.surfaceId ∧ key.sourceSeq = target.sourceSeq)
      fun _ document => { document with visible } }

def setModerationTargetVisibility (tables : Tables) (caseId : Uuid) (visibility : TargetVisibility) :
    Except ProjectionError Tables :=
  match tables.cases.find? (·.caseId = caseId) with
  | none => .error .rowNotFound
  | some row => .ok (showTarget tables row.target visibility)

def foldModerationEvent (tables : Tables) (caseId : Uuid) (record : ModerationRecord) :
    Except ProjectionError Tables :=
  match record.event with
  | .caseOpened target =>
    match insertRow caseClash tables.cases ⟨caseId, target, .opened, record.streamSeq⟩ with
    | some cases => .ok { tables with cases }
    | none => .error .uniqueViolation
  | .reportSubmitted .. => .ok (updateCase tables caseId .opened record.streamSeq)
  | .contentHidden _ =>
    setModerationTargetVisibility (updateCase tables caseId .hidden record.streamSeq) caseId .hidden
  | .caseDismissed _ => .ok (updateCase tables caseId .dismissed record.streamSeq)
  | .contentRestored _ =>
    setModerationTargetVisibility (updateCase tables caseId .restored record.streamSeq) caseId .visible

/-- The stored events of a case, folded one after another. -/
def foldAll (tables : Tables) (caseId : Uuid) (records : List ModerationRecord) :
    Except ProjectionError Tables :=
  records.foldlM (fun tables record => foldModerationEvent tables caseId record) tables

/-- The target of the first `CaseOpened`. -/
def openedTarget (records : List ModerationRecord) : Option PublicContentRef :=
  records.findSome? fun record =>
    match record.event with
    | .caseOpened target => some target
    | _ => none

/-- What `rebuild_moderation_stream` deletes of a case. -/
def clearCase (tables : Tables) (caseId : Uuid) (target : PublicContentRef) : Tables :=
  { tables with
    targets := tables.targets.delete (· = target)
    cases := tables.cases.filter (·.caseId ≠ caseId) }

def rebuildModerationStream (tables : Tables) (caseId : Uuid) (records : List ModerationRecord) :
    Except ProjectionError Tables :=
  match openedTarget records with
  | none => .ok tables
  | some target => foldAll (clearCase tables caseId target) caseId records

/-! ## What a case says of its target -/

/-- The visibility an event gives its target, if it is about that. -/
def ModerationEvent.visibility : ModerationEvent → Option TargetVisibility
  | .contentHidden _ => some .hidden
  | .contentRestored _ => some .visible
  | _ => none

/-- Whether the target is hidden after one more event. -/
def hiddenAfter (hidden : Bool) (record : ModerationRecord) : Bool :=
  match record.event.visibility with
  | some visibility => visibility = .hidden
  | none => hidden

/-- Whether the target is hidden after the events of its case. -/
def caseHidden (records : List ModerationRecord) (start : Bool) : Bool := records.foldl hiddenAfter start

/-- What is hidden after the events of the case of one target. -/
def hiddenBy (hidden : PublicContentRef → Bool) (target : PublicContentRef)
    (records : List ModerationRecord) : PublicContentRef → Bool :=
  fun ref => if ref = target then caseHidden records (hidden ref) else hidden ref

/-- Either the events decide alone, or they do not decide. -/
theorem caseHidden_const_or_id (records : List ModerationRecord) :
    (∀ a b, caseHidden records a = caseHidden records b) ∨ ∀ a, caseHidden records a = a := by
  induction records with
  | nil => exact .inr fun _ => rfl
  | cons record records ih =>
    have hcons : ∀ a, caseHidden (record :: records) a = caseHidden records (hiddenAfter a record) :=
      fun _ => rfl
    obtain hconst | hid := ih
    · exact .inl fun a b => by rw [hcons, hcons, hconst]
    · cases hvisibility : record.event.visibility with
      | some visibility => exact .inl fun a b => by simp [hcons, hiddenAfter, hvisibility]
      | none => exact .inr fun a => by rw [hcons, hid, hiddenAfter, hvisibility]

theorem caseHidden_replay (records : List ModerationRecord) (start : Bool) :
    caseHidden records (caseHidden records start) = caseHidden records start := by
  obtain hconst | hid := caseHidden_const_or_id records
  · exact hconst _ _
  · exact hid _

/-! ## What the fold does -/

variable {tables tables' : Tables} {hidden : PublicContentRef → Bool} {topicId caseId : Uuid}
  {target : PublicContentRef} {aggregate : TopicAggregate}

/-- The ids and targets of the cases. -/
def Tables.caseKeys (tables : Tables) : List (Uuid × PublicContentRef) :=
  tables.cases.map fun row => (row.caseId, row.target)

/-- No two cases share an id or a target. -/
structure CasesKeyed (tables : Tables) : Prop where
  ids : (tables.caseKeys.map (·.1)).Nodup
  targets : (tables.caseKeys.map (·.2)).Nodup

theorem caseKeys_updateCase (tables : Tables) (caseId : Uuid) (status : ModerationCaseStatus)
    (version : Int) : (updateCase tables caseId status version).caseKeys = tables.caseKeys := by
  unfold updateCase Tables.caseKeys
  rw [List.map_map]
  refine List.map_congr_left fun row _ => ?_
  simp only [Function.comp_apply]
  split <;> rfl

theorem CasesKeyed.eq_of_mem (h : CasesKeyed tables) {other : PublicContentRef}
    (hkey : (caseId, target) ∈ tables.caseKeys) (hother : (caseId, other) ∈ tables.caseKeys) :
    other = target :=
  (Prod.mk.inj (List.inj_on_of_nodup_map h.ids hother hkey rfl)).2

theorem CasesKeyed.target_eq (h : CasesKeyed tables) (hkey : (caseId, target) ∈ tables.caseKeys)
    {row : CaseRow} (hrow : tables.cases.find? (·.caseId = caseId) = some row) : row.target = target := by
  have hid : row.caseId = caseId := by simpa using List.find?_some hrow
  have hmem : (caseId, row.target) ∈ tables.caseKeys :=
    List.mem_map.2 ⟨row, List.mem_of_find?_eq_some hrow, by rw [hid]⟩
  exact h.eq_of_mem hkey hmem

/-- What is hidden once the visibility of one target is written. -/
def hiddenWith (hidden : PublicContentRef → Bool) (target : PublicContentRef)
    (visibility : TargetVisibility) : PublicContentRef → Bool :=
  fun ref => if ref = target then decide (visibility = .hidden) else hidden ref

theorem caseKeys_clearCase (tables : Tables) (caseId : Uuid) (target : PublicContentRef) :
    (clearCase tables caseId target).caseKeys = tables.caseKeys.filter (·.1 ≠ caseId) := by
  unfold clearCase Tables.caseKeys
  rw [List.filter_map]
  rfl

theorem CasesKeyed.clearCase (h : CasesKeyed tables) (caseId : Uuid) (target : PublicContentRef) :
    CasesKeyed (clearCase tables caseId target) := by
  refine ⟨?_, ?_⟩ <;> rw [caseKeys_clearCase]
  · exact h.ids.sublist (List.filter_sublist.map _)
  · exact h.targets.sublist (List.filter_sublist.map _)

theorem hidden_clearCase (tables : Tables) (caseId : Uuid) (target ref : PublicContentRef) :
    (clearCase tables caseId target).hidden ref = if ref = target then false else tables.hidden ref := by
  unfold clearCase Tables.hidden
  by_cases href : ref = target <;> simp [href]

theorem hidden_showTarget (tables : Tables) (target : PublicContentRef) (visibility : TargetVisibility) :
    (showTarget tables target visibility).hidden = hiddenWith tables.hidden target visibility := by
  funext ref
  unfold Tables.hidden showTarget hiddenWith
  by_cases href : ref = target
  · subst href
    simp
  · simp [href]

theorem postShown_target (visibility : TargetVisibility) (href : String) {seq : Int}
    (post : Option PostState) (htarget : (⟨topicId, seq⟩ : PublicContentRef) = target) :
    (post.map (postShown hidden topicId href seq)).map ({ · with visible := visibility = .visible }) =
      post.map (postShown (hiddenWith hidden target visibility) topicId href seq) := by
  cases post with
  | none => rfl
  | some post => cases visibility <;> simp [postShown, hiddenWith, htarget]

theorem postShown_other (visibility : TargetVisibility) (href : String) {seq : Int}
    (hother : (⟨topicId, seq⟩ : PublicContentRef) ≠ target) :
    postShown (hiddenWith hidden target visibility) topicId href seq = postShown hidden topicId href seq := by
  funext post
  simp [postShown, hiddenWith, hother]

/-- The target's publication and document follow its moderation state. -/
theorem PostsAgree.showTarget {href : String} {posts : Int → Option PostState}
    (h : PostsAgree tables hidden topicId href posts) (target : PublicContentRef)
    (visibility : TargetVisibility) :
    PostsAgree (showTarget tables target visibility) (hiddenWith hidden target visibility) topicId href
      posts where
  rows := h.rows
  positive := h.positive
  publications seq := by
    have hpublication := h.publications seq
    unfold Publications.showTarget
    dsimp only
    by_cases htarget : (⟨topicId, seq⟩ : PublicContentRef) = target
    · rw [Rows.update_of_chosen (by simp [htarget]), Option.map_map]
      refine Eq.trans ?_ (postShown_target visibility href _ htarget)
      rw [← hpublication, Option.map_map]
      rfl
    · rw [Rows.update_of_not (by simp [htarget]), postShown_other visibility href htarget]
      exact hpublication
  documents seq := by
    have hdocument := h.documents seq
    unfold Publications.showTarget
    dsimp only
    by_cases htarget : (⟨topicId, seq⟩ : PublicContentRef) = target
    · rw [Rows.update_of_chosen (by simp [← htarget]), Option.map_map]
      refine Eq.trans ?_ (postShown_target visibility href _ htarget)
      rw [← hdocument, Option.map_map]
      rfl
    · have hparts : ¬ (topicId = target.surfaceId ∧ seq = target.sourceSeq) := fun hsame =>
        htarget (by rw [hsame.1, hsame.2])
      rw [Rows.update_of_not (by simpa using hparts), postShown_other visibility href htarget]
      exact hdocument

theorem TopicAgrees.showTarget (h : TopicAgrees tables hidden topicId aggregate)
    (target : PublicContentRef) (visibility : TargetVisibility) :
    TopicAgrees (showTarget tables target visibility) (hiddenWith hidden target visibility) topicId
      aggregate :=
  ⟨h.topic, h.unopened, h.surface, h.posts.showTarget target visibility⟩

/-- What folding the events of a case does: the moderation state of its target, and what is shown of it,
change together. -/
structure Moderates (tables tables' : Tables) (target : PublicContentRef)
    (records : List ModerationRecord) : Prop where
  hidden : tables'.hidden = hiddenBy tables.hidden target records
  areas : tables'.areas = tables.areas
  keys : tables'.caseKeys = tables.caseKeys
  topics : ∀ {hidden : PublicContentRef → Bool} {topicId : Uuid} {aggregate : TopicAggregate},
    TopicAgrees tables hidden topicId aggregate →
      TopicAgrees tables' (hiddenBy hidden target records) topicId aggregate

/-- The opening of a case. -/
def opensCase (record : ModerationRecord) : Bool :=
  match record.event with
  | .caseOpened _ => true
  | _ => false

theorem hiddenBy_cons (hidden : PublicContentRef → Bool) (target : PublicContentRef)
    (record : ModerationRecord) (records : List ModerationRecord) :
    hiddenBy (hiddenBy hidden target [record]) target records =
      hiddenBy hidden target (record :: records) := by
  funext ref
  unfold hiddenBy
  by_cases href : ref = target
  · simp only [if_pos href]
    rfl
  · simp only [if_neg href]

variable {record : ModerationRecord}

theorem Moderates.trans {tables'' : Tables} {records : List ModerationRecord}
    (h : Moderates tables tables' target [record]) (h' : Moderates tables' tables'' target records) :
    Moderates tables tables'' target (record :: records) where
  hidden := by rw [h'.hidden, h.hidden, hiddenBy_cons]
  areas := h'.areas.trans h.areas
  keys := h'.keys.trans h.keys
  topics hagree := hiddenBy_cons _ target record records ▸ h'.topics (h.topics hagree)

/-- An event of the case that does not concern its visibility. -/
theorem moderates_updateCase (hquiet : record.event.visibility = none)
    (target : PublicContentRef) (status : ModerationCaseStatus) (version : Int) :
    Moderates tables (updateCase tables caseId status version) target [record] := by
  have hsame : ∀ hidden : PublicContentRef → Bool, hiddenBy hidden target [record] = hidden := by
    intro hidden
    funext ref
    simp [hiddenBy, caseHidden, hiddenAfter, hquiet]
  refine ⟨(hsame _).symm, rfl, caseKeys_updateCase _ _ _ _, fun hagree => ?_⟩
  rw [hsame]
  exact hagree.congr ⟨rfl, fun _ => rfl, rfl, fun _ => rfl, fun _ => rfl⟩ fun _ _ => id

/-- An event of the case that shows or hides its target. -/
theorem moderates_setVisibility {visibility : TargetVisibility}
    (hkeyed : CasesKeyed tables) (hkey : (caseId, target) ∈ tables.caseKeys)
    (hvisibility : record.event.visibility = some visibility) {status : ModerationCaseStatus}
    {version : Int}
    (hok : setModerationTargetVisibility (updateCase tables caseId status version) caseId visibility =
      .ok tables') :
    Moderates tables tables' target [record] := by
  have hkeys := caseKeys_updateCase tables caseId status version
  have hkeyed' : CasesKeyed (updateCase tables caseId status version) :=
    ⟨by rw [hkeys]; exact hkeyed.ids, by rw [hkeys]; exact hkeyed.targets⟩
  unfold setModerationTargetVisibility at hok
  split at hok
  case h_1 => simp at hok
  case h_2 row hrow =>
    obtain rfl := Except.ok.inj hok
    rw [hkeyed'.target_eq (by rw [hkeys]; exact hkey) hrow]
    have hwritten : ∀ hidden : PublicContentRef → Bool,
        hiddenBy hidden target [record] = hiddenWith hidden target visibility := by
      intro hidden
      funext ref
      simp [hiddenBy, caseHidden, hiddenAfter, hvisibility, hiddenWith]
    refine ⟨?_, rfl, hkeys, fun hagree => ?_⟩
    · rw [hidden_showTarget, hwritten]
      rfl
    · rw [hwritten]
      have hcase : TopicAgrees (updateCase tables caseId status version) _ _ _ :=
        hagree.congr ⟨rfl, fun _ => rfl, rfl, fun _ => rfl, fun _ => rfl⟩ fun _ _ => id
      exact hcase.showTarget target visibility

/-- One event of an open case. -/
theorem foldModerationEvent_moderates (hkeyed : CasesKeyed tables)
    (hkey : (caseId, target) ∈ tables.caseKeys) (hopen : opensCase record = false)
    (hok : foldModerationEvent tables caseId record = .ok tables') :
    Moderates tables tables' target [record] := by
  unfold foldModerationEvent at hok
  cases hevent : record.event with
  | caseOpened => simp [opensCase, hevent] at hopen
  | reportSubmitted | caseDismissed =>
    simp only [hevent] at hok
    obtain rfl := Except.ok.inj hok
    exact moderates_updateCase (by rw [hevent]; rfl) _ _ _
  | contentHidden | contentRestored =>
    simp only [hevent] at hok
    exact moderates_setVisibility hkeyed hkey (by rw [hevent]; rfl) hok

/-- **The events of an open case** change what is shown of its target as they change its moderation
state. -/
theorem foldAll_moderates {records : List ModerationRecord} (hkeyed : CasesKeyed tables)
    (hkey : (caseId, target) ∈ tables.caseKeys) (hopen : ∀ record ∈ records, opensCase record = false)
    (hok : foldAll tables caseId records = .ok tables') : Moderates tables tables' target records := by
  induction records generalizing tables with
  | nil =>
    obtain rfl := Except.ok.inj hok
    have hsame : ∀ hidden : PublicContentRef → Bool, hiddenBy hidden target [] = hidden := fun hidden =>
      funext fun ref => by simp [hiddenBy, caseHidden]
    exact ⟨(hsame _).symm, rfl, rfl, fun hagree => by rw [hsame]; exact hagree⟩
  | cons record records ih =>
    unfold foldAll at hok
    rw [List.foldlM_cons] at hok
    obtain ⟨folded, hfolded, hrest⟩ := Fallible.bind_eq_ok.1 hok
    have hfirst := foldModerationEvent_moderates hkeyed hkey (hopen record List.mem_cons_self) hfolded
    refine hfirst.trans (ih ?_ ?_ (fun other hother => hopen other (List.mem_cons_of_mem _ hother)) hrest)
    · exact ⟨by rw [hfirst.keys]; exact hkeyed.ids, by rw [hfirst.keys]; exact hkeyed.targets⟩
    · rw [hfirst.keys]
      exact hkey

end Fmarch.Projections.Publications
