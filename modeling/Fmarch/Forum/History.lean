import Fmarch.Forum.Replay

/-!
# Which histories a topic loads from

`WellFormed` says of a stored history, record by record, what a replay may rely on: stream versions
without a gap, increasing positions, the creation first and once, and edits and retractions of posts that
the records before them submitted and did not retract, an edit at the next revision.

**`replay_wellFormed`**: exactly these histories are accepted, and the aggregate they load has their last
version, keeps the number of its edits with every post, and lets nothing edit a post once it is retracted.
-/

namespace Fmarch.Forum

open Platform Domain

/-! ## What a history says -/

/-- The record submits the post at a position. -/
def ForumEventRecord.submits (post : Int) (record : ForumEventRecord) : Bool :=
  match record.event with
  | .postSubmitted .. => record.sourceSeq == post
  | _ => false

/-- The record edits the post. -/
def ForumEventRecord.edits (post : Int) (record : ForumEventRecord) : Bool :=
  match record.event with
  | .postEdited sourceSeq .. => sourceSeq == post
  | _ => false

/-- The record retracts the post. -/
def ForumEventRecord.retracts (post : Int) (record : ForumEventRecord) : Bool :=
  match record.event with
  | .postRetracted sourceSeq => sourceSeq == post
  | _ => false

/-- The record creates the topic. -/
def ForumEventRecord.creates (record : ForumEventRecord) : Bool :=
  match record.event with
  | .topicCreated .. => true
  | _ => false

/-- How often the records edit the post. -/
def editsOf (records : List ForumEventRecord) (post : Int) : Nat := records.countP (·.edits post)

/-- The records submit the post and do not retract it. -/
def Standing (records : List ForumEventRecord) (post : Int) : Prop :=
  (∃ record ∈ records, record.submits post = true) ∧ ∀ record ∈ records, record.retracts post = false

/-- A fact that may follow the records before it. -/
def FactOk (before : List ForumEventRecord) : DecodedForumEvent → Prop
  | .areaCreated .. => False
  | .topicCreated .. => before = []
  | .postEdited post _ _ revision =>
    before ≠ [] ∧ Standing before post ∧ revision = editsOf before post + 1
  | .postRetracted post => before ≠ [] ∧ Standing before post
  | _ => before ≠ []

/-- A record that may follow those before it. -/
structure RecordOk (before : List ForumEventRecord) (record : ForumEventRecord) : Prop where
  contiguous : record.streamSeq = before.length + 1
  inRange : IsI64 record.streamSeq
  positive : 0 < record.sourceSeq
  later : ∀ earlier ∈ before, earlier.sourceSeq < record.sourceSeq
  fact : FactOk before record.event

/-- Every record may follow those before it. -/
def WellFormed (records : List ForumEventRecord) : Prop :=
  ∀ before record after, records = before ++ record :: after → RecordOk before record

/-! ## The aggregate of a history -/

/-- The posts are those of the records. -/
structure PostsHold (posts : BTreeMap Int PostState) (records : List ForumEventRecord) : Prop where
  submitted : ∀ post, posts[post]?.isSome ↔ ∃ record ∈ records, record.submits post = true
  named : ∀ post, (∃ record ∈ records, (record.edits post || record.retracts post) = true) →
    posts[post]?.isSome
  revision : ∀ post state, posts[post]? = some state → state.revision = (editsOf records post : Int)
  retracted : ∀ post state, posts[post]? = some state →
    (state.retracted = true ↔ ∃ record ∈ records, record.retracts post = true)

/-- The aggregate is that of the records, and the replay has come to their last one. -/
structure TopicAggregate.Holds (aggregate : TopicAggregate) (records : List ForumEventRecord) :
    Prop where
  opened : aggregate.state = none ↔ records = []
  version : aggregate.version = lastOf (·.streamSeq) 0 records
  contiguous : lastOf (·.streamSeq) 0 records = records.length
  started : 0 ≤ lastOf (·.sourceSeq) 0 records
  positions : ∀ record ∈ records, record.sourceSeq ≤ lastOf (·.sourceSeq) 0 records
  posts : PostsHold aggregate.posts records

/-- The fold takes the record. -/
def TopicAggregate.Takes (aggregate : TopicAggregate) (record : ForumEventRecord) : Prop :=
  match record.event with
  | .areaCreated .. => False
  | .topicCreated .. => aggregate.state = none ∧ record.streamSeq = 1
  | .postEdited sourceSeq _ _ revision =>
    aggregate.state ≠ none ∧ ∃ post, aggregate.posts[sourceSeq]? = some post ∧
      post.retracted = false ∧ checkedAdd post.revision 1 = some revision
  | .postRetracted sourceSeq =>
    aggregate.state ≠ none ∧ ∃ post, aggregate.posts[sourceSeq]? = some post ∧ post.retracted = false
  | _ => aggregate.state ≠ none

section Histories

variable (topicId : Uuid) {aggregate next : TopicAggregate} {records before : List ForumEventRecord}
  {record : ForumEventRecord}

theorem fold_eq_ok : aggregate.fold topicId record = .ok next ↔
    aggregate.Takes record ∧ aggregate.evolve topicId record = next := by
  unfold TopicAggregate.fold TopicAggregate.Takes TopicAggregate.evolve
  cases hevent : record.event with
  | areaCreated => cases aggregate.state <;> simp [TopicAggregate.foldFact, hevent, invalid]
  | topicCreated => cases aggregate.state <;> by_cases hfirst : record.streamSeq = 1 <;>
      simp [hfirst, invalid]
  | postEdited sourceSeq body mentions revision =>
    cases hstate : aggregate.state with
    | none => simp [invalid]
    | some state =>
      cases hpost : aggregate.posts[sourceSeq]? with
      | none => simp [TopicAggregate.foldFact, hevent, hpost, invalid]
      | some post =>
        by_cases hkept : post.retracted = false ∧ checkedAdd post.revision 1 = some revision
        · simp [TopicAggregate.foldFact, hevent, hpost, hkept]
        · have hrefused : post.retracted = true ∨ checkedAdd post.revision 1 ≠ some revision := by
            simpa [or_iff_not_imp_left] using hkept
          simp [TopicAggregate.foldFact, hevent, hpost, hkept, hrefused, invalid]
  | postRetracted sourceSeq =>
    cases hstate : aggregate.state with
    | none => simp [invalid]
    | some state =>
      cases hpost : aggregate.posts[sourceSeq]? with
      | none => simp [TopicAggregate.foldFact, hevent, hpost, invalid]
      | some post =>
        by_cases hkept : post.retracted = true
        · simp [TopicAggregate.foldFact, hevent, hpost, hkept, invalid]
        · simp [TopicAggregate.foldFact, hevent, hpost, hkept]
  | _ => cases aggregate.state <;> simp [TopicAggregate.foldFact, hevent, invalid]

/-! ## One record -/

theorem posts_insert (posts : BTreeMap Int PostState) (at' post : Int) (state : PostState) :
    (posts.insert at' state)[post]? = if at' = post then some state else posts[post]? := by
  rw [Std.TreeMap.getElem?_insert]
  simp only [Std.LawfulEqCmp.compare_eq_iff_eq]

theorem exists_mem_concat {p : ForumEventRecord → Bool} : (∃ other ∈ records ++ [record], p other = true) ↔
      (∃ other ∈ records, p other = true) ∨ p record = true := by
  simp [or_and_right, exists_or]

theorem editsOf_concat (post : Int) : editsOf (records ++ [record]) post =
      editsOf records post + if record.edits post then 1 else 0 := by
  simp [editsOf, List.countP_append, List.countP_cons]

theorem editsOf_le (records : List ForumEventRecord) (post : Int) : editsOf records post ≤ records.length :=
  List.countP_le_length

theorem editsOf_eq_zero {post : Int} : editsOf records post = 0 ↔
    ∀ record ∈ records, record.edits post = false := by
  simp [editsOf, List.countP_eq_zero]

section Posts

variable {posts : BTreeMap Int PostState}

/-- A record that is about no post. -/
theorem PostsHold.plain (h : PostsHold posts records) (hsubmits : ∀ post, record.submits post = false)
    (hedits : ∀ post, record.edits post = false) (hretracts : ∀ post, record.retracts post = false) :
    PostsHold posts (records ++ [record]) where
  submitted post := by
    rw [exists_mem_concat, hsubmits]
    simpa using h.submitted post
  named post hnamed := by
    rw [exists_mem_concat, hedits, hretracts] at hnamed
    exact h.named post (by simpa using hnamed)
  revision post state hstate := by
    rw [editsOf_concat, hedits]
    simpa using h.revision post state hstate
  retracted post state hstate := by
    rw [exists_mem_concat, hretracts]
    simpa using h.retracted post state hstate

/-- A record that submits a post at a position past those of the records. -/
theorem PostsHold.submit (h : PostsHold posts records) {state : PostState}
    (later : ∀ earlier ∈ records, earlier.sourceSeq < record.sourceSeq)
    (hsubmits : ∀ post, record.submits post = (record.sourceSeq == post))
    (hedits : ∀ post, record.edits post = false) (hretracts : ∀ post, record.retracts post = false)
    (hrevision : state.revision = 0) (hkept : state.retracted = false) :
    PostsHold (posts.insert record.sourceSeq state) (records ++ [record]) := by
  -- Nothing was said of a post at the new position before.
  have hfresh : ∀ other ∈ records,
      (other.edits record.sourceSeq || other.retracts record.sourceSeq) = false := by
    intro other hother
    by_contra hnamed
    obtain ⟨earlier, hearlier, hsubmitted⟩ := (h.submitted _).1
      (h.named record.sourceSeq ⟨other, hother, Bool.eq_true_of_not_eq_false hnamed⟩)
    have hposition : earlier.sourceSeq = record.sourceSeq := by
      unfold ForumEventRecord.submits at hsubmitted
      split at hsubmitted
      · exact eq_of_beq hsubmitted
      · cases hsubmitted
    exact absurd (later earlier hearlier) (by omega)
  simp only [Bool.or_eq_false_iff] at hfresh
  refine ⟨fun post => ?_, fun post hnamed => ?_, fun post other hother => ?_, fun post other hother => ?_⟩
  · rw [exists_mem_concat, hsubmits, posts_insert]
    by_cases hpost : record.sourceSeq = post
    · simp [hpost]
    · simpa [hpost] using h.submitted post
  · rw [exists_mem_concat, hedits, hretracts] at hnamed
    rw [posts_insert]
    split
    · rfl
    · exact h.named post (by simpa using hnamed)
  · rw [editsOf_concat, hedits]
    rw [posts_insert] at hother
    split at hother
    · rename_i hpost
      obtain rfl := Option.some.inj hother
      rw [← hpost, hrevision, editsOf_eq_zero.2 fun earlier hearlier => (hfresh earlier hearlier).1]
      rfl
    · simpa using h.revision post other hother
  · rw [exists_mem_concat, hretracts]
    rw [posts_insert] at hother
    split at hother
    · rename_i hpost
      obtain rfl := Option.some.inj hother
      rw [← hpost, hkept]
      simpa using fun earlier hearlier => (hfresh earlier hearlier).2
    · simpa using h.retracted post other hother

/-- A record that edits or retracts a post. -/
theorem PostsHold.rewrite (h : PostsHold posts records) {sourceSeq : Int} {state edited : PostState}
    (hstate : posts[sourceSeq]? = some state) (hsubmits : ∀ post, record.submits post = false)
    (hnames : ∀ post, (record.edits post || record.retracts post) = true → sourceSeq = post)
    (hrevision : edited.revision = state.revision + if record.edits sourceSeq then 1 else 0)
    (hretracted : edited.retracted = (state.retracted || record.retracts sourceSeq)) :
    PostsHold (posts.insert sourceSeq edited) (records ++ [record]) := by
  have hother : ∀ post, sourceSeq ≠ post → record.edits post = false ∧ record.retracts post = false := by
    intro post hpost
    by_contra hnamed
    refine hpost (hnames post (Bool.eq_true_of_not_eq_false fun hnone => hnamed ?_))
    exact Bool.or_eq_false_iff.1 hnone
  refine ⟨fun post => ?_, fun post hnamed => ?_, fun post other hfound => ?_, fun post other hfound => ?_⟩
  · rw [exists_mem_concat, hsubmits, posts_insert]
    by_cases hpost : sourceSeq = post
    · subst hpost
      have hsubmitted := (h.submitted sourceSeq).1 (by simp [hstate])
      simpa using hsubmitted
    · simpa [hpost] using h.submitted post
  · rw [posts_insert]
    split
    · rfl
    · rename_i hpost
      rw [exists_mem_concat, (hother post hpost).1, (hother post hpost).2] at hnamed
      exact h.named post (by simpa using hnamed)
  · rw [editsOf_concat]
    rw [posts_insert] at hfound
    split at hfound
    · rename_i hpost
      subst hpost
      obtain rfl := Option.some.inj hfound
      rw [hrevision, h.revision sourceSeq state hstate]
      split <;> simp
    · rename_i hpost
      rw [(hother post hpost).1]
      simpa using h.revision post other hfound
  · rw [exists_mem_concat]
    rw [posts_insert] at hfound
    split at hfound
    · rename_i hpost
      subst hpost
      obtain rfl := Option.some.inj hfound
      rw [hretracted, Bool.or_eq_true, h.retracted sourceSeq state hstate]
    · rename_i hpost
      rw [(hother post hpost).2]
      simpa using h.retracted post other hfound

end Posts

theorem TopicAggregate.Holds.standing_iff (h : aggregate.Holds records) {post : Int} : Standing records post ↔
      ∃ state, aggregate.posts[post]? = some state ∧ state.retracted = false := by
  constructor
  · rintro ⟨hsubmitted, hkept⟩
    obtain ⟨state, hstate⟩ := Option.isSome_iff_exists.1 ((h.posts.submitted post).2 hsubmitted)
    refine ⟨state, hstate, Bool.eq_false_of_not_eq_true fun hretracted => ?_⟩
    obtain ⟨other, hother, hretracts⟩ := (h.posts.retracted post state hstate).1 hretracted
    rw [hkept other hother] at hretracts
    cases hretracts
  · rintro ⟨state, hstate, hkept⟩
    refine ⟨(h.posts.submitted post).1 (by simp [hstate]), fun other hother => ?_⟩
    refine Bool.eq_false_of_not_eq_true fun hretracts => ?_
    rw [(h.posts.retracted post state hstate).2 ⟨other, hother, hretracts⟩] at hkept
    cases hkept

/-- The fold takes a record in its position exactly if it may follow those before it. -/
theorem TopicAggregate.Holds.takes_iff (h : aggregate.Holds records)
    (hseq : record.streamSeq = records.length + 1) (hrange : IsI64 record.streamSeq) :
    aggregate.Takes record ↔ FactOk records record.event := by
  have hopened : aggregate.state ≠ none ↔ records ≠ [] := not_congr h.opened
  unfold TopicAggregate.Takes FactOk
  cases hevent : record.event with
  | areaCreated => exact Iff.rfl
  | topicCreated =>
    refine ⟨fun htakes => h.opened.1 htakes.1, fun hempty => ⟨h.opened.2 hempty, ?_⟩⟩
    rw [hseq, hempty]
    rfl
  | postEdited post body mentions revision =>
    dsimp only
    rw [hopened, h.standing_iff]
    refine and_congr_right fun _ => ⟨?_, ?_⟩
    · rintro ⟨state, hstate, hkept, hnext⟩
      refine ⟨⟨state, hstate, hkept⟩, ?_⟩
      rw [(checkedAdd_eq_some.1 hnext).2, h.posts.revision post state hstate]
    · rintro ⟨⟨state, hstate, hkept⟩, hnext⟩
      refine ⟨state, hstate, hkept, checkedAdd_eq_some.2 ⟨?_, ?_⟩⟩
      · have hcount := editsOf_le records post
        unfold IsI64 at hrange ⊢
        omega
      · rw [hnext, h.posts.revision post state hstate]
  | postRetracted post =>
    dsimp only
    rw [hopened, h.standing_iff]
  | _ => exact hopened

theorem evolve_opened (h : aggregate.Takes record) : (aggregate.evolve topicId record).state ≠ none ∧
      (aggregate.evolve topicId record).version = record.streamSeq := by
  unfold TopicAggregate.Takes at h
  unfold TopicAggregate.evolve TopicAggregate.version
  cases hevent : record.event with
  | areaCreated => simp [hevent] at h
  | topicCreated => simp [TopicAggregate.createdState]
  | postEdited | postRetracted =>
    simp only [hevent] at h
    obtain ⟨hopened, state, hstate, -⟩ := h
    obtain ⟨topic, htopic⟩ := Option.ne_none_iff_exists'.1 hopened
    simp [hstate, htopic]
  | _ =>
    simp only [hevent] at h
    obtain ⟨topic, htopic⟩ := Option.ne_none_iff_exists'.1 h
    simp [htopic]

theorem evolve_posts (h : PostsHold aggregate.posts records) (htakes : aggregate.Takes record)
    (later : ∀ earlier ∈ records, earlier.sourceSeq < record.sourceSeq) :
    PostsHold (aggregate.evolve topicId record).posts (records ++ [record]) := by
  unfold TopicAggregate.Takes at htakes
  have hplain : ∀ posts, posts = aggregate.posts → (∀ post, record.submits post = false) →
      (∀ post, record.edits post = false) → (∀ post, record.retracts post = false) →
      PostsHold posts (records ++ [record]) := by
    rintro posts rfl hsubmits hedits hretracts
    exact h.plain hsubmits hedits hretracts
  cases hevent : record.event with
  | postSubmitted =>
    simp only [TopicAggregate.evolve, hevent]
    refine h.submit later (fun post => ?_) (fun post => ?_) (fun post => ?_) rfl rfl
    · simp [ForumEventRecord.submits, hevent]
    · simp [ForumEventRecord.edits, hevent]
    · simp [ForumEventRecord.retracts, hevent]
  | postEdited sourceSeq body mentions revision =>
    simp only [hevent] at htakes
    obtain ⟨-, state, hstate, -, hnext⟩ := htakes
    simp only [TopicAggregate.evolve, hevent, hstate]
    refine h.rewrite hstate (fun post => ?_) (fun post hnames => ?_) ?_ ?_
    · simp [ForumEventRecord.submits, hevent]
    · simpa [ForumEventRecord.edits, ForumEventRecord.retracts, hevent] using hnames
    · simp [ForumEventRecord.edits, hevent, (checkedAdd_eq_some.1 hnext).2]
    · simp [ForumEventRecord.retracts, hevent]
  | postRetracted sourceSeq =>
    simp only [hevent] at htakes
    obtain ⟨-, state, hstate, -⟩ := htakes
    simp only [TopicAggregate.evolve, hevent, hstate]
    refine h.rewrite hstate (fun post => ?_) (fun post hnames => ?_) ?_ ?_
    · simp [ForumEventRecord.submits, hevent]
    · simpa [ForumEventRecord.edits, ForumEventRecord.retracts, hevent] using hnames
    · simp [ForumEventRecord.edits, hevent]
    · simp [ForumEventRecord.retracts, hevent]
  | _ =>
    refine hplain _ (by simp [TopicAggregate.evolve, hevent]) (fun post => ?_) (fun post => ?_)
      (fun post => ?_)
    · simp [ForumEventRecord.submits, hevent]
    · simp [ForumEventRecord.edits, hevent]
    · simp [ForumEventRecord.retracts, hevent]

/-- The aggregate after one more record is that of the records with it. -/
theorem TopicAggregate.Holds.evolve (h : aggregate.Holds records) (ok : RecordOk records record)
    (htakes : aggregate.Takes record) :
    (aggregate.evolve topicId record).Holds (records ++ [record]) := by
  obtain ⟨hopened, hversion⟩ := evolve_opened topicId htakes
  have hpositive := ok.positive
  refine ⟨by simp [hopened], ?_, ?_, ?_, fun earlier hearlier => ?_,
    evolve_posts topicId h.posts htakes ok.later⟩
  · rw [lastOf_append, hversion]
  · rw [lastOf_append, ok.contiguous]
    simp
  · rw [lastOf_append]
    omega
  · rw [lastOf_append]
    rcases List.mem_append.1 hearlier with hold | hnew
    · have hlater := ok.later earlier hold
      omega
    · rw [List.mem_singleton.1 hnew]

/-! ## A whole history -/

theorem validatePosition_eq_ok {version lastSeq : Int} : validatePosition record version lastSeq = .ok () ↔
      (IsI64 record.streamSeq ∧ record.streamSeq = version + 1) ∧ lastSeq < record.sourceSeq := by
  unfold validatePosition
  rw [← checkedAdd_eq_some]
  by_cases hnext : checkedAdd version 1 = some record.streamSeq
  · by_cases hlater : record.sourceSeq ≤ lastSeq
    · simp [hnext, hlater, invalid]
    · simp [hnext, hlater]
      omega
  · simp [hnext, invalid]

/-- A record is taken where the replay has come to exactly if it may follow the records so far. -/
theorem TopicAggregate.Holds.step_iff (h : aggregate.Holds before) :
    (validatePosition record (lastOf (·.streamSeq) 0 before) (lastOf (·.sourceSeq) 0 before) = .ok () ∧
      aggregate.Takes record) ↔ RecordOk before record := by
  have hstarted := h.started
  rw [validatePosition_eq_ok, h.contiguous]
  constructor
  · rintro ⟨⟨⟨hrange, hseq⟩, hlater⟩, htakes⟩
    refine ⟨hseq, hrange, by omega, fun earlier hearlier => ?_, (h.takes_iff hseq hrange).1 htakes⟩
    have hposition := h.positions earlier hearlier
    omega
  · intro ok
    refine ⟨⟨⟨ok.inRange, ok.contiguous⟩, ?_⟩, (h.takes_iff ok.contiguous ok.inRange).2 ok.fact⟩
    rcases List.eq_nil_or_concat' before with rfl | ⟨earlier, last, rfl⟩
    · exact ok.positive
    · rw [lastOf_append]
      exact ok.later last (by simp)

/-- The records may follow one another after those before them. -/
def Follow (before records : List ForumEventRecord) : Prop :=
  ∀ earlier record later, records = earlier ++ record :: later → RecordOk (before ++ earlier) record

theorem follow_cons :
    Follow before (record :: records) ↔ RecordOk before record ∧ Follow (before ++ [record]) records := by
  constructor
  · intro hall
    refine ⟨by simpa using hall [] record records rfl, fun earlier other later hsplit => ?_⟩
    simpa using hall (record :: earlier) other later (by rw [hsplit]; rfl)
  · rintro ⟨ok, hrest⟩ earlier other later hsplit
    cases earlier with
    | nil =>
      obtain ⟨rfl, rfl⟩ := List.cons.inj hsplit
      rwa [List.append_nil]
    | cons first earlier =>
      obtain ⟨rfl, rfl⟩ := List.cons.inj hsplit
      simpa using hrest earlier other later rfl

/-- The replay of more records, on the aggregate of those so far. -/
theorem replayFrom_iff (h : aggregate.Holds before) {last : TopicAggregate} :
    TopicAggregate.replayFrom topicId aggregate (lastOf (·.streamSeq) 0 before)
        (lastOf (·.sourceSeq) 0 before) records = .ok last ↔
      records.foldl (.evolve topicId) aggregate = last ∧ Follow before records := by
  induction records generalizing aggregate before with
  | nil =>
    rw [TopicAggregate.replayFrom, Except.ok.injEq]
    exact (and_iff_left fun earlier record later hsplit => by simp at hsplit).symm
  | cons record records ih =>
    have hrest : RecordOk before record → aggregate.Takes record →
        (TopicAggregate.replayFrom topicId (aggregate.evolve topicId record) record.streamSeq
            record.sourceSeq records = .ok last ↔
          records.foldl (.evolve topicId) (aggregate.evolve topicId record) = last ∧
            Follow (before ++ [record]) records) := by
      intro ok htakes
      have hstep := ih (h.evolve topicId ok htakes)
      rwa [lastOf_append, lastOf_append] at hstep
    rw [TopicAggregate.replayFrom, List.foldl_cons, follow_cons]
    constructor
    · intro hall
      obtain ⟨_, hposition, hall⟩ := Fallible.bind_eq_ok.1 hall
      obtain ⟨next, hfold, hall⟩ := Fallible.bind_eq_ok.1 hall
      obtain ⟨htakes, rfl⟩ := (fold_eq_ok topicId).1 hfold
      have ok := h.step_iff.1 ⟨hposition, htakes⟩
      obtain ⟨hfolded, hlater⟩ := (hrest ok htakes).1 hall
      exact ⟨hfolded, ok, hlater⟩
    · rintro ⟨hfolded, ok, hlater⟩
      obtain ⟨hposition, htakes⟩ := h.step_iff.2 ok
      rw [hposition, (fold_eq_ok topicId).2 ⟨htakes, rfl⟩]
      exact (hrest ok htakes).2 ⟨hfolded, hlater⟩

theorem TopicAggregate.Holds.foldl (h : aggregate.Holds before) (hfollow : Follow before records) :
    (records.foldl (.evolve topicId) aggregate).Holds (before ++ records) := by
  induction records generalizing aggregate before with
  | nil => rwa [List.append_nil]
  | cons record records ih =>
    obtain ⟨ok, hrest⟩ := follow_cons.1 hfollow
    have hall := ih (h.evolve topicId ok (h.step_iff.2 ok).2) hrest
    rwa [List.append_assoc] at hall

theorem holds_nil : TopicAggregate.Holds {} [] where
  opened := iff_of_true rfl rfl
  version := rfl
  contiguous := rfl
  started := Int.le_refl 0
  positions _ hrecord := absurd hrecord List.not_mem_nil
  posts :=
    ⟨fun post => by simp, fun post hnamed => by simp at hnamed, fun post state hstate => by simp at hstate,
      fun post state hstate => by simp at hstate⟩

theorem replay_iff {last : TopicAggregate} : TopicAggregate.replay topicId records = .ok last ↔
    records.foldl (.evolve topicId) {} = last ∧ WellFormed records :=
  replayFrom_iff topicId holds_nil

/-- Nothing edits a post behind its retraction. -/
theorem WellFormed.editsOf_eq_zero {after : List ForumEventRecord} {post : Int}
    (h : WellFormed (before ++ record :: after)) (hretracts : record.retracts post = true) :
    editsOf after post = 0 := by
  refine Forum.editsOf_eq_zero.2 fun edit hedit => Bool.eq_false_of_not_eq_true fun hedits => ?_
  obtain ⟨earlier, later, rfl⟩ := List.append_of_mem hedit
  have ok := (h (before ++ record :: earlier) edit later (by simp)).fact
  unfold ForumEventRecord.edits at hedits
  split at hedits
  · rename_i sourceSeq body mentions revision hevent
    rw [hevent] at ok
    obtain ⟨-, ⟨-, hkept⟩, -⟩ := ok
    have hnone := hkept record (by simp)
    rw [eq_of_beq hedits, hretracts] at hnone
    cases hnone
  · cases hedits

/-- A replay accepts exactly the well-formed histories. Its aggregate has the last version and keeps with
every post the number of its edits, and no retracted post is edited behind its retraction. -/
theorem replay_wellFormed (topicId : Uuid) (records : List ForumEventRecord) :
    ((∃ aggregate, TopicAggregate.replay topicId records = .ok aggregate) ↔ WellFormed records) ∧
      ∀ aggregate, TopicAggregate.replay topicId records = .ok aggregate →
        aggregate.version = lastOf (·.streamSeq) 0 records ∧
        (∀ post state, aggregate.post post = some state → state.revision = (editsOf records post : Int)) ∧
        ∀ before record after post, records = before ++ record :: after →
          record.retracts post = true → editsOf after post = 0 := by
  refine ⟨⟨fun ⟨aggregate, h⟩ => ((replay_iff topicId).1 h).2,
    fun h => ⟨_, (replay_iff topicId).2 ⟨rfl, h⟩⟩⟩, ?_⟩
  intro aggregate h
  obtain ⟨rfl, hwellFormed⟩ := (replay_iff topicId).1 h
  have hholds := holds_nil.foldl topicId hwellFormed
  refine ⟨hholds.version, hholds.posts.revision, ?_⟩
  rintro before record after post rfl hretracts
  exact hwellFormed.editsOf_eq_zero hretracts

end Histories

/-- The post of the edited topic has been edited once, and its revision is one. -/
theorem editedTopic_revision : ∃ aggregate state, TopicAggregate.replay 7 editedTopic = .ok aggregate ∧
      aggregate.post 11 = some state ∧ state.revision ≠ 1 + (editsOf editedTopic 11 : Int) := by
  have hpost : editedTopicAggregate.post 11 =
      some ⟨7, 11, some 5, "Hello", [], false, 100, 1, false⟩ := by
    decide +kernel
  exact ⟨editedTopicAggregate, _, editedTopic_built.loaded.replayed, hpost, by decide⟩

end Fmarch.Forum
