import Fmarch.Lib.DerivedRows
import Fmarch.Projections.Rebuild

/-!
# Rebuilds beside appends

Every projected stream can be rebuilt while commands append to it (`rebuild_in_tx`,
`rebuild_discussion_stream`, `rebuild_moderation_stream`, `rebuild_subscription_stream`,
`rebuild_member_mute_stream`, `rebuild_member_inbox_cursor_stream`, `rebuild_profile_stream`). A rebuild
reads the stream's events, deletes rows and folds the events again; `load_fenced_rebuild_events` takes the
stream's lock before it reads them, so that no append is committed between. `rebuild_profile_stream` does
not call it: it only joins the writers' shared lease.

**`projected_rows_exact`**: whatever the order of the statements, the rows of a stream are the fold of its
stored events, if no rebuild of a profile writes its `member_profile` row when an append has been committed
since it read the events. For the six other kinds there is no condition.
**`profile_rebuild_undoes_append`**: one that does write it then leaves the profile as the older events
had it.

Of each stream only its own rows are kept here. The fold of a stream whose rebuild deletes all of them is
left open, as the result does not depend on it; that of a game is the one of `Rebuild`.
-/

namespace Fmarch.Projections.RebuildFence

open Platform Relation DerivedRows

/-! ## Streams whose rebuild deletes their rows -/

/-- `StoredEvent`, without its place in the log. -/
structure Stored (Payload : Type) where
  kind : String
  payload : Payload

section Replaced

variable {Table Key Row Payload : Type} [DecidableEq Table]

/-- `DELETE FROM …` of the stream's rows: those of the table, and of the tables it takes with it
(`ON DELETE CASCADE`). -/
def deleteFrom (tables : List Table) : Statement (Table × Key) Row :=
  .write
    { touches := fun rows key => decide (key.1 ∈ tables) && (rows key).isSome
      run := fun _ => some fun _ => none }

/-- A rebuild that deletes the stream's rows before it folds the events, if one of them is of the kind the
stream begins with. -/
def replacedStream [Inhabited Table] [Inhabited Key] (deletes : List (List Table)) (begins : String)
    (fold : Entry (Stored Payload) → List (Statement (Table × Key) Row)) :
    Program (Stored Payload) (Table × Key) Row where
  fold := fold
  clear _ := deletes.map deleteFrom
  begins log := log.any (·.event.kind == begins)
  fenced := true
  root := default
  lawful _ := True

theorem runAll_deletes (deletes : List (List Table)) (rows : Table × Key → Option Row) :
    runAll (deletes.map deleteFrom) rows =
      some fun key => if key.1 ∈ deletes.flatten then none else rows key := by
  induction deletes generalizing rows with
  | nil => simp
  | cons tables deletes ih =>
    rw [List.map_cons]
    unfold deleteFrom at ih ⊢
    rw [runAll_write rfl, ih]
    congr 1
    funext key
    unfold Write.over
    cases hrow : rows key <;> by_cases htable : key.1 ∈ tables <;> simp [htable, hrow]

theorem replays_replacedStream [Inhabited Table] [Inhabited Key] {deletes : List (List Table)}
    {begins : String} {fold : Entry (Stored Payload) → List (Statement (Table × Key) Row)}
    (hall : ∀ table, table ∈ deletes.flatten) : (replacedStream deletes begins fold).Replays := by
  refine Program.replays_of_clears _ trivial (fun log rows _ => ?_) rfl
  change runAll (deletes.map deleteFrom) rows = _
  rw [runAll_deletes]
  simp [hall]

end Replaced

section Deletes

variable {Key Row Payload : Type}

/-- The rows of a topic: of its inbox references those of its own mentions. -/
inductive TopicTable where
  | memberInboxItem
  | publicationSurface | publicPublication | publicSearchDocument | publicCitation
  | discussionPost | discussionPostRevision
  | discussionTopic
  deriving DecidableEq, Inhabited

/-- The deletes of `rebuild_discussion_stream`, for a topic. -/
def topicDeletes : List (List TopicTable) :=
  [[.memberInboxItem], [.publicationSurface, .publicPublication, .publicSearchDocument, .publicCitation],
    [.discussionPost, .discussionPostRevision], [.discussionTopic]]

/-- `rebuild_discussion_stream`, for a topic. -/
def topicStream [Inhabited Key] (fold : Entry (Stored Payload) → List (Statement (TopicTable × Key) Row)) :
    Program (Stored Payload) (TopicTable × Key) Row :=
  replacedStream topicDeletes "DiscussionTopicCreated" fold

/-- The rows of a moderation case. -/
inductive ModerationTable where
  | moderationTargetState
  | moderationCase | moderationCaseHistory | moderationReport
  deriving DecidableEq, Inhabited

/-- The deletes of `rebuild_moderation_stream`. -/
def moderationDeletes : List (List ModerationTable) :=
  [[.moderationTargetState], [.moderationCase, .moderationCaseHistory, .moderationReport]]

/-- `rebuild_moderation_stream`. -/
def moderationStream [Inhabited Key] (fold : Entry (Stored Payload) → List (Statement (ModerationTable × Key) Row)) :
    Program (Stored Payload) (ModerationTable × Key) Row :=
  replacedStream moderationDeletes "ModerationCaseOpened" fold

/-- The rows of a subscription. -/
inductive SubscriptionTable where
  | publicWatch | publicWatchPeriod
  deriving DecidableEq, Inhabited

/-- The delete of `rebuild_subscription_stream`. -/
def subscriptionDeletes : List (List SubscriptionTable) := [[.publicWatch, .publicWatchPeriod]]

/-- `rebuild_subscription_stream`. -/
def subscriptionStream [Inhabited Key] (fold : Entry (Stored Payload) → List (Statement (SubscriptionTable × Key) Row)) :
    Program (Stored Payload) (SubscriptionTable × Key) Row :=
  replacedStream subscriptionDeletes "PublicWatchEnabled" fold

/-- The row of a mute. -/
inductive MemberMuteTable where
  | profileMute
  deriving DecidableEq, Inhabited

/-- The delete of `rebuild_member_mute_stream`. -/
def memberMuteDeletes : List (List MemberMuteTable) := [[.profileMute]]

/-- `rebuild_member_mute_stream`. -/
def memberMuteStream [Inhabited Key] (fold : Entry (Stored Payload) → List (Statement (MemberMuteTable × Key) Row)) :
    Program (Stored Payload) (MemberMuteTable × Key) Row :=
  replacedStream memberMuteDeletes "MemberMuted" fold

/-- The row of an inbox cursor. -/
inductive InboxCursorTable where
  | memberInboxCursor
  deriving DecidableEq, Inhabited

/-- The delete of `rebuild_member_inbox_cursor_stream`. -/
def inboxCursorDeletes : List (List InboxCursorTable) := [[.memberInboxCursor]]

/-- `rebuild_member_inbox_cursor_stream`. -/
def inboxCursorStream [Inhabited Key] (fold : Entry (Stored Payload) → List (Statement (InboxCursorTable × Key) Row)) :
    Program (Stored Payload) (InboxCursorTable × Key) Row :=
  replacedStream inboxCursorDeletes "MemberInboxCursorAdvanced" fold

end Deletes

/-! ## Areas -/

/-- `DiscussionAreaCreated`, the event of an area's stream. -/
structure AreaCreated where
  slug : String
  title : String
  description : String

/-- A row of `discussion_area`. -/
structure AreaRow where
  slug : String
  title : String
  description : String
  createdSeq : Int

/-- `project_discussion_event`, of an area: the insert overwrites the columns of the row there is. -/
def upsertArea (entry : Entry AreaCreated) : Write Unit AreaRow where
  touches _ _ := true
  run _ := some fun _ =>
    some ⟨entry.event.slug, entry.event.title, entry.event.description, entry.seq⟩

/-- `rebuild_discussion_stream`, for an area: it deletes nothing. -/
def areaStream : Program AreaCreated Unit AreaRow where
  fold entry := [.write (upsertArea entry)]
  clear _ := []
  begins log := !log.isEmpty
  fenced := true
  root := ()
  lawful _ := True

theorem runAll_areas (entry : Entry AreaCreated) (log : List (Entry AreaCreated))
    (rows rows' : Unit → Option AreaRow) :
    runAll ((entry :: log).flatMap areaStream.fold) rows =
      runAll ((entry :: log).flatMap areaStream.fold) rows' := by
  have hfold : (entry :: log).flatMap areaStream.fold =
      .write (upsertArea entry) :: log.flatMap areaStream.fold := rfl
  have hover : (upsertArea entry).over rows = (upsertArea entry).over rows' := rfl
  rw [hfold, runAll_write rfl, runAll_write rfl, hover]

theorem replays_areaStream : areaStream.Replays where
  nothing := trivial
  replay log rows _ hbegins hrows := by
    cases log with
    | nil => exact absurd hbegins (by simp [areaStream])
    | cons entry log =>
      change runAll ((entry :: log).flatMap areaStream.fold) rows = _
      rw [runAll_areas entry log rows fun _ => none]
      exact hrows
  begun hunfenced := absurd hunfenced (by simp [areaStream])
  rooted hunfenced := absurd hunfenced (by simp [areaStream])

/-! ## Games -/

section Game

variable {F Rest : Type} (setting : Rebuild.Setting F Rest)

/-- The stored event, with the time it occurred at. -/
def stored (entry : Entry (Int × Rebuild.Payload F)) : Rebuild.Entry F where
  seq := entry.seq
  occurredAt := entry.event.1
  payload := entry.event.2

/-- The tables, if there is a row in any. -/
def tablesOf (rows : Unit → Option (Rebuild.Tables F Rest)) : Rebuild.Tables F Rest :=
  (rows ()).getD { cleared := Rebuild.emptyCleared setting }

/-- `fold_event`. -/
def foldGame (entry : Entry (Int × Rebuild.Payload F)) : Write Unit (Rebuild.Tables F Rest) where
  touches _ _ := true
  run rows := ((tablesOf setting rows).fold setting (stored entry)).map fun tables _ => some tables

/-- The deletes of `rebuild_game_from_events_in_tx`. -/
def clearGame : Write Unit (Rebuild.Tables F Rest) where
  touches rows _ := (rows ()).isSome
  run rows := some fun _ =>
    some { tablesOf setting rows with cleared := Rebuild.emptyCleared setting }

/-- `rebuild_in_tx`. -/
def gameStream : Program (Int × Rebuild.Payload F) Unit (Rebuild.Tables F Rest) where
  fold entry := [.write (foldGame setting entry)]
  clear _ := [.write (clearGame setting)]
  begins _ := true
  fenced := true
  root := ()
  lawful log := Rebuild.Orderly setting (log.map stored)

variable {setting}

theorem runAll_foldGame (entry : Entry (Int × Rebuild.Payload F))
    (rows : Unit → Option (Rebuild.Tables F Rest))
    (statements : List (Statement Unit (Rebuild.Tables F Rest))) :
    runAll (.write (foldGame setting entry) :: statements) rows =
      ((tablesOf setting rows).fold setting (stored entry)).bind fun tables =>
        runAll statements fun _ => some tables := by
  rw [runAll_cons]
  unfold Statement.apply Write.apply foldGame
  dsimp only
  cases (tablesOf setting rows).fold setting (stored entry) <;> rfl

/-- From tables, the fold of the events is their replay. -/
theorem runAll_game (log : List (Entry (Int × Rebuild.Payload F))) (tables : Rebuild.Tables F Rest) :
    runAll (log.flatMap (gameStream setting).fold) (fun _ => some tables) =
      (Rebuild.replay setting tables (log.map stored)).map fun tables _ => some tables := by
  induction log generalizing tables with
  | nil => rfl
  | cons entry log ih =>
    have hfold : (entry :: log).flatMap (gameStream setting).fold =
        .write (foldGame setting entry) :: log.flatMap (gameStream setting).fold := rfl
    rw [hfold, runAll_foldGame, List.map_cons]
    unfold Rebuild.replay
    rw [List.foldlM_cons]
    cases hnext : tables.fold setting (stored entry) with
    | none =>
      simp [tablesOf, hnext]
    | some next =>
      have hrest := ih next
      unfold Rebuild.replay at hrest
      simp only [tablesOf, Option.getD_some, hnext, Option.bind_some, hrest]
      rfl

/-- A game that has events has the rows of their fold from empty tables. -/
theorem rowsOf_game {entry : Entry (Int × Rebuild.Payload F)} {log : List (Entry (Int × Rebuild.Payload F))} :
    (gameStream setting).rowsOf (entry :: log) =
      (Rebuild.foldFromEmpty setting ((entry :: log).map stored)).map fun tables _ => some tables := by
  unfold Rebuild.foldFromEmpty
  rw [← runAll_game]
  have hfold : (entry :: log).flatMap (gameStream setting).fold =
      .write (foldGame setting entry) :: log.flatMap (gameStream setting).fold := rfl
  unfold Program.rowsOf
  rw [hfold, runAll_foldGame, runAll_foldGame]
  rfl

/-- A rebuild of what the fold has made of a game changes nothing. -/
theorem replays_gameStream : (gameStream setting).Replays where
  nothing := ⟨by simp, List.Pairwise.nil, by simp⟩
  replay log rows hlawful _ hrows := by
    unfold Program.rebuildStatements
    cases log with
    | nil =>
      obtain rfl := Option.some.inj hrows
      rfl
    | cons entry log =>
      rw [rowsOf_game] at hrows
      obtain ⟨fresh, hfresh, rfl⟩ := Option.map_eq_some_iff.1 hrows
      have hrebuild := Rebuild.rebuild_unchanged hlawful hfresh
      unfold Rebuild.rebuild at hrebuild
      rw [runAll_append]
      have hclear : runAll ((gameStream setting).clear (entry :: log)) (fun _ => some fresh) =
          some fun _ => some { fresh with cleared := Rebuild.emptyCleared setting } := rfl
      rw [hclear, Option.bind_some, runAll_game, hrebuild]
      rfl
  begun hunfenced := absurd hunfenced (by simp [gameStream])
  rooted hunfenced := absurd hunfenced (by simp [gameStream])

end Game

/-! ## Profiles -/

inductive ProfileVisibility where
  | «public» | «private»

structure ProfilePresentation where
  handle : String
  displayName : String
  bio : String
  visibility : ProfileVisibility

/-- A decoded profile event: `ProfileCreated`, `ProfileUpdated` or `ProfileRedacted`. -/
inductive ProfileEvent where
  | created (subjectId claimId : Uuid)
  | updated (subjectId claimId : Uuid)
  | redacted (subjectId : Uuid) (retainedAlias : String)

inductive ProfileLifecycle where
  | active | redacted

/-- A row of `member_profile`. -/
structure MemberProfile where
  activePrincipalId : Option Uuid
  handleHmac : Option Nat
  lifecycle : ProfileLifecycle
  redactedAlias : Option String
  createdSeq : Int
  updatedSeq : Int
  revision : Nat
  subjectId : Uuid
  currentClaimId : Option Uuid

/-- A row of `public_profile`. -/
structure PublicProfile where
  handle : String
  displayName : String
  bio : String
  createdSeq : Int
  updatedSeq : Int
  revision : Nat

/-- The rows of one profile, by their table. -/
inductive ProfileTable where
  | memberProfile | publicProfile
  deriving DecidableEq

/-- A row of one of them. -/
inductive ProfileRow where
  | memberProfile (row : MemberProfile)
  | publicProfile (row : PublicProfile)

/-- What the fold reads of the profile's subject: its alias if it is erased (`subject_tombstone_alias`), its
sealed presentations (`open_active_subject_claim`), its principal, and the token of a handle. -/
structure Subjects where
  tombstoneAlias : Uuid → Option String
  claim : Uuid → Uuid → Option ProfilePresentation
  principalId : Uuid → Option Uuid
  handleIndexToken : String → Nat

namespace ProfileRow

/-- `member_profile.created_seq`, which an upsert keeps. -/
def createdSeqOr (seq : Int) : Option ProfileRow → Int
  | some (.memberProfile row) => row.createdSeq
  | some (.publicProfile row) => row.createdSeq
  | none => seq

end ProfileRow

section Profile

variable (subjects : Subjects)

/-- The upsert of `member_profile`: what it is given, with the `created_seq` of the row there is. -/
def upsertMemberProfile (row : Option MemberProfile) : Write ProfileTable ProfileRow where
  touches _ table := table = .memberProfile
  run rows := row.map fun row _ =>
    some (.memberProfile { row with createdSeq := ProfileRow.createdSeqOr row.createdSeq (rows .memberProfile) })

/-- `DELETE FROM public_profile`. -/
def deletePublicProfile : Write ProfileTable ProfileRow where
  touches rows table := decide (table = .publicProfile) && (rows .publicProfile).isSome
  run _ := some fun _ => none

/-- The upsert of `public_profile`. -/
def upsertPublicProfile (row : PublicProfile) : Write ProfileTable ProfileRow where
  touches _ table := table = .publicProfile
  run rows := some fun _ =>
    some (.publicProfile { row with createdSeq := ProfileRow.createdSeqOr row.createdSeq (rows .publicProfile) })

/-- The row `project_active_profile` gives `member_profile`; the claim may not open, and the subject may
have no principal. -/
def activeMemberProfile (entry : Entry ProfileEvent) (subjectId claimId : Uuid) : Option MemberProfile := do
  let presentation ← subjects.claim subjectId claimId
  let principalId ← subjects.principalId subjectId
  some
    { activePrincipalId := some principalId
      handleHmac := some (subjects.handleIndexToken presentation.handle)
      lifecycle := .active
      redactedAlias := none
      createdSeq := entry.seq
      updatedSeq := entry.seq
      revision := entry.revision
      subjectId
      currentClaimId := some claimId }

/-- The row `project_redacted_profile` gives it. -/
def redactedMemberProfile (entry : Entry ProfileEvent) (subjectId : Uuid) (redactedAlias : String) :
    MemberProfile where
  activePrincipalId := none
  handleHmac := none
  lifecycle := .redacted
  redactedAlias := some redactedAlias
  createdSeq := entry.seq
  updatedSeq := entry.seq
  revision := entry.revision
  subjectId
  currentClaimId := none

/-- The second write of `project_active_profile`. -/
def projectPublicProfile (entry : Entry ProfileEvent) :
    Option ProfilePresentation → Write ProfileTable ProfileRow
  | some ⟨handle, displayName, bio, .public⟩ =>
    upsertPublicProfile ⟨handle, displayName, bio, entry.seq, entry.seq, entry.revision⟩
  | _ => deletePublicProfile

/-- `project_active_profile`, with the locks `open_active_subject_claim` takes: of the subject's principal
and of the subject. -/
def projectActiveProfile (entry : Entry ProfileEvent) (subjectId claimId : Uuid) :
    List (Statement ProfileTable ProfileRow) :=
  [.hold subjectId.toNat, .write (upsertMemberProfile (activeMemberProfile subjects entry subjectId claimId)),
    .write (projectPublicProfile entry (subjects.claim subjectId claimId))]

def projectRedactedProfile (entry : Entry ProfileEvent) (subjectId : Uuid) (redactedAlias : String) :
    List (Statement ProfileTable ProfileRow) :=
  [.write (upsertMemberProfile (some (redactedMemberProfile entry subjectId redactedAlias))),
    .write deletePublicProfile]

def foldProfileEvent (entry : Entry ProfileEvent) : List (Statement ProfileTable ProfileRow) :=
  match entry.event with
  | .created subjectId claimId | .updated subjectId claimId =>
    match subjects.tombstoneAlias subjectId with
    | some redactedAlias => projectRedactedProfile entry subjectId redactedAlias
    | none => projectActiveProfile subjects entry subjectId claimId
  | .redacted subjectId retainedAlias => projectRedactedProfile entry subjectId retainedAlias

/-- The subject an event names. -/
def ProfileEvent.subjectId : ProfileEvent → Uuid
  | .created subjectId _ | .updated subjectId _ | .redacted subjectId _ => subjectId

/-- `prelock_rebuild_subject_owners`: those of the active subjects. -/
def prelockSubjectOwners (log : List (Entry ProfileEvent)) : List (Statement ProfileTable ProfileRow) :=
  ((log.map (·.event.subjectId)).dedup.filter fun subjectId => (subjects.principalId subjectId).isSome).map
    fun subjectId => .hold subjectId.toNat

/-- `event.kind == "ProfileCreated"`. -/
def isProfileCreated (entry : Entry ProfileEvent) : Bool :=
  match entry.event with
  | .created .. => true
  | _ => false

/-- `rebuild_profile_stream`: it takes no lock of the stream. -/
def profileStream : Program ProfileEvent ProfileTable ProfileRow where
  fold := foldProfileEvent subjects
  clear log := prelockSubjectOwners subjects log ++ [.write deletePublicProfile]
  begins log := log.any isProfileCreated
  fenced := false
  root := .memberProfile
  lawful _ := True

/-! ### What a profile's fold writes -/

variable {subjects}

/-- A write of `public_profile`: it leaves `member_profile`, and does not fail. -/
structure WritesPublic (change : Write ProfileTable ProfileRow) : Prop where
  leaves : ∀ rows, change.touches rows .memberProfile = false
  runs : ∀ rows, ∃ after, change.run rows = some after

theorem writesPublic_delete : WritesPublic deletePublicProfile :=
  ⟨fun rows => by simp [deletePublicProfile], fun _ => ⟨_, rfl⟩⟩

theorem writesPublic_upsert (row : PublicProfile) : WritesPublic (upsertPublicProfile row) :=
  ⟨fun rows => by simp [upsertPublicProfile], fun _ => ⟨_, rfl⟩⟩

/-- Statements that upsert `member_profile`, with the event's position for a new row, and then write
`public_profile`. -/
def UpsertsProfile (entry : Entry ProfileEvent) (statements : List (Statement ProfileTable ProfileRow)) :
    Prop :=
  ∃ (holds : List Nat) (row : Option MemberProfile) (change : Write ProfileTable ProfileRow),
    statements = holds.map .hold ++ [.write (upsertMemberProfile row), .write change] ∧
    (∀ created ∈ row, created.createdSeq = entry.seq) ∧ WritesPublic change

theorem upsertsProfile_redacted (entry : Entry ProfileEvent) (subjectId : Uuid) (redactedAlias : String) :
    UpsertsProfile entry (projectRedactedProfile entry subjectId redactedAlias) := by
  refine ⟨[], _, _, rfl, fun created hcreated => ?_, writesPublic_delete⟩
  obtain rfl := Option.some.inj hcreated
  rfl

theorem upsertsProfile_active (entry : Entry ProfileEvent) (subjectId claimId : Uuid) :
    UpsertsProfile entry (projectActiveProfile subjects entry subjectId claimId) := by
  refine ⟨[subjectId.toNat], _, _, rfl, fun created hcreated => ?_, ?_⟩
  · unfold activeMemberProfile at hcreated
    obtain ⟨presentation, -, hcreated⟩ := Option.bind_eq_some_iff.1 hcreated
    obtain ⟨principalId, -, hcreated⟩ := Option.bind_eq_some_iff.1 hcreated
    obtain rfl := Option.some.inj hcreated
    rfl
  · unfold projectPublicProfile
    split
    · exact writesPublic_upsert _
    · exact writesPublic_delete

variable (subjects) in
/-- So does the fold of every event. -/
theorem upsertsProfile_fold (entry : Entry ProfileEvent) :
    UpsertsProfile entry (foldProfileEvent subjects entry) := by
  have hpresented (subjectId claimId : Uuid) : UpsertsProfile entry
      (match subjects.tombstoneAlias subjectId with
        | some redactedAlias => projectRedactedProfile entry subjectId redactedAlias
        | none => projectActiveProfile subjects entry subjectId claimId) := by
    split
    · exact upsertsProfile_redacted entry subjectId _
    · exact upsertsProfile_active entry subjectId claimId
  unfold foldProfileEvent
  cases entry.event with
  | created subjectId claimId | updated subjectId claimId => exact hpresented subjectId claimId
  | redacted subjectId retainedAlias => exact upsertsProfile_redacted entry subjectId retainedAlias

theorem runAll_holds (holds : List Nat) (statements : List (Statement ProfileTable ProfileRow))
    (rows : ProfileTable → Option ProfileRow) :
    runAll (holds.map .hold ++ statements) rows = runAll statements rows := by
  induction holds with
  | nil => rfl
  | cons resource holds ih => exact ih

/-- The rows an upsert of `member_profile` leaves. -/
theorem runAll_upsertMemberProfile (row : Option MemberProfile)
    (statements : List (Statement ProfileTable ProfileRow)) (rows : ProfileTable → Option ProfileRow) :
    runAll (.write (upsertMemberProfile row) :: statements) rows =
      row.bind fun row => runAll statements fun table => match table with
        | .memberProfile => some (.memberProfile
            { row with createdSeq := ProfileRow.createdSeqOr row.createdSeq (rows .memberProfile) })
        | .publicProfile => rows .publicProfile := by
  cases row with
  | none => rfl
  | some row =>
    rw [runAll_write rfl]
    congr 1
    funext table
    cases table <;> rfl

variable {entry : Entry ProfileEvent} {rows rows' : ProfileTable → Option ProfileRow}

/-- The fold of an event keeps when the profile was created. -/
theorem createdSeq_foldProfileEvent (h : runAll (foldProfileEvent subjects entry) rows = some rows')
    (seq : Int) :
    ProfileRow.createdSeqOr seq (rows' .memberProfile) =
      ProfileRow.createdSeqOr entry.seq (rows .memberProfile) := by
  obtain ⟨holds, row, change, hfold, hcreated, hpublic⟩ := upsertsProfile_fold subjects entry
  rw [hfold, runAll_holds, runAll_upsertMemberProfile] at h
  obtain ⟨created, hrow, hrest⟩ := Option.bind_eq_some_iff.1 h
  obtain ⟨after, hafter⟩ := hpublic.runs _
  rw [runAll_write hafter, runAll_nil] at hrest
  obtain rfl := Option.some.inj hrest
  unfold Write.over
  rw [hpublic.leaves]
  simp [ProfileRow.createdSeqOr, hcreated created hrow]

/-- What an event leaves depends on `public_profile` and on when the profile was created alone. -/
theorem runAll_foldProfileEvent_congr (hpublic : rows .publicProfile = rows' .publicProfile)
    (hcreated : ProfileRow.createdSeqOr entry.seq (rows .memberProfile) = ProfileRow.createdSeqOr entry.seq (rows' .memberProfile)) :
    runAll (foldProfileEvent subjects entry) rows = runAll (foldProfileEvent subjects entry) rows' := by
  obtain ⟨holds, row, change, hfold, hseq, -⟩ := upsertsProfile_fold subjects entry
  rw [hfold, runAll_holds, runAll_holds, runAll_upsertMemberProfile, runAll_upsertMemberProfile]
  cases row with
  | none => rfl
  | some row =>
    rw [← hseq row rfl] at hcreated
    simp only [Option.bind_some, hpublic, hcreated]

/-- A profile was created with its first event. -/
theorem createdSeq_fold {log : List (Entry ProfileEvent)}
    (h : runAll ((entry :: log).flatMap (foldProfileEvent subjects)) rows = some rows') (seq : Int) :
    ProfileRow.createdSeqOr seq (rows' .memberProfile) =
      ProfileRow.createdSeqOr entry.seq (rows .memberProfile) := by
  induction log generalizing entry rows with
  | nil =>
    rw [List.flatMap_cons, List.flatMap_nil, List.append_nil] at h
    exact createdSeq_foldProfileEvent h seq
  | cons next log ih =>
    rw [List.flatMap_cons, runAll_append] at h
    obtain ⟨between, hbetween, hrest⟩ := Option.bind_eq_some_iff.1 h
    rw [ih hrest]
    exact createdSeq_foldProfileEvent hbetween next.seq

/-- What a rebuild deletes of a profile. -/
theorem runAll_clearProfile (log : List (Entry ProfileEvent)) (rows : ProfileTable → Option ProfileRow) :
    runAll ((profileStream subjects).clear log) rows = some fun table => match table with
        | .memberProfile => rows .memberProfile
        | .publicProfile => none := by
  have hholds : (profileStream subjects).clear log =
      (((log.map (·.event.subjectId)).dedup.filter fun subjectId =>
        (subjects.principalId subjectId).isSome).map (·.toNat)).map .hold ++
          [.write deletePublicProfile] := by
    unfold profileStream prelockSubjectOwners
    rw [List.map_map]
    rfl
  rw [hholds, runAll_holds, runAll_write rfl, runAll_nil]
  congr 1
  funext table
  cases table with
  | memberProfile => rfl
  | publicProfile =>
    cases hrow : rows .publicProfile <;> simp [Write.over, deletePublicProfile, hrow]

/-- A rebuild of what the fold has made of a profile changes nothing. -/
theorem replays_profileStream : (profileStream subjects).Replays where
  nothing := trivial
  replay log rows _ hbegins hrows := by
    cases log with
    | nil => exact absurd hbegins (by simp [profileStream])
    | cons entry log =>
      unfold Program.rebuildStatements
      rw [runAll_append, runAll_clearProfile, Option.bind_some, ← hrows]
      unfold Program.rowsOf at hrows ⊢
      have hcreated := createdSeq_fold hrows entry.seq
      change runAll ((entry :: log).flatMap (foldProfileEvent subjects)) _ =
        runAll ((entry :: log).flatMap (foldProfileEvent subjects)) _
      rw [List.flatMap_cons, runAll_append, runAll_append]
      refine congrArg (fun between => Option.bind between _) ?_
      exact runAll_foldProfileEvent_congr rfl hcreated
  begun _ := rfl
  rooted _ entry := by
    obtain ⟨holds, row, change, hfold, -, -⟩ := upsertsProfile_fold subjects entry
    refine ⟨.write (upsertMemberProfile row), ?_, upsertMemberProfile row, rfl, fun rows => by
      simp [upsertMemberProfile, profileStream]⟩
    change _ ∈ foldProfileEvent subjects entry
    rw [hfold]
    simp

end Profile

/-! ## Every stream -/

/-- The streams that are projected. -/
inductive ProjectedStream : {Event Key Row : Type} → Program Event Key Row → Prop where
  | game {F Rest : Type} (setting : Rebuild.Setting F Rest) : ProjectedStream (gameStream setting)
  | area : ProjectedStream areaStream
  | topic {Payload Key Row : Type} [Inhabited Key]
      (fold : Entry (Stored Payload) → List (Statement (TopicTable × Key) Row)) :
      ProjectedStream (topicStream fold)
  | moderation {Payload Key Row : Type} [Inhabited Key]
      (fold : Entry (Stored Payload) → List (Statement (ModerationTable × Key) Row)) :
      ProjectedStream (moderationStream fold)
  | subscription {Payload Key Row : Type} [Inhabited Key]
      (fold : Entry (Stored Payload) → List (Statement (SubscriptionTable × Key) Row)) :
      ProjectedStream (subscriptionStream fold)
  | memberMute {Payload Key Row : Type} [Inhabited Key]
      (fold : Entry (Stored Payload) → List (Statement (MemberMuteTable × Key) Row)) :
      ProjectedStream (memberMuteStream fold)
  | inboxCursor {Payload Key Row : Type} [Inhabited Key]
      (fold : Entry (Stored Payload) → List (Statement (InboxCursorTable × Key) Row)) :
      ProjectedStream (inboxCursorStream fold)
  | profile (subjects : Subjects) : ProjectedStream (profileStream subjects)

variable {Event Key Row : Type} {program : Program Event Key Row}

theorem ProjectedStream.replays (h : ProjectedStream program) : program.Replays := by
  cases h with
  | game setting => exact replays_gameStream
  | area => exact replays_areaStream
  | topic fold
  | moderation fold
  | subscription fold => exact replays_replacedStream fun table => by cases table <;> decide
  | memberMute fold | inboxCursor fold => exact replays_replacedStream fun table => by cases table; decide
  | profile subjects => exact replays_profileStream

/-- **The rows of every projected stream are the fold of its stored events**, in every state of every run of
appends and rebuilds in which no rebuild of a profile writes the `member_profile` row when an append has
been committed since it read the events. -/
theorem projected_rows_exact [DecidableEq Key] (hprojected : ProjectedStream program)
    {db : Db Event Key Row} (hrun : ReflTransGen (CurrentStep program) {} db) :
    program.rowsOf db.log = some db.rows :=
  rows_derived hprojected.replays hrun

/-- An area that has been created has its row. -/
theorem area_rows_exact : ∃ db : Db AreaCreated Unit AreaRow, db.log ≠ [] ∧
    areaStream.rowsOf db.log = some db.rows := by
  obtain ⟨db, hlog, hrun⟩ : ∃ db : Db AreaCreated Unit AreaRow, db.log ≠ [] ∧
      ReflTransGen (Step areaStream 0) {} db := by
    refine ⟨_, ?_, .head (@Step.append _ _ _ _ _ _ _ none [⟨"rules", "Rules", ""⟩] rfl nofun) <|
      .head (.lock rfl (.inl rfl)) <| .head (.readLength rfl nofun) <| .head (.insert rfl 1) <|
      .head (.inserted rfl trivial) <| .head (.write rfl (fun _ _ => .inl rfl) rfl) <|
      .head (.done rfl) <| .single (.commit rfl)⟩
    exact List.cons_ne_nil _ _
  have hcurrent := ReflTransGen.mono (fun _ _ hstep => (⟨0, hstep, by simp [areaStream]⟩ :
    CurrentStep areaStream _ _)) _ _ hrun
  exact ⟨db, hlog, projected_rows_exact .area hcurrent⟩

/-! ### A rebuild that undoes an append -/

/-- A member who changes the name shown. -/
def renamed : Subjects where
  tombstoneAlias _ := none
  claim _ claimId := some ⟨"ann", if claimId = 1 then "Ann" else "Anna", "", .public⟩
  principalId _ := some 7
  handleIndexToken _ := 0

/-- The creation of the profile. -/
def profileCreated : Entry ProfileEvent := ⟨1, 1, .created 5 1⟩

/-- The update that is committed while the rebuild runs. -/
def profileUpdated : Entry ProfileEvent := ⟨2, 2, .updated 5 2⟩

/-- The rows of a profile that has been presented, updated at a position. -/
def presentedRows (entry : Entry ProfileEvent) (claimId : Uuid) (displayName : String) :
    ProfileTable → Option ProfileRow
  | .memberProfile => some (.memberProfile ⟨some 7, some 0, .active, none, 1, entry.seq, entry.revision, 5,
      some claimId⟩)
  | .publicProfile => some (.publicProfile ⟨"ann", displayName, "", 1, entry.seq, entry.revision⟩)

theorem rows_profileCreated : (profileStream renamed).rowsOf [profileCreated] =
    some (presentedRows profileCreated 1 "Ann") := by
  refine congrArg some ?_
  funext table
  cases table <;> rfl

theorem rows_profileUpdated : (profileStream renamed).rowsOf [profileCreated, profileUpdated] =
    some (presentedRows profileUpdated 2 "Anna") := by
  refine congrArg some ?_
  funext table
  cases table <;> rfl

/-- A rebuild reads the log, an update is committed, and the rebuild writes the rows of before: once all
have ended the profile is as its first event alone would have made it. -/
theorem profile_rebuild_undoes_append : ∃ db : Db ProfileEvent ProfileTable ProfileRow,
    ReflTransGen (fun db db' => ∃ tx, Step (profileStream renamed) tx db db') {} db ∧
      (∀ tx, Quiet db tx) ∧ db.log = [profileCreated, profileUpdated] ∧
      (profileStream renamed).rowsOf [profileCreated] = some db.rows ∧
      (profileStream renamed).rowsOf db.log ≠ some db.rows := by
  have step (tx : Nat) {db db' db'' : Db ProfileEvent ProfileTable ProfileRow}
      (h : Step (profileStream renamed) tx db db')
      (h' : ReflTransGen (fun db db' => ∃ tx, Step (profileStream renamed) tx db db') db' db'') :=
    ReflTransGen.head ⟨tx, h⟩ h'
  refine ⟨_,
    -- The profile is created, and transaction 1 reads its events.
    step 0 (@Step.append _ _ _ _ _ 0 _ none [.created 5 1] rfl nofun) <| step 0 (.lock rfl (.inl rfl)) <|
    step 0 (.readLength rfl nofun) <| step 0 (.insert rfl 1) <| step 0 (.inserted rfl trivial) <|
    step 0 (.hold rfl (.inl rfl)) <| step 0 (.write rfl (fun _ _ => .inl rfl) rfl) <|
    step 0 (.write rfl (fun key _ => by cases key <;> [exact .inr rfl; exact .inl rfl]) rfl) <|
    step 0 (.done rfl) <| step 0 (.commit rfl) <| step 1 (.rebuild rfl ⟨rfl, fun _ => rfl⟩) <|
    step 1 (.load rfl rfl) <|
    -- Transaction 0 appends the update and commits.
    step 0 (@Step.append _ _ _ _ _ 0 _ none [.updated 5 2] rfl nofun) <| step 0 (.lock rfl (.inl rfl)) <|
    step 0 (.readLength rfl nofun) <| step 0 (.insert rfl 2) <| step 0 (.inserted rfl trivial) <|
    step 0 (.hold rfl (.inl rfl)) <| step 0 (.write rfl (fun key _ => by cases key <;> exact .inl rfl) rfl) <|
    step 0 (.write rfl (fun key _ => by cases key <;> [exact .inr rfl; exact .inl rfl]) rfl) <|
    step 0 (.done rfl) <| step 0 (.commit rfl) <|
    -- Transaction 1 writes what it has read.
    step 1 (.hold rfl (.inl rfl)) <| step 1 (.write rfl (fun key _ => by cases key <;> exact .inl rfl) rfl) <|
    step 1 (.hold rfl (.inr rfl)) <|
    step 1 (.write rfl (fun key _ => by cases key <;> [exact .inl rfl; exact .inr rfl]) rfl) <|
    step 1 (.write rfl (fun key _ => by cases key <;> exact .inr rfl) rfl) <|
    step 1 (.done rfl) <| .single ⟨1, .commit rfl⟩,
    fun tx => ⟨fun lock => ?_, ?_, ?_, fun key => ?_⟩, rfl, rows_profileCreated.trans ?_, fun hrows => ?_⟩
  · rcases lock with _ | (_ | _ | _ | _ | _ | _ | _) | (_ | _) <;> rfl
  · rcases tx with _ | _ | tx <;> rfl
  · rcases tx with _ | _ | tx <;> rfl
  · rcases tx with _ | _ | tx <;> cases key <;> rfl
  · exact congrArg some (funext fun table => by cases table <;> rfl)
  · have hsame : presentedRows profileUpdated 2 "Anna" .memberProfile =
        presentedRows profileCreated 1 "Ann" .memberProfile :=
      congrFun (Option.some.inj (rows_profileUpdated.symm.trans hrows)) .memberProfile
    simp [presentedRows, profileCreated, profileUpdated] at hsame

end Fmarch.Projections.RebuildFence
