import Fmarch.Lib.Leftover
import Fmarch.Projections.GameRows
import Mathlib.Data.List.Induction

/-!
# Rebuilding a game (`rebuild_game_from_events_in_tx`)

A rebuild deletes the game's rows from a list of tables and folds its events again. Most tables the fold
writes are on the list or hang on one by a cascading key. Those that are not keep what they held:
`slot_status_tag`, the scheduler's own row, and the tables of what the game has published.

**`rebuild_iff`**: a rebuild ends in the rows that the fold makes from empty tables exactly if every
leftover row is one that the stream writes again or deletes, and agrees with it in the columns the upserts
keep. A tag that no event speaks of is enough for it not to: it stays, and the audit, which compares the
rows before and after a rebuild, finds nothing (`leftoverTag_stays`). From rows that the fold has made
itself a rebuild changes nothing (`rebuild_unchanged`).

The tables on the list of which no other is written are held in `Rest`, with their fold left open, and so
is the text of a resolution's announcement. What the fold reads of other streams does not change while it
runs.
-/

namespace Fmarch.Projections.Rebuild

open Function (update update_self update_of_ne)

open Domain Platform Leftover

variable {F Rest : Type}

/-! ## Tables -/

/-- `game_index.status`. -/
inductive GameStatus where
  | setup | active | completed
  deriving DecidableEq

/-- The row of `game_index`, as the other tables read it. -/
structure GameIndexRow where
  packKey : String
  status : GameStatus

/-- The row of `day_event_scheduler_state`, with its defaults. -/
structure SchedulerState where
  lastObservedWakeSeq : Int := 0
  leaseOwner : Option Uuid := none
  leaseUntil : Option Int := none
  retryNotBefore : Option Int := none
  lastAttemptAt : Option Int := none
  lastSuccessAt : Option Int := none
  lastFailureAt : Option Int := none
  consecutiveFailures : Int := 0
  totalAttempts : Int := 0
  totalSuccesses : Int := 0
  lastError : Option String := none

/-- A row of `publication_surface`. -/
structure PublicationSurface where
  searchGroup : String
  title : String
  href : String
  visible : Bool
  updatedSeq : Int

/-- A row of `public_publication`. -/
structure PublicPublication where
  body : String
  href : String
  occurredAt : Int
  visible : Bool

/-- `PublicSearchDocumentType`, of the documents of a game. -/
inductive DocumentType where
  | game | gamePost
  deriving DecidableEq

/-- A row of `public_search_document`. -/
structure PublicSearchDocument where
  titleText : String
  body : String
  href : String
  publishedAt : Int
  updatedSeq : Int
  visible : Bool

/-- The document with another time of publication. -/
def PublicSearchDocument.withPublishedAt (publishedAt : Int) (row : PublicSearchDocument) :
    PublicSearchDocument := { row with publishedAt }

/-- The document with another title. -/
def PublicSearchDocument.withTitleText (titleText : String) (row : PublicSearchDocument) :
    PublicSearchDocument := { row with titleText }

/-- A public post: its surface and its position. -/
structure PublicContentRef where
  surfaceId : Uuid
  sourceSeq : Int
  deriving DecidableEq

/-- The tables a rebuild clears. -/
structure Cleared (F Rest : Type) where
  rows : GameRows F := {}
  index : Option GameIndexRow := none
  rest : Rest

/-- The tables it does not, each a map from its key to its rows. -/
structure Kept where
  slotStatusTag : SlotId × Tag → Option Unit := fun _ => none
  schedulerState : Unit → Option SchedulerState := fun _ => none
  publicationSurface : Unit → Option PublicationSurface := fun _ => none
  publicPublication : Int → Option PublicPublication := fun _ => none
  publicSearchDocument : DocumentType × Int → Option PublicSearchDocument := fun _ => none
  /-- `occurred_at` of the citations by the game's posts. -/
  publicCitation : Int × PublicContentRef → Option Int := fun _ => none

/-- The rows of one game. -/
structure Tables (F Rest : Type) where
  cleared : Cleared F Rest
  kept : Kept := {}

/-! ## Events -/

/-- What a stored event says. -/
inductive Payload (F : Type) where
  | gameCreated (packKey : String)
  | gameStarted
  | gameCompleted
  | postSubmitted (channelId body : String) (quotations : List PublicContentRef)
  | phaseAdvanced
  | threadLocked
  /-- A step of a `DayEvent` other than its participations. -/
  | dayEvent
  | event (event : GameEvent F)

/-- `StoredEvent`. -/
structure Entry (F : Type) where
  seq : Int
  occurredAt : Int
  payload : Payload F

/-- The payload as the fold of the resolutions' tables reads it. -/
def Payload.gameEvent : Payload F → GameEvent F
  | .event inner => inner
  | _ => .other []

/-- `day_event_schedule_work_event`. -/
def Payload.refreshesSchedule : Payload F → Bool
  | .gameStarted | .phaseAdvanced | .threadLocked | .dayEvent
  | .event (.resolutionApplied _) => true
  | _ => false

/-- The posts a payload quotes. -/
def Payload.quotations : Payload F → List PublicContentRef
  | .postSubmitted _ _ quotations => quotations
  | _ => []

/-- What the fold depends on besides the rows of the game. -/
structure Setting (F Rest : Type) where
  gameId : Uuid
  gameIdText : String
  emptyRest : Rest
  /-- The fold of the other tables; it fails on a payload that does not parse, or on a constraint. -/
  foldRest : Cleared F Rest → Entry F → Option Rest
  /-- `resolution_thread_announcement`. -/
  announcement : Cleared F Rest → List (InnerEvent F) → Option String
  /-- Moderation has hidden the post. -/
  hidden : Int → Bool
  /-- The posts other surfaces have published. -/
  publishedElsewhere : PublicContentRef → Bool

/-! ## The fold -/

/-- `insert_game_index_setup`, `activate_game_index` and `complete_game_index`. -/
def foldIndex (index : Option GameIndexRow) : Payload F → Option GameIndexRow
  | .gameCreated packKey => index.or (some { packKey, status := .setup })
  | .gameStarted => index.map fun row => { row with status := .active }
  | .gameCompleted => index.map fun row => { row with status := .completed }
  | _ => index

/-- `fold_event` on the tables a rebuild clears. -/
def Cleared.fold (setting : Setting F Rest) (cleared : Cleared F Rest) (entry : Entry F) :
    Option (Cleared F Rest) :=
  let cleared :=
    { cleared with
      rows := cleared.rows.fold entry.payload.gameEvent
      index := foldIndex cleared.index entry.payload }
  (setting.foldRest cleared entry).map fun rest => { cleared with rest }

namespace Kept

def upsertStatusTag (kept : Kept) (slotId : SlotId) (tag : Tag) : Kept :=
  { kept with slotStatusTag := update kept.slotStatusTag (slotId, tag) (some ()) }

def deleteStatusTag (kept : Kept) (slotId : SlotId) (tag : Tag) : Kept :=
  { kept with slotStatusTag := update kept.slotStatusTag (slotId, tag) none }

def foldInner (kept : Kept) : InnerEvent F → Kept
  | .slotStatusTagged slotId tag .. => kept.upsertStatusTag slotId tag
  | _ => kept

/-- The last statement of `refresh_day_event_schedule_work`. -/
def insertSchedulerState (kept : Kept) : Kept :=
  { kept with
    schedulerState := update kept.schedulerState ()
      ((kept.schedulerState ()).or (some {})) }

def recordSurface (kept : Kept) (surface : PublicationSurface) : Kept :=
  { kept with publicationSurface := update kept.publicationSurface () (some surface) }

/-- `record_surface_search_document`: the time of publication is that of the first. -/
def recordSurfaceSearchDocument (kept : Kept) (document : PublicSearchDocument) : Kept :=
  { kept with
    publicSearchDocument := update kept.publicSearchDocument (.game, 0)
      (upsertKeeping (·.publishedAt) PublicSearchDocument.withPublishedAt document
        (kept.publicSearchDocument (.game, 0))) }

/-- The surface `record_game_surface` records. -/
def gameSurface (setting : Setting F Rest) (row : GameIndexRow) (updatedSeq : Int) : PublicationSurface where
  searchGroup := "games"
  title := row.packKey ++ " game"
  href := "/games/" ++ setting.gameIdText
  visible := row.status == .active || row.status == .completed
  updatedSeq

/-- Its search document. -/
def gameDocument (surface : PublicationSurface) (occurredAt : Int) : PublicSearchDocument where
  titleText := surface.title
  body := ""
  href := surface.href
  publishedAt := occurredAt
  updatedSeq := surface.updatedSeq
  visible := surface.visible

def recordGameSurface (setting : Setting F Rest) (index : Option GameIndexRow) (kept : Kept)
    (updatedSeq occurredAt : Int) : Kept :=
  match index with
  | none => kept
  | some row =>
    let surface := gameSurface setting row updatedSeq
    (kept.recordSurface surface).recordSurfaceSearchDocument (gameDocument surface occurredAt)

/-- The first statement of `record_publication`. -/
def insertPublication (setting : Setting F Rest) (kept : Kept) (sourceSeq : Int) (body : String)
    (occurredAt : Int) : Kept :=
  match kept.publicationSurface () with
  | none => kept
  | some surface =>
    { kept with
      publicPublication := update kept.publicPublication sourceSeq
        (some
          { body, occurredAt
            href := surface.href ++ "#thread-post-" ++ toString sourceSeq
            visible := !setting.hidden sourceSeq }) }

/-- The second: the document keeps its title. -/
def insertPublicationDocument (kept : Kept) (sourceSeq : Int) : Kept :=
  match kept.publicPublication sourceSeq with
  | none => kept
  | some row =>
    { kept with
      publicSearchDocument := update kept.publicSearchDocument (.gamePost, sourceSeq)
        (upsertKeeping (·.titleText) PublicSearchDocument.withTitleText
          { titleText := "", body := row.body, href := row.href, publishedAt := row.occurredAt
            updatedSeq := sourceSeq, visible := row.visible }
          (kept.publicSearchDocument (.gamePost, sourceSeq))) }

def recordPublication (setting : Setting F Rest) (kept : Kept) (sourceSeq : Int) (body : String)
    (occurredAt : Int) : Kept :=
  (kept.insertPublication setting sourceSeq body occurredAt).insertPublicationDocument sourceSeq

/-- The post is published. -/
def isPublished (setting : Setting F Rest) (kept : Kept) (post : PublicContentRef) : Bool :=
  if post.surfaceId = setting.gameId then (kept.publicPublication post.sourceSeq).isSome
  else setting.publishedElsewhere post

/-- `record_public_citations`, of one quotation. -/
def recordPublicCitation (setting : Setting F Rest) (quotingSeq occurredAt : Int) (kept : Kept)
    (quoted : PublicContentRef) : Kept :=
  if kept.isPublished setting quoted && (kept.publicPublication quotingSeq).isSome then
    { kept with
      publicCitation := update kept.publicCitation (quotingSeq, quoted)
        ((kept.publicCitation (quotingSeq, quoted)).or (some occurredAt)) }
  else kept

def recordPublicCitations (setting : Setting F Rest) (kept : Kept) (quotingSeq : Int)
    (quotations : List PublicContentRef) (occurredAt : Int) : Kept :=
  quotations.foldl (recordPublicCitation setting quotingSeq occurredAt) kept

/-- The post of the game's main channel, or of the system. -/
def publish (setting : Setting F Rest) (index : Option GameIndexRow) (kept : Kept) (entry : Entry F)
    (body : String) : Kept :=
  (kept.recordGameSurface setting index entry.seq entry.occurredAt).recordPublication setting
    entry.seq body entry.occurredAt

/-- `fold_event`, given the cleared tables as it leaves them. -/
def write (setting : Setting F Rest) (cleared : Cleared F Rest) (kept : Kept) (entry : Entry F) : Kept :=
  match entry.payload with
  | .gameStarted | .gameCompleted =>
    kept.recordGameSurface setting cleared.index entry.seq entry.occurredAt
  | .postSubmitted channelId body quotations =>
    if channelId = "main" then
      (kept.publish setting cleared.index entry body).recordPublicCitations setting entry.seq
        quotations entry.occurredAt
    else kept
  | .event (.slotStatusTagged slotId tag) => kept.upsertStatusTag slotId tag
  | .event (.slotStatusUntagged slotId tag) => kept.deleteStatusTag slotId tag
  | .event (.resolutionApplied events) =>
    let kept := events.foldl foldInner kept
    match setting.announcement cleared events with
    | none => kept
    | some body => kept.publish setting cleared.index entry body
  | _ => kept

/-- `fold_event` on the tables a rebuild leaves. -/
def fold (setting : Setting F Rest) (cleared : Cleared F Rest) (kept : Kept) (entry : Entry F) : Kept :=
  let kept := kept.write setting cleared entry
  if entry.payload.refreshesSchedule then kept.insertSchedulerState else kept

end Kept

/-- `fold_event`. -/
def Tables.fold (setting : Setting F Rest) (tables : Tables F Rest) (entry : Entry F) :
    Option (Tables F Rest) :=
  (tables.cleared.fold setting entry).map fun cleared =>
    { cleared, kept := tables.kept.fold setting cleared entry }

/-- The tables of a game that has none. -/
def emptyCleared (setting : Setting F Rest) : Cleared F Rest := { rest := setting.emptyRest }

/-- The events folded one by one. -/
def replay (setting : Setting F Rest) (tables : Tables F Rest) (entries : List (Entry F)) :
    Option (Tables F Rest) :=
  entries.foldlM (Tables.fold setting) tables

/-- `rebuild_game_from_events_in_tx`. -/
def rebuild (setting : Setting F Rest) (prior : Tables F Rest) (entries : List (Entry F)) :
    Option (Tables F Rest) :=
  replay setting { prior with cleared := emptyCleared setting } entries

/-- The fold from empty tables. -/
def foldFromEmpty (setting : Setting F Rest) (entries : List (Entry F)) : Option (Tables F Rest) :=
  replay setting { cleared := emptyCleared setting } entries

/-! ## When a rebuild forgets what was there -/

/-- The tags an inner event writes. -/
def taggedBy : InnerEvent F → List (SlotId × Tag)
  | .slotStatusTagged slotId tag .. => [(slotId, tag)]
  | _ => []

/-- The tags an event writes or deletes. -/
def Entry.tags (entry : Entry F) : List (SlotId × Tag) :=
  match entry.payload with
  | .event (.slotStatusTagged slotId tag) | .event (.slotStatusUntagged slotId tag) => [(slotId, tag)]
  | .event (.resolutionApplied events) => events.flatMap taggedBy
  | _ => []

/-- The stream writes or deletes the tag. -/
def Speaks (entries : List (Entry F)) (tag : SlotId × Tag) : Prop :=
  ∃ entry ∈ entries, tag ∈ entry.tags

/-- What an upsert keeps of a document. -/
def documentMerge : DocumentType × Int → Merge PublicSearchDocument
  | (.game, _) => keepColumn (·.publishedAt) PublicSearchDocument.withPublishedAt
  | (.gamePost, _) => keepColumn (·.titleText) PublicSearchDocument.withTitleText

/-- Every row that was left is one the stream writes again or deletes, and it agrees there with what the
fold from empty tables makes in the columns the upserts keep: the whole row of the scheduler, a
citation's time, the title of a post's document and the time of publication of the game's. -/
structure Supported (prior : Kept) (entries : List (Entry F)) (fresh : Kept) : Prop where
  tags : ∀ tag, prior.slotStatusTag tag ≠ none → Speaks entries tag
  scheduler : ∀ row, prior.schedulerState () = some row → fresh.schedulerState () = some row
  surface : prior.publicationSurface () ≠ none → fresh.publicationSurface () ≠ none
  publications : ∀ seq, prior.publicPublication seq ≠ none → fresh.publicPublication seq ≠ none
  documents : ∀ key row, prior.publicSearchDocument key = some row → fresh.publicSearchDocument key ≠ none ∧
      documentMerge key (some row) (fresh.publicSearchDocument key) = fresh.publicSearchDocument key
  citations : ∀ key at', prior.publicCitation key = some at' → fresh.publicCitation key = some at'

/-- A stream as the commands append it: it begins with the game's creation, its positions increase, and a
post of the game quotes earlier ones. -/
structure Orderly (setting : Setting F Rest) (entries : List (Entry F)) : Prop where
  created : ∀ entry ∈ entries.head?, ∃ packKey, entry.payload = .gameCreated packKey
  ordered : entries.Pairwise (·.seq < ·.seq)
  quotes : ∀ entry ∈ entries, ∀ quoted ∈ entry.payload.quotations,
    quoted.surfaceId = setting.gameId → quoted.sourceSeq < entry.seq

/-! ## Two replays side by side -/

section Overlays

/-- A replay over leftovers beside one from nothing, without the citations. -/
structure Overlays (prior : Kept) (touched : SlotId × Tag → Prop) (fresh run : Kept) : Prop where
  tags : Overlaid (fun _ => overwrite) touched prior.slotStatusTag fresh.slotStatusTag
    run.slotStatusTag
  scheduler : Overlaid (fun _ => insertMissing) (fun k => fresh.schedulerState k ≠ none)
    prior.schedulerState fresh.schedulerState run.schedulerState
  surface : Overlaid (fun _ => overwrite) (fun k => fresh.publicationSurface k ≠ none)
    prior.publicationSurface fresh.publicationSurface run.publicationSurface
  publications : Overlaid (fun _ => overwrite) (fun k => fresh.publicPublication k ≠ none)
    prior.publicPublication fresh.publicPublication run.publicPublication
  documents : Overlaid documentMerge (fun k => fresh.publicSearchDocument k ≠ none)
    prior.publicSearchDocument fresh.publicSearchDocument run.publicSearchDocument

variable {setting : Setting F Rest} {prior fresh run : Kept} {touched : SlotId × Tag → Prop}
  {cleared : Cleared F Rest}

theorem Overlays.start (prior : Kept) : Overlays prior (fun _ => False) {} prior := by
  have hstart {κ ρ : Type} (merge : κ → Merge ρ) (rows : κ → Option ρ) :
      Overlaid merge (fun k => (fun _ => none : κ → Option ρ) k ≠ none) rows (fun _ => none) rows :=
    (Overlaid.start merge rows).congr fun _ => by simp
  exact ⟨Overlaid.start _ _, hstart _ _, hstart _ _, hstart _ _, hstart _ _⟩

section

variable (h : Overlays prior touched fresh run)
include h

theorem Overlays.congr {touched' : SlotId × Tag → Prop}
    (htouched : ∀ tag, touched tag ↔ touched' tag) : Overlays prior touched' fresh run :=
  { h with tags := h.tags.congr htouched }

theorem Overlays.writeTag (tag : SlotId × Tag) (row : Option Unit) :
    Overlays prior (fun tag' => touched tag' ∨ tag' = tag)
      { fresh with slotStatusTag := update fresh.slotStatusTag tag row }
      { run with slotStatusTag := update run.slotStatusTag tag row } :=
  { h with tags := h.tags.write (.overwrite row) }

theorem Overlays.foldInner (event : InnerEvent F) :
    Overlays prior (fun tag => touched tag ∨ tag ∈ taggedBy event) (fresh.foldInner event)
      (run.foldInner event) := by
  cases event with
  | slotStatusTagged slotId tag =>
    refine (h.writeTag (slotId, tag) (some ())).congr fun tag' => ?_
    simp [taggedBy]
  | _ => exact h.congr fun tag' => by simp [taggedBy]

theorem Overlays.foldInners (events : List (InnerEvent F)) :
    Overlays prior (fun tag => touched tag ∨ tag ∈ events.flatMap taggedBy)
      (events.foldl Kept.foldInner fresh) (events.foldl Kept.foldInner run) := by
  induction events generalizing touched fresh run with
  | nil => exact h.congr fun tag => by simp
  | cons event events ih =>
    refine (ih (h.foldInner event)).congr fun tag => ?_
    rw [List.flatMap_cons, List.mem_append, or_assoc]

theorem Overlays.insertSchedulerState :
    Overlays prior touched fresh.insertSchedulerState run.insertSchedulerState := by
  have hrow : ∀ old : Option SchedulerState, old.or (some {}) ≠ none := by
    intro old
    cases old <;> simp
  have hwritten := @Overlaid.insert _ _ _ _ _ _ _ h.scheduler () _ (.insertMissing {}) hrow
  exact { h with scheduler := hwritten }

end

theorem upsertKeeping_ne_none {ρ φ : Type} {get : ρ → φ} {set : φ → ρ → ρ} {new : ρ}
    (old : Option ρ) : upsertKeeping get set new old ≠ none := by
  cases old <;> simp [upsertKeeping]

theorem Overlays.recordSurface (h : Overlays prior touched fresh run) (surface : PublicationSurface) :
    Overlays prior touched (fresh.recordSurface surface) (run.recordSurface surface) := by
  have hwritten := @Overlaid.insert _ _ _ _ _ _ _ h.surface () _ (.overwrite (some surface))
    fun _ => Option.some_ne_none _
  exact { h with surface := hwritten }

theorem Overlays.recordSurfaceSearchDocument (h : Overlays prior touched fresh run)
    (document : PublicSearchDocument) :
    Overlays prior touched (fresh.recordSurfaceSearchDocument document)
      (run.recordSurfaceSearchDocument document) := by
  have hrespects : Respects (documentMerge (.game, 0))
      (upsertKeeping (·.publishedAt) PublicSearchDocument.withPublishedAt document) :=
    .upsertKeeping (by intros; rfl) (by intros; rfl) document
  exact { h with documents := h.documents.insert hrespects upsertKeeping_ne_none }

theorem Overlays.recordGameSurface (h : Overlays prior touched fresh run)
    (index : Option GameIndexRow) (updatedSeq occurredAt : Int) :
    Overlays prior touched (fresh.recordGameSurface setting index updatedSeq occurredAt)
      (run.recordGameSurface setting index updatedSeq occurredAt) := by
  cases index with
  | none => exact h
  | some row => exact (h.recordSurface _).recordSurfaceSearchDocument _

theorem recordGameSurface_surface (setting : Setting F Rest) (row : GameIndexRow) (kept : Kept)
    (updatedSeq occurredAt : Int) :
    (kept.recordGameSurface setting (some row) updatedSeq occurredAt).publicationSurface () =
      some (Kept.gameSurface setting row updatedSeq) := by
  simp only [Kept.recordGameSurface, Kept.recordSurfaceSearchDocument, Kept.recordSurface, update_self]

/-- A post is published under the same surface. -/
theorem Overlays.recordPublication (h : Overlays prior touched fresh run) {surface : PublicationSurface}
    (hfresh : fresh.publicationSurface () = some surface)
    (hrun : run.publicationSurface () = some surface) (sourceSeq : Int) (body : String)
    (occurredAt : Int) :
    Overlays prior touched (fresh.recordPublication setting sourceSeq body occurredAt)
      (run.recordPublication setting sourceSeq body occurredAt) := by
  simp only [Kept.recordPublication, Kept.insertPublication, hfresh, hrun,
    Kept.insertPublicationDocument, update_self]
  have hwritten (row : PublicPublication) :=
    @Overlaid.insert _ _ _ _ _ _ _ h.publications sourceSeq _ (.overwrite (some row))
      fun _ => Option.some_ne_none _
  have hrespects (document : PublicSearchDocument) : Respects (documentMerge (.gamePost, sourceSeq))
      (upsertKeeping (·.titleText) PublicSearchDocument.withTitleText document) :=
    .upsertKeeping (by intros; rfl) (by intros; rfl) document
  exact
    { h with
      publications := hwritten _
      documents := h.documents.insert (hrespects _) upsertKeeping_ne_none }

theorem Overlays.publish (h : Overlays prior touched fresh run) (row : GameIndexRow)
    (entry : Entry F) (body : String) :
    Overlays prior touched (fresh.publish setting (some row) entry body)
      (run.publish setting (some row) entry body) :=
  (h.recordGameSurface (some row) entry.seq entry.occurredAt).recordPublication
    (recordGameSurface_surface ..) (recordGameSurface_surface ..) _ _ _

theorem publish_publication (setting : Setting F Rest) (row : GameIndexRow) (kept : Kept)
    (entry : Entry F) (body : String) :
    ((kept.publish setting (some row) entry body).publicPublication entry.seq).isSome = true := by
  have hsurface := recordGameSurface_surface setting row kept entry.seq entry.occurredAt
  simp only [Kept.publish, Kept.recordPublication, Kept.insertPublication, hsurface,
    Kept.insertPublicationDocument, update_self]
  rfl

theorem recordPublicCitation_eq (setting : Setting F Rest) (kept : Kept) (quotingSeq occurredAt : Int)
    (quoted : PublicContentRef) :
    ∃ publicCitation, kept.recordPublicCitation setting quotingSeq occurredAt quoted =
      { kept with publicCitation } := by
  unfold Kept.recordPublicCitation
  split
  · exact ⟨_, rfl⟩
  · exact ⟨_, rfl⟩

theorem recordPublicCitations_eq (setting : Setting F Rest) (kept : Kept) (quotingSeq : Int)
    (quotations : List PublicContentRef) (occurredAt : Int) :
    ∃ publicCitation, kept.recordPublicCitations setting quotingSeq quotations occurredAt =
      { kept with publicCitation } := by
  unfold Kept.recordPublicCitations
  induction quotations generalizing kept with
  | nil => exact ⟨_, rfl⟩
  | cons quoted quotations ih =>
    obtain ⟨publicCitation, heq⟩ := ih (kept.recordPublicCitation setting quotingSeq occurredAt quoted)
    obtain ⟨cited, hcited⟩ := recordPublicCitation_eq setting kept quotingSeq occurredAt quoted
    rw [List.foldl_cons, heq, hcited]
    exact ⟨publicCitation, rfl⟩

/-- One event, in a game that is in the index. -/
theorem Overlays.write (h : Overlays prior touched fresh run) (hindex : cleared.index ≠ none)
    (entry : Entry F) :
    Overlays prior (fun tag => touched tag ∨ tag ∈ entry.tags) (fresh.write setting cleared entry)
      (run.write setting cleared entry) := by
  obtain ⟨row, hrow⟩ := Option.ne_none_iff_exists'.1 hindex
  obtain ⟨seq, occurredAt, payload⟩ := entry
  have hsame {fresh run : Kept} (h : Overlays prior touched fresh run) :
      Overlays prior (fun tag => touched tag ∨ tag ∈ ([] : List (SlotId × Tag))) fresh run :=
    h.congr fun tag => by simp
  cases payload with
  | gameStarted | gameCompleted => exact hsame (h.recordGameSurface _ _ _)
  | postSubmitted channelId body quotations =>
    simp only [Kept.write, hrow]
    by_cases hmain : channelId = "main"
    · rw [if_pos hmain, if_pos hmain]
      have hpublished : Overlays prior touched (fresh.publish setting (some row) _ body)
          (run.publish setting (some row) _ body) :=
        h.publish row { seq, occurredAt, payload := .postSubmitted channelId body quotations } body
      obtain ⟨cited, hcited⟩ := recordPublicCitations_eq setting (fresh.publish setting (some row)
        { seq, occurredAt, payload := .postSubmitted channelId body quotations } body) seq quotations
        occurredAt
      obtain ⟨cited', hcited'⟩ := recordPublicCitations_eq setting (run.publish setting (some row)
        { seq, occurredAt, payload := .postSubmitted channelId body quotations } body) seq quotations
        occurredAt
      rw [hcited, hcited']
      exact hsame { hpublished with }
    · rw [if_neg hmain, if_neg hmain]
      exact hsame h
  | event event =>
    cases event with
    | slotStatusTagged slotId tag =>
      exact (h.writeTag (slotId, tag) (some ())).congr fun tag' => by simp [Entry.tags]
    | slotStatusUntagged slotId tag =>
      exact (h.writeTag (slotId, tag) none).congr fun tag' => by simp [Entry.tags]
    | resolutionApplied events =>
      have hfolded := h.foldInners events
      simp only [Kept.write, hrow]
      cases setting.announcement cleared events with
      | none => exact hfolded
      | some body => exact hfolded.publish row _ body
    | _ => exact hsame h
  | _ => exact hsame h

theorem Overlays.fold (h : Overlays prior touched fresh run) (hindex : cleared.index ≠ none)
    (entry : Entry F) :
    Overlays prior (fun tag => touched tag ∨ tag ∈ entry.tags) (fresh.fold setting cleared entry)
      (run.fold setting cleared entry) := by
  unfold Kept.fold
  dsimp only
  split
  · exact (h.write hindex entry).insertSchedulerState
  · exact h.write hindex entry

end Overlays

/-! ## Citations -/

section Citations

variable {setting : Setting F Rest} {prior fresh run : Kept}

/-- The citations of a replay over leftovers beside those of one from nothing. -/
def Cited (prior fresh run : Kept) : Prop :=
  Overlaid (fun _ => insertMissing) (fun k => fresh.publicCitation k ≠ none) prior.publicCitation
    fresh.publicCitation run.publicCitation

theorem Cited.recordPublicCitations (h : Cited prior fresh run) {quotingSeq : Int}
    (hquoting : (fresh.publicPublication quotingSeq).isSome = (run.publicPublication quotingSeq).isSome)
    {quotations : List PublicContentRef}
    (hquoted : ∀ quoted ∈ quotations, fresh.isPublished setting quoted = run.isPublished setting quoted)
    (occurredAt : Int) :
    Cited prior (fresh.recordPublicCitations setting quotingSeq quotations occurredAt)
      (run.recordPublicCitations setting quotingSeq quotations occurredAt) := by
  unfold Kept.recordPublicCitations
  induction quotations generalizing fresh run with
  | nil => exact h
  | cons quoted quotations ih =>
    rw [List.foldl_cons, List.foldl_cons]
    obtain ⟨cited, hcited⟩ := recordPublicCitation_eq setting fresh quotingSeq occurredAt quoted
    obtain ⟨cited', hcited'⟩ := recordPublicCitation_eq setting run quotingSeq occurredAt quoted
    refine ih ?_ ?_ ?_
    · unfold Kept.recordPublicCitation
      rw [← hquoted quoted List.mem_cons_self, ← hquoting]
      split
      · have hrow : ∀ old : Option Int, old.or (some occurredAt) ≠ none := by
          intro old
          cases old <;> simp
        exact @Overlaid.insert _ _ _ _ _ _ _ h (quotingSeq, quoted) _ (.insertMissing occurredAt) hrow
      · exact h
    · rw [hcited, hcited']
      exact hquoting
    · rw [hcited, hcited']
      exact fun other hother => hquoted other (List.mem_cons_of_mem _ hother)

section

variable (setting)

theorem recordGameSurface_kept (index : Option GameIndexRow) (kept : Kept) (updatedSeq occurredAt : Int) :
    (kept.recordGameSurface setting index updatedSeq occurredAt).publicPublication = kept.publicPublication ∧
      (kept.recordGameSurface setting index updatedSeq occurredAt).publicCitation = kept.publicCitation := by
  cases index with
  | none => exact ⟨rfl, rfl⟩
  | some row => exact ⟨rfl, rfl⟩

theorem recordPublication_publicCitation (kept : Kept) (sourceSeq : Int) (body : String) (occurredAt : Int) :
    (kept.recordPublication setting sourceSeq body occurredAt).publicCitation = kept.publicCitation := by
  unfold Kept.recordPublication Kept.insertPublication Kept.insertPublicationDocument
  split <;> split <;> rfl

/-- A publication touches no other. -/
theorem recordPublication_of_ne (kept : Kept) {sourceSeq other : Int}
    (hother : other ≠ sourceSeq) (body : String) (occurredAt : Int) :
    (kept.recordPublication setting sourceSeq body occurredAt).publicPublication other =
      kept.publicPublication other := by
  have hdocument (kept : Kept) :
      (kept.insertPublicationDocument sourceSeq).publicPublication = kept.publicPublication := by
    unfold Kept.insertPublicationDocument
    split <;> rfl
  unfold Kept.recordPublication
  rw [hdocument]
  unfold Kept.insertPublication
  split
  · rfl
  · exact update_of_ne hother _ _

theorem publish_publicCitation (index : Option GameIndexRow) (kept : Kept) (entry : Entry F) (body : String) :
    (kept.publish setting index entry body).publicCitation = kept.publicCitation := by
  unfold Kept.publish
  rw [recordPublication_publicCitation, (recordGameSurface_kept ..).2]

theorem publish_of_ne (index : Option GameIndexRow) (kept : Kept)
    {entry : Entry F} {other : Int} (hother : other ≠ entry.seq) (body : String) :
    (kept.publish setting index entry body).publicPublication other = kept.publicPublication other := by
  unfold Kept.publish
  rw [recordPublication_of_ne _ _ hother, (recordGameSurface_kept ..).1]

theorem foldInners_kept (events : List (InnerEvent F)) (kept : Kept) :
    (events.foldl Kept.foldInner kept).publicPublication = kept.publicPublication ∧
      (events.foldl Kept.foldInner kept).publicCitation = kept.publicCitation := by
  induction events generalizing kept with
  | nil => exact ⟨rfl, rfl⟩
  | cons event events ih =>
    obtain ⟨hpublication, hcitation⟩ := ih (kept.foldInner event)
    rw [List.foldl_cons, hpublication, hcitation]
    cases event <;> exact ⟨rfl, rfl⟩

/-- An event touches no publication but its own. -/
theorem fold_publicPublication (cleared : Cleared F Rest) (kept : Kept)
    {entry : Entry F} {other : Int} (hother : other ≠ entry.seq) :
    (kept.fold setting cleared entry).publicPublication other = kept.publicPublication other := by
  have hwrite : (kept.write setting cleared entry).publicPublication other =
      kept.publicPublication other := by
    unfold Kept.write
    split
    · rw [(recordGameSurface_kept ..).1]
    · rw [(recordGameSurface_kept ..).1]
    case h_3 channelId body quotations hpayload =>
      split
      · obtain ⟨cited, hcited⟩ := recordPublicCitations_eq setting
          (kept.publish setting cleared.index entry body) entry.seq quotations entry.occurredAt
        rw [hcited]
        exact publish_of_ne _ _ _ hother _
      · rfl
    · rfl
    · rfl
    case h_6 events hpayload =>
      have hfolded := congrFun (foldInners_kept events kept).1 other
      dsimp only
      split
      · exact hfolded
      · exact (publish_of_ne _ _ _ hother _).trans hfolded
    · rfl
  unfold Kept.fold
  dsimp only
  split
  · exact hwrite
  · exact hwrite

end

/-- Both replays find the same posts of the game published. -/
theorem Overlays.isPublished_eq {touched : SlotId × Tag → Prop} (h : Overlays prior touched fresh run)
    {quoted : PublicContentRef}
    (hbacked : quoted.surfaceId = setting.gameId → prior.publicPublication quoted.sourceSeq ≠ none →
      fresh.publicPublication quoted.sourceSeq ≠ none) :
    fresh.isPublished setting quoted = run.isPublished setting quoted := by
  unfold Kept.isPublished
  by_cases hown : quoted.surfaceId = setting.gameId
  · rw [if_pos hown, if_pos hown]
    by_cases hfresh : fresh.publicPublication quoted.sourceSeq = none
    · obtain ⟨hrun, -⟩ := (h.publications quoted.sourceSeq).2 fun hne => hne hfresh
      have hprior : prior.publicPublication quoted.sourceSeq = none := by
        by_contra hne
        exact hbacked hown hne hfresh
      rw [hrun, hprior, hfresh]
    · rw [(h.publications quoted.sourceSeq).1 hfresh]
      rfl
  · rw [if_neg hown, if_neg hown]

/-- One event, in a game that is in the index, if what it quotes of the leftovers is published. -/
theorem Cited.fold (h : Cited prior fresh run) {touched : SlotId × Tag → Prop}
    (hoverlays : Overlays prior touched fresh run) {cleared : Cleared F Rest}
    (hindex : cleared.index ≠ none) {entry : Entry F}
    (hbacked : ∀ quoted ∈ entry.payload.quotations, quoted.surfaceId = setting.gameId →
      prior.publicPublication quoted.sourceSeq ≠ none → fresh.publicPublication quoted.sourceSeq ≠ none) :
    Cited prior (fresh.fold setting cleared entry) (run.fold setting cleared entry) := by
  obtain ⟨row, hrow⟩ := Option.ne_none_iff_exists'.1 hindex
  have hsame {fresh' run' : Kept} (hfresh : fresh'.publicCitation = fresh.publicCitation)
      (hrun : run'.publicCitation = run.publicCitation) : Cited prior fresh' run' := by
    unfold Cited
    rw [hfresh, hrun]
    exact h
  have hwrite : Cited prior (fresh.write setting cleared entry) (run.write setting cleared entry) := by
    obtain ⟨seq, occurredAt, payload⟩ := entry
    cases payload with
    | gameStarted | gameCompleted =>
      exact hsame (recordGameSurface_kept ..).2 (recordGameSurface_kept ..).2
    | postSubmitted channelId body quotations =>
      simp only [Kept.write, hrow]
      by_cases hmain : channelId = "main"
      · rw [if_pos hmain, if_pos hmain]
        have hpublished : Overlays prior touched (fresh.publish setting (some row) _ body)
            (run.publish setting (some row) _ body) := hoverlays.publish row
          { seq, occurredAt, payload := .postSubmitted channelId body quotations } body
        refine Cited.recordPublicCitations
          (hsame (publish_publicCitation ..) (publish_publicCitation ..)) ?_ ?_ occurredAt
        · rw [publish_publication setting row fresh ⟨seq, occurredAt, _⟩ body,
            publish_publication setting row run ⟨seq, occurredAt, _⟩ body]
        · refine fun quoted hquoted => hpublished.isPublished_eq fun hown hprior => ?_
          by_cases hself : quoted.sourceSeq = seq
          · rw [hself]
            exact Option.isSome_iff_ne_none.1
              (publish_publication setting row fresh ⟨seq, occurredAt, _⟩ body)
          · rw [publish_of_ne _ _ _ hself]
            exact hbacked quoted hquoted hown hprior
      · rw [if_neg hmain, if_neg hmain]
        exact h
    | event event =>
      cases event with
      | resolutionApplied events =>
        have hfresh := (foldInners_kept events fresh).2
        have hrun := (foldInners_kept events run).2
        simp only [Kept.write]
        cases setting.announcement cleared events with
        | none => exact hsame hfresh hrun
        | some body =>
          exact hsame ((publish_publicCitation ..).trans hfresh)
            ((publish_publicCitation ..).trans hrun)
      | _ => exact h
    | _ => exact h
  unfold Kept.fold
  dsimp only
  split
  · exact hwrite
  · exact hwrite

end Citations

/-! ## Whole streams -/

section Streams

variable {setting : Setting F Rest} {entries : List (Entry F)} {entry : Entry F}
  {tables next fresh prior : Tables F Rest}

theorem replay_concat : replay setting tables (entries ++ [entry]) = some next ↔
    ∃ before, replay setting tables entries = some before ∧ before.fold setting entry = some next := by
  unfold replay
  rw [List.foldlM_append, Option.bind_eq_bind, Option.bind_eq_some_iff]
  simp

theorem fold_eq_some : tables.fold setting entry = some next ↔
    tables.cleared.fold setting entry = some next.cleared ∧
      next.kept = tables.kept.fold setting next.cleared entry := by
  unfold Tables.fold
  rw [Option.map_eq_some_iff]
  constructor
  · rintro ⟨cleared, hcleared, rfl⟩
    exact ⟨hcleared, rfl⟩
  · rintro ⟨hcleared, hkept⟩
    exact ⟨next.cleared, hcleared, by rw [← hkept]⟩

/-- A step puts the game into the index, or leaves it there. -/
theorem Cleared.fold_index {cleared cleared' : Cleared F Rest}
    (h : cleared.fold setting entry = some cleared')
    (hindex : cleared.index ≠ none ∨ ∃ packKey, entry.payload = .gameCreated packKey) :
    cleared'.index ≠ none := by
  obtain ⟨rest, -, rfl⟩ := Option.map_eq_some_iff.1 h
  dsimp only
  rcases hindex with hindex | ⟨packKey, hpayload⟩
  · obtain ⟨row, hrow⟩ := Option.ne_none_iff_exists'.1 hindex
    cases hpayload : entry.payload <;> simp [foldIndex, hrow]
  · rw [hpayload, foldIndex]
    cases cleared.index <;> simp

theorem Orderly.before (orderly : Orderly setting (entries ++ [entry])) : Orderly setting entries := by
  refine ⟨fun first hfirst => orderly.created first ?_, (List.pairwise_append.1 orderly.ordered).1,
    fun other hother => orderly.quotes other (List.mem_append_left _ hother)⟩
  rw [Option.mem_def] at hfirst ⊢
  rw [List.head?_append, hfirst]
  rfl

/-- After an event the game is in the index. -/
theorem index_ne_none (orderly : Orderly setting entries) (hentries : entries ≠ [])
    (h : foldFromEmpty setting entries = some fresh) : fresh.cleared.index ≠ none := by
  induction entries using List.reverseRecOn generalizing fresh with
  | nil => exact absurd rfl hentries
  | append_singleton entries entry ih =>
    obtain ⟨before, hbefore, hlast⟩ := replay_concat.1 h
    refine Cleared.fold_index (fold_eq_some.1 hlast).1 ?_
    cases entries with
    | nil => exact .inr (orderly.created entry rfl)
    | cons first rest => exact .inl (ih orderly.before (List.cons_ne_nil _ _) hbefore)

/-- **The fold over leftovers beside the one from empty tables.** -/
theorem overlays_run (orderly : Orderly setting entries) (h : foldFromEmpty setting entries = some fresh) :
    ∃ run, rebuild setting prior entries = some run ∧ run.cleared = fresh.cleared ∧
      Overlays prior.kept (Speaks entries) fresh.kept run.kept := by
  induction entries using List.reverseRecOn generalizing fresh with
  | nil =>
    obtain rfl := Option.some.inj h
    exact ⟨_, rfl, rfl, (Overlays.start prior.kept).congr fun tag => by simp [Speaks]⟩
  | append_singleton entries entry ih =>
    obtain ⟨before, hbefore, hlast⟩ := replay_concat.1 h
    obtain ⟨hcleared, hkept⟩ := fold_eq_some.1 hlast
    obtain ⟨run, hrun, hsame, hoverlays⟩ := ih orderly.before hbefore
    have hindex := index_ne_none orderly (by simp) h
    refine ⟨⟨fresh.cleared, run.kept.fold setting fresh.cleared entry⟩, ?_, rfl, ?_⟩
    · exact replay_concat.2 ⟨run, hrun, fold_eq_some.2 ⟨by rw [hsame]; exact hcleared, rfl⟩⟩
    · rw [hkept]
      refine (hoverlays.fold hindex entry).congr fun tag => ?_
      simp only [Speaks, List.mem_append, List.mem_singleton]
      constructor
      · rintro (⟨other, hother, htag⟩ | htag)
        · exact ⟨other, .inl hother, htag⟩
        · exact ⟨entry, .inr rfl, htag⟩
      · rintro ⟨other, hother | rfl, htag⟩
        · exact .inl ⟨other, hother, htag⟩
        · exact .inr htag

/-- What a post quotes of the leftovers is published before it. -/
def Backed (setting : Setting F Rest) (prior : Kept) (entries : List (Entry F)) : Prop :=
  ∀ before entry after, entries = before ++ entry :: after →
    ∀ tables, foldFromEmpty setting before = some tables →
      ∀ quoted ∈ entry.payload.quotations, quoted.surfaceId = setting.gameId →
        prior.publicPublication quoted.sourceSeq ≠ none →
          tables.kept.publicPublication quoted.sourceSeq ≠ none

theorem cited_run (orderly : Orderly setting entries) (backed : Backed setting prior.kept entries)
    {run : Tables F Rest} (h : foldFromEmpty setting entries = some fresh)
    (hrun : rebuild setting prior entries = some run) : Cited prior.kept fresh.kept run.kept := by
  induction entries using List.reverseRecOn generalizing fresh run with
  | nil =>
    obtain rfl := Option.some.inj h
    obtain rfl := Option.some.inj hrun
    exact (Overlaid.start _ _).congr fun _ => by simp
  | append_singleton entries entry ih =>
    obtain ⟨before, hbefore, hlast⟩ := replay_concat.1 h
    obtain ⟨runBefore, hrunBefore, hrunLast⟩ := replay_concat.1 hrun
    obtain ⟨run', hrun', hsame, hoverlays⟩ := overlays_run orderly.before hbefore
    obtain rfl := Option.some.inj (hrunBefore.symm.trans hrun')
    obtain ⟨hcleared, hkept⟩ := fold_eq_some.1 hlast
    obtain ⟨hrunCleared, hrunKept⟩ := fold_eq_some.1 hrunLast
    rw [hsame, hcleared] at hrunCleared
    have hindex := index_ne_none orderly (by simp) h
    have hbackedBefore : Backed setting prior.kept entries := by
      rintro before entry after rfl
      exact backed before entry (after ++ [_]) (List.append_assoc before (entry :: after) _)
    rw [hkept, hrunKept, ← Option.some.inj hrunCleared]
    exact (ih orderly.before hbackedBefore hbefore hrunBefore).fold hoverlays hindex
      (backed entries entry [] rfl before hbefore)

/-- Later events leave a publication alone. -/
theorem replay_publicPublication {other : Int} (hother : ∀ entry ∈ entries, other ≠ entry.seq)
    (h : replay setting tables entries = some next) :
    next.kept.publicPublication other = tables.kept.publicPublication other := by
  induction entries using List.reverseRecOn generalizing next with
  | nil =>
    obtain rfl := Option.some.inj h
    rfl
  | append_singleton entries entry ih =>
    obtain ⟨before, hbefore, hlast⟩ := replay_concat.1 h
    rw [(fold_eq_some.1 hlast).2, fold_publicPublication _ _ _ (hother entry (by simp))]
    exact ih (fun other hmem => hother other (List.mem_append_left _ hmem)) hbefore

/-- The posts a game quotes are earlier ones, so that leftovers the stream publishes again are published
before they are quoted. -/
theorem backed_of_supported (orderly : Orderly setting entries)
    (h : foldFromEmpty setting entries = some fresh)
    (hpublished : ∀ seq, prior.kept.publicPublication seq ≠ none →
      fresh.kept.publicPublication seq ≠ none) : Backed setting prior.kept entries := by
  rintro before entry after rfl tables htables quoted hquoted hown hprior
  have hafter : replay setting tables (entry :: after) = some fresh := by
    rw [foldFromEmpty, replay, List.foldlM_append, Option.bind_eq_bind, Option.bind_eq_some_iff] at h
    obtain ⟨tables', htables', hrest⟩ := h
    obtain rfl := Option.some.inj (htables.symm.trans htables')
    exact hrest
  have hearlier : quoted.sourceSeq < entry.seq :=
    orderly.quotes entry (by simp) quoted hquoted hown
  have hlater : ∀ other ∈ entry :: after, quoted.sourceSeq ≠ other.seq := by
    intro other hother
    rcases List.mem_cons.1 hother with rfl | hmem
    · omega
    · have horder := (List.pairwise_cons.1 (List.pairwise_append.1 orderly.ordered).2.1).1 other hmem
      omega
  rw [← replay_publicPublication hlater hafter]
  exact hpublished _ hprior

theorem overwrite_none {ρ : Type} (fresh : Option ρ) : overwrite none fresh = fresh := rfl

theorem insertMissing_none {ρ : Type} (fresh : Option ρ) : insertMissing none fresh = fresh :=
  Option.none_or

theorem documentMerge_none (key : DocumentType × Int) (fresh : Option PublicSearchDocument) :
    documentMerge key none fresh = fresh := by
  obtain ⟨kind, seq⟩ := key
  cases kind <;> rfl

/-- The rows of the tables that are overwritten or only inserted. -/
theorem overwritten_iff {κ ρ : Type} {touched : κ → Prop} {prior fresh run : κ → Option ρ}
    (h : Overlaid (fun _ => overwrite) touched prior fresh run) :
    run = fresh ↔ ∀ k, prior k ≠ none → touched k := by
  rw [h.eq_iff fun _ => overwrite_none]
  constructor
  · intro hsupported k hprior
    obtain ⟨row, hrow⟩ := Option.ne_none_iff_exists'.1 hprior
    exact (hsupported k row hrow).1
  · exact fun hsupported k row hrow => ⟨hsupported k (by simp [hrow]), rfl⟩

theorem inserted_iff {κ ρ : Type} {prior fresh run : κ → Option ρ}
    (h : Overlaid (fun _ => insertMissing) (fun k => fresh k ≠ none) prior fresh run) :
    run = fresh ↔ ∀ k row, prior k = some row → fresh k = some row := by
  rw [h.eq_iff fun _ => insertMissing_none]
  constructor
  · exact fun hsupported k row hrow => (hsupported k row hrow).2.symm
  · intro hsupported k row hrow
    rw [hsupported k row hrow]
    exact ⟨Option.some_ne_none _, rfl⟩

/-- **A rebuild ends in the rows that the fold makes from empty tables exactly if what was left is
supported by the stream.** -/
theorem rebuild_iff (orderly : Orderly setting entries) (h : foldFromEmpty setting entries = some fresh) :
    rebuild setting prior entries = some fresh ↔ Supported prior.kept entries fresh.kept := by
  obtain ⟨run, hrun, hcleared, hoverlays⟩ := @overlays_run _ _ _ _ _ prior orderly h
  have hcited (backed : Backed setting prior.kept entries) := cited_run orderly backed h hrun
  constructor
  · intro heq
    obtain rfl : run = fresh := Option.some.inj (hrun.symm.trans heq)
    have hpublications := (overwritten_iff hoverlays.publications).1 rfl
    have hdocuments := (hoverlays.documents.eq_iff documentMerge_none).1 rfl
    exact
      { tags := (overwritten_iff hoverlays.tags).1 rfl
        scheduler := (inserted_iff hoverlays.scheduler).1 rfl ()
        surface := (overwritten_iff hoverlays.surface).1 rfl ()
        publications := hpublications
        documents := hdocuments
        citations := (inserted_iff (hcited (backed_of_supported orderly h hpublications))).1 rfl }
  · intro supported
    have htags := (overwritten_iff hoverlays.tags).2 supported.tags
    have hscheduler := (inserted_iff hoverlays.scheduler).2 fun _ => supported.scheduler
    have hsurface := (overwritten_iff hoverlays.surface).2 fun _ => supported.surface
    have hpublications := (overwritten_iff hoverlays.publications).2 supported.publications
    have hdocuments := (hoverlays.documents.eq_iff documentMerge_none).2 supported.documents
    have hcitations := (inserted_iff (hcited
      (backed_of_supported orderly h supported.publications))).2 supported.citations
    rw [hrun]
    obtain ⟨cleared, kept⟩ := run
    obtain ⟨freshCleared, freshKept⟩ := fresh
    obtain ⟨slotStatusTag, schedulerState, surface, publication, document, citation⟩ := kept
    dsimp only at hcleared htags hscheduler hsurface hpublications hdocuments hcitations
    subst hcleared htags hscheduler hsurface hpublications hdocuments hcitations
    rfl

/-- **A rebuild of rows the fold has made changes nothing.** -/
theorem rebuild_unchanged (orderly : Orderly setting entries)
    (h : foldFromEmpty setting entries = some fresh) :
    rebuild setting fresh entries = some fresh := by
  obtain ⟨run, -, -, hoverlays⟩ := @overlays_run _ _ _ _ _ fresh orderly h
  refine (rebuild_iff orderly h).2 ⟨fun tag htag => ?_, fun _ => id, id, fun _ => id,
    fun key row hrow => ⟨by simp [hrow], ?_⟩, fun _ _ => id⟩
  · by_contra hunspoken
    exact htag ((hoverlays.tags tag).2 hunspoken).2
  · rw [hrow]
    obtain ⟨kind, seq⟩ := key
    cases kind <;> rfl

end Streams

/-! ## A tag no event speaks of -/

/-- A game of which only the modelled tables are kept. -/
def bareSetting : Setting Rat Unit where
  gameId := 1
  gameIdText := "1"
  emptyRest := ()
  foldRest _ _ := some ()
  announcement _ _ := none
  hidden _ := false
  publishedElsewhere _ := false

/-- A game with one slot, which is tagged or not. -/
def oneSlotGame (tags : List Tag) : List (Entry Rat) :=
  [{ seq := 1, occurredAt := 0, payload := .gameCreated "mafia" },
    { seq := 2, occurredAt := 0, payload := .event (.slotAdded "a") }] ++
    tags.zipIdx.map fun (tag, index) =>
      { seq := 3 + index, occurredAt := 0, payload := .event (.slotStatusTagged "a" tag) }

/-- Rows with one tag more. -/
def withTag (tables : Tables Rat Unit) : Tables Rat Unit :=
  { tables with kept := tables.kept.upsertStatusTag "a" "treestump" }

theorem oneSlotGame_orderly {tags : List Tag} (htags : tags.length ≤ 1) :
    Orderly bareSetting (oneSlotGame tags) := by
  match tags, htags with
  | [], _ | [_], _ =>
    exact ⟨by simp [oneSlotGame], by simp [oneSlotGame], by simp [oneSlotGame, Payload.quotations]⟩

/-- A leftover tag of which the stream speaks. -/
theorem spokenTag_rebuilt : ∃ fresh, foldFromEmpty bareSetting (oneSlotGame ["treestump"]) = some fresh ∧
      rebuild bareSetting (withTag { cleared := emptyCleared bareSetting })
        (oneSlotGame ["treestump"]) = some fresh := by
  refine ⟨_, rfl, (rebuild_iff (oneSlotGame_orderly le_rfl) rfl).2 ⟨fun tag htag => ?_, ?_, ?_, ?_, ?_, ?_⟩⟩
  · refine ⟨⟨3, 0, .event (.slotStatusTagged "a" "treestump")⟩, by simp [oneSlotGame], ?_⟩
    by_contra hother
    refine htag (update_of_ne ?_ _ _)
    simpa [Entry.tags] using hother
  all_goals simp [withTag, Kept.upsertStatusTag]

/-- A leftover tag of which it does not: the rebuild changes nothing, though the fold from empty tables has
no such row. -/
theorem leftoverTag_stays : Orderly bareSetting (oneSlotGame []) ∧
    ∃ fresh, foldFromEmpty bareSetting (oneSlotGame []) = some fresh ∧
      rebuild bareSetting fresh (oneSlotGame []) = some fresh ∧
      rebuild bareSetting (withTag fresh) (oneSlotGame []) = some (withTag fresh) ∧
      fresh.kept.slotStatusTag ("a", "treestump") = none ∧
      (withTag fresh).kept.slotStatusTag ("a", "treestump") = some () :=
  ⟨oneSlotGame_orderly (Nat.zero_le 1), _, rfl, rfl, rfl, rfl, by decide +kernel⟩

end Fmarch.Projections.Rebuild
