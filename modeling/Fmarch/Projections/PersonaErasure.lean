import Mathlib.Data.List.Find
import Mathlib.Data.List.Induction

/-!
# Personas and erasures (`projections/src/lib.rs`, `identity/src/member_lifecycle.rs`, `subject_privacy.rs`)

The rows of a game's personas are folded from its `GamePersonaRegistered` and `GamePersonaRenamed` events, which
name a subject and a sealed claim. While the subject is active the claim is opened; once its erasure is
requested, a fold shows the alias of the erasure instead. The rows that are there are redacted by the request,
and once more when the erasure is finalised. A rebuild deletes the rows and folds the events again.

**`rows_rebuilt_iff`**: in a run, the rows are always those that a rebuild would give exactly when each request
and each finalisation finds its subject's persona renamed already, and no other persona ever shown under a
name that this one claims. **`unrenamed_not_rebuilt`**: the redaction of a persona that was never renamed
sets `renamed_seq`, which a rebuild leaves unset.

The rows are those of one game. Rust's `trim` and `to_lowercase` are parameters, as what a claim opens to is;
on the aliases that `random_tombstone_alias` draws, Postgres' `btrim` and `lower` change nothing either.
-/

namespace Fmarch.Projections.PersonaErasure

open Function (update update_self update_of_ne update_apply update_comm update_idem)

/-! ## Rows -/

/-- `game_persona_public`. -/
structure PersonaPublic where
  currentPublicName : String
  registeredSeq : Nat
  renamedSeq : Option Nat
  deriving DecidableEq

/-- `game_persona_subject_binding.lifecycle`, with `current_claim_id`, which exactly an active one has. -/
inductive Lifecycle where
  | active (currentClaimId : Nat)
  | redacted
  deriving DecidableEq

/-- `game_persona_subject_binding`. -/
structure Binding where
  subjectId : Nat
  lifecycle : Lifecycle

/-- `game_persona_redaction`. -/
structure Redaction where
  replacementPublicName : String
  redactedAt : Nat

/-- `game_persona_name_claim`. -/
structure NameClaim where
  personaId : Nat
  firstClaimedSeq : Nat

/-- The tables of the personas of a game by their keys, and the unique index of a binding's subject. -/
@[ext]
structure Rows where
  gamePersona : Nat → Option Nat := fun _ => none
  publics : Nat → Option PersonaPublic := fun _ => none
  nameHistory : Nat → Nat → Option String := fun _ _ => none
  nameClaims : String → Option NameClaim := fun _ => none
  redactions : Nat → Option Redaction := fun _ => none
  bindings : Nat → Option Binding := fun _ => none
  subjectIdx : Nat → Option Nat := fun _ => none

/-- What the text functions and the sealed claims give, and the aliases of an imported archive. -/
structure Context where
  trim : String → String
  toLowercase : String → String
  openClaim : Nat → String
  detachedAlias : Nat → Option String

/-- `random_tombstone_alias`: trimmed, in lower case, and not blank. -/
structure Alias (ctx : Context) where
  name : String
  trimmed : ctx.trim name = name
  lowered : ctx.toLowercase name = name
  nonblank : name ≠ ""

/-- What `subject_erasure_outbox` and `subject_tombstone` have of an erasure: the alias and its time. -/
structure Erasure (ctx : Context) where
  replacementAlias : Alias ctx
  time : Nat

/-- The erasures of the subjects that are requested, and those that are finalised. -/
structure Privacy (ctx : Context) where
  outbox : Nat → Option (Erasure ctx) := fun _ => none
  tombstones : Nat → Option (Erasure ctx) := fun _ => none

/-- `subject_tombstone_alias`, and the overlay of `upsert_game_persona_redaction_from_subject`: the alias is the
tombstone's if there is one, and the time the request's. -/
def Privacy.overlay {ctx : Context} (privacy : Privacy ctx) (subjectId : Nat) : Option (Erasure ctx) :=
  match privacy.tombstones subjectId, privacy.outbox subjectId with
  | some tombstone, some outbox => some ⟨tombstone.replacementAlias, outbox.time⟩
  | some tombstone, none => some tombstone
  | none, outbox => outbox

/-- `ResolvedGamePersonaPresentation`. -/
inductive Presentation (ctx : Context) where
  | active (publicName : String)
  | redacted (erasure : Erasure ctx)
  | detached (name : String)

variable {ctx : Context}

/-- The name that a presentation shows. -/
def Presentation.publicName : Presentation ctx → String
  | .active publicName => publicName
  | .redacted erasure => erasure.replacementAlias.name
  | .detached name => name

def resolveGamePersonaPresentation (privacy : Privacy ctx) (subjectId claimId : Nat) : Presentation ctx :=
  match ctx.detachedAlias subjectId with
  | some name => .detached name
  | none =>
    match privacy.overlay subjectId with
    | some erasure => .redacted erasure
    | none => .active (ctx.openClaim claimId)

/-! ## Folding -/

/-- `INSERT INTO game_persona_name_claim … ON CONFLICT DO NOTHING`. -/
def claimName (nameClaims : String → Option NameClaim) (normalizedName : String) (personaId seq : Nat) :
    String → Option NameClaim :=
  if nameClaims normalizedName = none then update nameClaims normalizedName (some ⟨personaId, seq⟩)
  else nameClaims

/-- The rows that a registration inserts a binding to. -/
def bindSubject (rows : Rows) (personaId subjectId claimId : Nat) : Presentation ctx → Rows
  | .active _ =>
    { rows with
      bindings := update rows.bindings personaId (some ⟨subjectId, .active claimId⟩)
      subjectIdx := update rows.subjectIdx subjectId (some personaId) }
  | .redacted erasure =>
    { rows with
      bindings := update rows.bindings personaId (some ⟨subjectId, .redacted⟩)
      subjectIdx := update rows.subjectIdx subjectId (some personaId)
      redactions := update rows.redactions personaId (some ⟨erasure.replacementAlias.name, erasure.time⟩) }
  | .detached _ => rows

/-- The rows whose binding a rename updates or looks at. -/
def rebindSubject (rows : Rows) (personaId subjectId claimId : Nat) : Presentation ctx → Option Rows
  | .active _ =>
    match rows.bindings personaId with
    | some ⟨bound, .active _⟩ =>
      if bound = subjectId then
        some { rows with
          bindings := update rows.bindings personaId (some ⟨subjectId, .active claimId⟩) }
      else none
    | _ => none
  | .redacted erasure =>
    match rows.bindings personaId with
    | some ⟨bound, .redacted⟩ =>
      if bound = subjectId then
        some { rows with
          redactions :=
            update rows.redactions personaId (some ⟨erasure.replacementAlias.name, erasure.time⟩) }
      else none
    | _ => none
  | .detached _ => if rows.bindings personaId = none then some rows else none

/-- `GamePersonaRegistered` or `GamePersonaRenamed`. -/
inductive Kind where
  | registered
  | renamed

/-- An event of a game's personas, with its place in the stream. -/
structure PersonaEvent where
  kind : Kind
  personaId : Nat
  subjectId : Nat
  claimId : Nat
  seq : Nat

/-- The name, its history and its claim, which both kinds of events write. -/
def showName (ctx : Context) (rows : Rows) (event : PersonaEvent) (publicName : String)
    (row : PersonaPublic) : Rows :=
  { rows with
    publics := update rows.publics event.personaId (some row)
    nameHistory := update rows.nameHistory event.personaId
      (update (rows.nameHistory event.personaId) event.seq (some (ctx.trim publicName)))
    nameClaims := claimName rows.nameClaims (ctx.toLowercase (ctx.trim publicName)) event.personaId event.seq }

/-- A registration conflicts with a key that is there. -/
def Rows.conflicts (rows : Rows) (event : PersonaEvent) : Presentation ctx → Bool
  | .detached _ => (rows.gamePersona event.personaId).isSome || (rows.publics event.personaId).isSome ||
      (rows.nameHistory event.personaId event.seq).isSome
  | _ => (rows.gamePersona event.personaId).isSome || (rows.publics event.personaId).isSome ||
      (rows.nameHistory event.personaId event.seq).isSome || (rows.bindings event.personaId).isSome ||
      (rows.subjectIdx event.subjectId).isSome

def registerGamePersona (rows : Rows) (event : PersonaEvent) (resolved : Presentation ctx) : Option Rows :=
  if ctx.toLowercase (ctx.trim resolved.publicName) = "" ∨ rows.conflicts event resolved = true then none
  else
    some (showName ctx
      (bindSubject { rows with gamePersona := update rows.gamePersona event.personaId (some event.seq) }
        event.personaId event.subjectId event.claimId resolved)
      event resolved.publicName ⟨ctx.trim resolved.publicName, event.seq, none⟩)

def renameGamePersona (rows : Rows) (event : PersonaEvent) (resolved : Presentation ctx) : Option Rows :=
  if ctx.toLowercase (ctx.trim resolved.publicName) = "" ∨
      (rows.nameHistory event.personaId event.seq).isSome = true then none
  else
    match rows.publics event.personaId, rebindSubject rows event.personaId event.subjectId event.claimId resolved with
    | some row, some bound =>
      some (showName ctx bound event resolved.publicName
        { row with currentPublicName := ctx.trim resolved.publicName, renamedSeq := some event.seq })
    | _, _ => none

/-- `fold_event`, of the events of personas. -/
def foldEvent (privacy : Privacy ctx) (rows : Rows) (event : PersonaEvent) : Option Rows :=
  let resolved : Presentation ctx := resolveGamePersonaPresentation privacy event.subjectId event.claimId
  match event.kind with
  | .registered => registerGamePersona rows event resolved
  | .renamed => renameGamePersona rows event resolved

/-- `rebuild_game_from_events_in_tx`, of the rows of personas. -/
def rebuildGame (privacy : Privacy ctx) (events : List PersonaEvent) : Option Rows :=
  events.foldlM (foldEvent privacy) {}

/-! ## Erasing -/

/-- The redaction of the persona of a subject. -/
def redactSubject (rows : Rows) (subjectId : Nat) (pseudonym : Alias ctx) (redactedAt : Nat) : Option Rows :=
  match rows.subjectIdx subjectId with
  | none => some rows
  | some personaId =>
    let released : String → Option NameClaim := fun name =>
      (rows.nameClaims name).filter fun claim => claim.personaId ≠ personaId
    match rows.gamePersona personaId, released pseudonym.name with
    | some registeredSeq, none =>
      some { rows with
        redactions := update rows.redactions personaId
          (match rows.redactions personaId with
          | some redaction => some { redaction with replacementPublicName := pseudonym.name }
          | none => some ⟨pseudonym.name, redactedAt⟩)
        nameClaims := update released pseudonym.name (some ⟨personaId, registeredSeq⟩)
        nameHistory := update rows.nameHistory personaId
          fun seq => (rows.nameHistory personaId seq).map fun _ => pseudonym.name
        publics := update rows.publics personaId ((rows.publics personaId).map fun row =>
          { row with
            currentPublicName := pseudonym.name
            renamedSeq := row.renamedSeq <|> some row.registeredSeq })
        bindings := update rows.bindings personaId ((rows.bindings personaId).map fun binding =>
          { binding with lifecycle := .redacted }) }
    | _, _ => none

/-- `apply_retained_authorship_redaction`, of the rows of personas. -/
def applyRetainedAuthorshipRedaction (rows : Rows) (subjectId : Nat) (pseudonym : Alias ctx) (redactedAt : Nat) :
    Option Rows := redactSubject rows subjectId pseudonym redactedAt

/-- `scrub_subject_projections`, of the rows of personas. -/
def scrubSubjectProjections (rows : Rows) (subjectId : Nat) (pseudonym : Alias ctx) (destroyedAt : Nat) :
    Option Rows := redactSubject rows subjectId pseudonym destroyedAt

/-! ## Runs -/

/-- The rows of a game, its events, and the erasures of the subjects. -/
structure Db (ctx : Context) where
  rows : Rows := {}
  events : List PersonaEvent := []
  privacy : Privacy ctx := {}

/-- What happens to them. -/
inductive Op (ctx : Context) where
  /-- An event is appended and folded. -/
  | append (event : PersonaEvent)
  /-- `request_member_erasure`, or the recovery of an external revocation. -/
  | requestErasure (subjectId : Nat) (pseudonym : Alias ctx) (now : Nat)
  /-- `finalize_subject_erasure`. -/
  | finaliseErasure (subjectId : Nat)
  /-- The game is rebuilt. -/
  | rebuild

/-- One transaction, unless it fails. -/
def step (db : Db ctx) : Op ctx → Option (Db ctx)
  | .append event => do
    let rows ← foldEvent db.privacy db.rows event
    some { db with rows, events := db.events ++ [event] }
  | .requestErasure subjectId pseudonym now =>
    match db.privacy.outbox subjectId with
    | some _ => some db
    | none => do
      let rows ← applyRetainedAuthorshipRedaction db.rows subjectId pseudonym now
      some { db with
        rows
        privacy := { db.privacy with outbox := update db.privacy.outbox subjectId (some ⟨pseudonym, now⟩) } }
  | .finaliseErasure subjectId =>
    match db.privacy.outbox subjectId, db.privacy.tombstones subjectId with
    | some erasure, none => do
      let rows ← scrubSubjectProjections db.rows subjectId erasure.replacementAlias erasure.time
      some { db with
        rows
        privacy := { db.privacy with
          tombstones := update db.privacy.tombstones subjectId (some erasure) } }
    | _, _ => none
  | .rebuild => do
    let rows ← rebuildGame db.privacy db.events
    some { db with rows }

/-- Transactions, one after another. -/
def run (ops : List (Op ctx)) : Option (Db ctx) := ops.foldlM step {}

/-! ## Name claims -/

variable {nameClaims claims : String → Option NameClaim} {personaId seq : Nat}

theorem claimName_apply (nameClaims : String → Option NameClaim) (name : String) (personaId seq : Nat) (other : String) :
    claimName nameClaims name personaId seq other =
      if other = name ∧ nameClaims name = none then some ⟨personaId, seq⟩ else nameClaims other := by
  unfold claimName
  by_cases hfree : nameClaims name = none
  · by_cases hother : other = name
    · rw [if_pos hfree, if_pos ⟨hother, hfree⟩, hother, update_self]
    · rw [if_pos hfree, if_neg fun h => hother h.1, update_of_ne hother]
  · rw [if_neg hfree, if_neg fun h => hfree h.2]

theorem claimName_mono {other : String} {claim : NameClaim}
    (h : nameClaims other = some claim) (name : String) (personaId seq : Nat) :
    claimName nameClaims name personaId seq other = some claim := by
  rw [claimName_apply, if_neg, h]
  rintro ⟨rfl, hfree⟩
  exact nomatch hfree.symm.trans h

/-! ## What an event does -/

/-- What holds of the rows that are folded from events. -/
structure Wf (ctx : Context) (rows : Rows) : Prop where
  subjectIdx : ∀ subjectId personaId, rows.subjectIdx subjectId = some personaId ↔
    (rows.bindings personaId).map (·.subjectId) = some subjectId
  absent : ∀ personaId, rows.gamePersona personaId = none → rows.publics personaId = none ∧
    rows.bindings personaId = none ∧ rows.redactions personaId = none ∧
    ∀ seq, rows.nameHistory personaId seq = none
  registered : ∀ personaId seq, rows.gamePersona personaId = some seq →
    ∃ row, rows.publics personaId = some row ∧ row.registeredSeq = seq

theorem Wf.empty (ctx : Context) : Wf ctx {} where
  subjectIdx _ _ := ⟨fun h => (nomatch h), fun h => (nomatch h)⟩
  absent _ _ := ⟨rfl, rfl, rfl, fun _ => rfl⟩
  registered _ _ h := nomatch h

variable {rows : Rows}

/-- The persona of a subject is registered. -/
theorem Wf.bound (h : Wf ctx rows) {subjectId personaId : Nat}
    (hidx : rows.subjectIdx subjectId = some personaId) : rows.gamePersona personaId ≠ none := by
  intro hnone
  rw [h.subjectIdx, (h.absent _ hnone).2.1] at hidx
  exact nomatch hidx

/-- The history after a name is shown. -/
theorem showName_history (rows : Rows) (event : PersonaEvent) (publicName : String) (row : PersonaPublic)
    (personaId seq : Nat) : (showName ctx rows event publicName row).nameHistory personaId seq =
      if personaId = event.personaId ∧ seq = event.seq then some (ctx.trim publicName)
      else rows.nameHistory personaId seq := by
  show update rows.nameHistory event.personaId _ personaId seq = _
  by_cases hpersona : personaId = event.personaId
  · rw [hpersona, update_self, update_apply]
    by_cases hseq : seq = event.seq
    · rw [if_pos hseq, if_pos ⟨rfl, hseq⟩]
    · rw [if_neg hseq, if_neg fun h => hseq h.2]
  · rw [update_of_ne hpersona, if_neg fun h => hpersona h.1]

variable {event : PersonaEvent}

theorem showName_history_mono (publicName : String) (row : PersonaPublic)
    {shown : String} (hnew : rows.nameHistory event.personaId event.seq = none)
    (h : rows.nameHistory personaId seq = some shown) :
    (showName ctx rows event publicName row).nameHistory personaId seq = some shown := by
  rw [showName_history, if_neg, h]
  rintro ⟨rfl, rfl⟩
  exact nomatch hnew.symm.trans h

/-- The rows of the other personas stay, and the event's has its row. -/
theorem Wf.showName {rows base : Rows} (h : Wf ctx rows) {row : PersonaPublic} (publicName : String)
    (hidx : ∀ subjectId personaId, base.subjectIdx subjectId = some personaId ↔
      (base.bindings personaId).map (·.subjectId) = some subjectId)
    (hpersona : base.gamePersona event.personaId = some row.registeredSeq)
    (hothers : ∀ personaId ≠ event.personaId, base.gamePersona personaId = rows.gamePersona personaId ∧
      base.bindings personaId = rows.bindings personaId ∧ base.redactions personaId = rows.redactions personaId)
    (hpublics : base.publics = rows.publics) (hhistory : base.nameHistory = rows.nameHistory) :
    Wf ctx (showName ctx base event publicName row) where
  subjectIdx := hidx
  absent personaId hnone := by
    have hne : personaId ≠ event.personaId := by
      rintro rfl
      exact nomatch hpersona.symm.trans hnone
    obtain ⟨hgame, hbinding, hredaction⟩ := hothers personaId hne
    obtain ⟨hpublic, hbound, hredacted, hnames⟩ := h.absent personaId (hgame.symm.trans hnone)
    refine ⟨?_, hbinding.trans hbound, hredaction.trans hredacted, fun seq => ?_⟩
    · show update base.publics event.personaId _ personaId = none
      rw [update_of_ne hne, hpublics]
      exact hpublic
    · rw [showName_history, if_neg fun hc => hne hc.1, hhistory]
      exact hnames seq
  registered personaId seq hgame := by
    show ∃ row', update base.publics event.personaId (some row) personaId = some row' ∧ _
    by_cases hne : personaId = event.personaId
    · rw [hne] at hgame ⊢
      exact ⟨row, update_self _ _ base.publics, Option.some.inj (hpersona.symm.trans hgame)⟩
    · rw [update_of_ne hne, hpublics]
      exact h.registered personaId seq ((hothers personaId hne).1.symm.trans hgame)

variable {resolved : Presentation ctx} {rows' bound next : Rows} {claimId other : Nat}
   {privacy privacy' : Privacy ctx} {erasure : Erasure ctx} {events : List PersonaEvent}
   {db : Db ctx} {op : Op ctx}

/-- Writes the entry of a key, where there is one. -/
def put {α : Type} (table : Nat → Option α) (key : Nat) : Option α → Nat → Option α
  | none => table
  | some value => update table key (some value)

section Put

variable {α : Type} {table : Nat → Option α} {key seen : Nat} {entry : Option α}

theorem put_of_ne (hne : seen ≠ key) : put table key entry seen = table seen := by
  cases entry with
  | none => rfl
  | some value => exact update_of_ne hne _ table

theorem put_update {own : Nat} {value : Option α} (hne : key ≠ own) :
    put (update table own value) key entry = update (put table key entry) own value := by
  cases entry with
  | none => rfl
  | some written => exact (update_comm hne _ _ table).symm

end Put

/-- The binding that a registration inserts. -/
def Presentation.binding (subjectId claimId : Nat) : Presentation ctx → Option Binding
  | .active _ => some ⟨subjectId, .active claimId⟩
  | .redacted _ => some ⟨subjectId, .redacted⟩
  | .detached _ => none

/-- The binding that a rename writes. -/
def Presentation.rebinding (subjectId claimId : Nat) : Presentation ctx → Option Binding
  | .active _ => some ⟨subjectId, .active claimId⟩
  | _ => none

def Presentation.redaction : Presentation ctx → Option Redaction
  | .redacted erasure => some ⟨erasure.replacementAlias.name, erasure.time⟩
  | _ => none

/-- The id of what is bound, a persona or its subject. -/
def Presentation.indexed (id : Nat) : Presentation ctx → Option Nat
  | .detached _ => none
  | _ => some id

/-- The rows with a binding and a redaction of a persona written. -/
def Rows.written (rows : Rows) (personaId : Nat) (binding : Option Binding) (redaction : Option Redaction) : Rows :=
  { rows with bindings := put rows.bindings personaId binding, redactions := put rows.redactions personaId redaction }

theorem bindSubject_eq (rows : Rows) (personaId subjectId claimId : Nat) (resolved : Presentation ctx) :
    bindSubject rows personaId subjectId claimId resolved =
      { rows with subjectIdx := put rows.subjectIdx subjectId (resolved.indexed personaId) }.written personaId
        (resolved.binding subjectId claimId) resolved.redaction := by cases resolved <;> rfl

/-- The binding that a rename needs. -/
def Rebinds (subjectId : Nat) (found : Option Binding) : Presentation ctx → Prop
  | .active _ => ∃ current, found = some ⟨subjectId, .active current⟩
  | .redacted _ => found = some ⟨subjectId, .redacted⟩
  | .detached _ => found = none

theorem rebindSubject_eq_some {rows bound : Rows} {personaId subjectId claimId : Nat} {resolved : Presentation ctx} :
    rebindSubject rows personaId subjectId claimId resolved = some bound ↔
      Rebinds subjectId (rows.bindings personaId) resolved ∧
        bound = rows.written personaId (resolved.rebinding subjectId claimId) resolved.redaction := by
  cases resolved <;> rcases hfound : rows.bindings personaId with _ | ⟨owner, _ | _⟩ <;>
    simp [rebindSubject, Rebinds, hfound, Rows.written, put, Presentation.rebinding, Presentation.redaction,
      @eq_comm Rows bound]

theorem registerGamePersona_eq_some : registerGamePersona rows event resolved = some rows' ↔
      ctx.toLowercase (ctx.trim resolved.publicName) ≠ "" ∧ rows.conflicts event resolved = false ∧
        rows' = showName ctx
          (bindSubject { rows with gamePersona := update rows.gamePersona event.personaId (some event.seq) }
            event.personaId event.subjectId event.claimId resolved)
          event resolved.publicName ⟨ctx.trim resolved.publicName, event.seq, none⟩ := by
  unfold registerGamePersona
  rw [Option.ite_none_left_eq_some, not_or, Bool.not_eq_true, and_assoc, Option.some.injEq, @eq_comm Rows _ rows']

theorem renameGamePersona_eq_some : renameGamePersona rows event resolved = some rows' ↔
      ctx.toLowercase (ctx.trim resolved.publicName) ≠ "" ∧ rows.nameHistory event.personaId event.seq = none ∧
        ∃ row bound, rows.publics event.personaId = some row ∧
          rebindSubject rows event.personaId event.subjectId event.claimId resolved = some bound ∧
          rows' = showName ctx bound event resolved.publicName
            { row with currentPublicName := ctx.trim resolved.publicName, renamedSeq := some event.seq } := by
  unfold renameGamePersona
  rw [Option.ite_none_left_eq_some, not_or, Bool.not_eq_true, and_assoc, Option.isSome_eq_false_iff,
    Option.isNone_iff_eq_none]
  cases rows.publics event.personaId <;>
    cases rebindSubject rows event.personaId event.subjectId event.claimId resolved <;>
      simp [@eq_comm Rows rows']

theorem conflicts_inv
    (h : rows.conflicts event resolved = false) : rows.gamePersona event.personaId = none := by
  unfold Rows.conflicts at h
  cases resolved <;>
    simp only [Bool.or_eq_false_iff, Option.isSome_eq_false_iff, Option.isNone_iff_eq_none] at h
  · exact h.1.1.1.1
  · exact h.1.1.1.1
  · exact h.1.1

theorem conflicts_unindexed (h : rows.conflicts event resolved = false)
    (hattached : resolved.indexed event.subjectId ≠ none) : rows.subjectIdx event.subjectId = none := by
  cases resolved with
  | detached name => exact absurd rfl hattached
  | active publicName | redacted erasure =>
    exact Option.isNone_iff_eq_none.1 (Option.isSome_eq_false_iff.1 (Bool.or_eq_false_iff.1 h).2)

variable {subjectId : Nat}

theorem resolve_indexed : (resolveGamePersonaPresentation privacy other claimId).indexed other = some subjectId ↔
    other = subjectId ∧ ctx.detachedAlias other = none := by
  unfold resolveGamePersonaPresentation
  cases ctx.detachedAlias other with
  | some name => simp [Presentation.indexed]
  | none => cases privacy.overlay other <;> simp [Presentation.indexed]

/-- A rename finds a binding of the subject, and leaves one. -/
theorem Rebinds.owner {bindings : Nat → Option Binding} (h : Rebinds subjectId (bindings personaId) resolved)
    (claimId : Nat) : (bindings personaId).map (·.subjectId) = resolved.indexed subjectId ∧
      (put bindings personaId (resolved.rebinding subjectId claimId) personaId).map (·.subjectId) =
        resolved.indexed subjectId := by
  cases resolved with
  | active publicName =>
    obtain ⟨current, hfound⟩ := h
    simp [hfound, put, Presentation.rebinding, Presentation.indexed]
  | redacted erasure
  | detached name => simp [show bindings personaId = _ from h, put, Presentation.rebinding, Presentation.indexed]

/-- A new binding of a new persona and a subject that had none. -/
theorem Wf.bind (h : Wf ctx rows) (lifecycle : Lifecycle)
    (hpersona : rows.bindings personaId = none) (hsubject : rows.subjectIdx subjectId = none) (s p : Nat) :
    update rows.subjectIdx subjectId (some personaId) s = some p ↔
      (update rows.bindings personaId (some ⟨subjectId, lifecycle⟩) p).map (·.subjectId) = some s := by
  by_cases hs : s = subjectId <;> by_cases hp : p = personaId
  · simp [hs, hp]
  · rw [hs, update_self, update_of_ne hp, ← h.subjectIdx, hsubject]
    simp [Ne.symm hp]
  · rw [hp, update_of_ne hs, update_self, h.subjectIdx, hpersona]
    simp [Ne.symm hs]
  · rw [update_of_ne hs, update_of_ne hp]
    exact h.subjectIdx s p

theorem update_others {α : Type} (table : Nat → Option α) (personaId : Nat) (value : Option α) :
    ∀ other ≠ personaId, update table personaId value other = table other :=
  fun _ hother => update_of_ne hother value table

theorem Wf.register (h : Wf ctx rows) (hfold : registerGamePersona rows event resolved = some rows') :
    Wf ctx rows' := by
  obtain ⟨-, hconflicts, rfl⟩ := registerGamePersona_eq_some.1 hfold
  obtain ⟨-, hbinding, -⟩ := h.absent _ (conflicts_inv hconflicts)
  rw [bindSubject_eq]
  refine h.showName _ ?_ ?_
    (fun q hq => ⟨update_others rows.gamePersona _ _ q hq, put_of_ne hq, put_of_ne hq⟩) rfl rfl
  · cases resolved with
    | active publicName
    | redacted erasure => exact h.bind _ hbinding (conflicts_unindexed hconflicts (Option.some_ne_none _))
    | detached name => exact h.subjectIdx
  · exact update_self event.personaId (some event.seq) rows.gamePersona

theorem Wf.rename (h : Wf ctx rows)
    (hfold : renameGamePersona rows event resolved = some rows') : Wf ctx rows' := by
  obtain ⟨-, -, row, bound, hrow, hbound, rfl⟩ := renameGamePersona_eq_some.1 hfold
  have hgame : rows.gamePersona event.personaId = some row.registeredSeq := by
    cases hgame : rows.gamePersona event.personaId with
    | none => exact nomatch (h.absent _ hgame).1.symm.trans hrow
    | some seq =>
      obtain ⟨row', hrow', hseq⟩ := h.registered _ _ hgame
      rw [← hseq, Option.some.inj (hrow.symm.trans hrow')]
  obtain ⟨hrebinds, rfl⟩ := rebindSubject_eq_some.1 hbound
  obtain ⟨hfound, hleft⟩ := hrebinds.owner event.claimId
  refine h.showName _ (fun s p => ?_) hgame (fun q hq => ⟨rfl, put_of_ne hq, put_of_ne hq⟩) rfl rfl
  show rows.subjectIdx s = some p ↔ (put rows.bindings event.personaId _ p).map _ = some s
  rw [h.subjectIdx]
  by_cases hp : p = event.personaId
  · rw [hp, hfound, hleft]
  · rw [put_of_ne hp]

theorem Wf.fold (h : Wf ctx rows) (hfold : foldEvent privacy rows event = some rows') : Wf ctx rows' := by
  unfold foldEvent at hfold
  cases hkind : event.kind with
  | registered =>
    simp only [hkind] at hfold
    exact h.register hfold
  | renamed =>
    simp only [hkind] at hfold
    exact h.rename hfold

/-- A subject's erasure, by a request or a finalisation, is what two privacy states differ in. -/
structure Erases (privacy privacy' : Privacy ctx) (subjectId : Nat) (erasure : Erasure ctx) : Prop where
  erased : privacy'.overlay subjectId = some erasure
  was : privacy.overlay subjectId = none ∨ privacy.overlay subjectId = some erasure
  others : ∀ other ≠ subjectId, privacy'.overlay other = privacy.overlay other

theorem Erases.resolve_other (h : Erases privacy privacy' subjectId erasure)
    (claimId : Nat) (hother : ¬ (other = subjectId ∧ ctx.detachedAlias other = none)) :
    resolveGamePersonaPresentation privacy' other claimId = resolveGamePersonaPresentation privacy other claimId := by
  unfold resolveGamePersonaPresentation
  cases hdetached : ctx.detachedAlias other with
  | some name => rfl
  | none => rw [h.others other fun he => hother ⟨he, hdetached⟩]

/-- Of the subject, the second sees the erasure, and the first sees it too or the claim. -/
theorem Erases.resolve_own (h : Erases privacy privacy' subjectId erasure)
    (claimId : Nat) (hattached : ctx.detachedAlias subjectId = none) :
    resolveGamePersonaPresentation privacy' subjectId claimId = .redacted erasure ∧
      (resolveGamePersonaPresentation privacy subjectId claimId = .active (ctx.openClaim claimId) ∨
        resolveGamePersonaPresentation privacy subjectId claimId = .redacted erasure) := by
  unfold resolveGamePersonaPresentation
  rw [hattached, h.erased]
  refine ⟨rfl, ?_⟩
  rcases h.was with hnone | hsome
  · rw [hnone]
    exact .inl rfl
  · rw [hsome]
    exact .inr rfl

theorem Alias.key (pseudonym : Alias ctx) : ctx.toLowercase (ctx.trim pseudonym.name) = pseudonym.name := by
  rw [pseudonym.trimmed, pseudonym.lowered]

theorem Erasure.shown (erasure : Erasure ctx) :
    ctx.toLowercase (ctx.trim (.redacted erasure : Presentation ctx).publicName) ≠ "" :=
  erasure.replacementAlias.key.trans_ne erasure.replacementAlias.nonblank

theorem attached_of_own (hresolved : (∃ publicName, resolved = .active publicName) ∨ resolved = .redacted erasure)
    (id : Nat) : resolved.indexed id = some id := by
  rcases hresolved with ⟨publicName, rfl⟩ | rfl <;> rfl

/-! ## An event, folded before an erasure and after -/

/-- The rows with the persona of a subject redacted, and with other claims. -/
def Rows.redacted (rows : Rows) (subjectId : Nat) (erasure : Erasure ctx) (claims : String → Option NameClaim) :
    Rows :=
  match rows.subjectIdx subjectId with
  | none => { rows with nameClaims := claims }
  | some personaId =>
    { rows with
      publics := update rows.publics personaId ((rows.publics personaId).map fun row =>
        { row with currentPublicName := erasure.replacementAlias.name })
      nameHistory := update rows.nameHistory personaId
        (Option.map (fun _ => erasure.replacementAlias.name) ∘ rows.nameHistory personaId)
      nameClaims := claims
      redactions := update rows.redactions personaId (some ⟨erasure.replacementAlias.name, erasure.time⟩)
      bindings := update rows.bindings personaId (some ⟨subjectId, .redacted⟩) }

theorem redacted_frame (rows : Rows) (subjectId : Nat) (erasure : Erasure ctx) (claims : String → Option NameClaim) :
    (rows.redacted subjectId erasure claims).gamePersona = rows.gamePersona ∧
    (rows.redacted subjectId erasure claims).subjectIdx = rows.subjectIdx := by
  unfold Rows.redacted
  split <;> exact ⟨rfl, rfl⟩

theorem redacted_other (erasure : Erasure ctx) (claims : String → Option NameClaim)
    (hother : rows.subjectIdx subjectId ≠ some personaId) :
    (rows.redacted subjectId erasure claims).publics personaId = rows.publics personaId ∧
      (rows.redacted subjectId erasure claims).nameHistory personaId = rows.nameHistory personaId ∧
      (rows.redacted subjectId erasure claims).bindings personaId = rows.bindings personaId := by
  unfold Rows.redacted
  split
  · exact ⟨rfl, rfl, rfl⟩
  · rename_i own hidx
    have hne : personaId ≠ own := fun he => hother (he ▸ hidx)
    exact ⟨update_of_ne hne _ _, update_of_ne hne _ _, update_of_ne hne _ _⟩

theorem redacted_index {gamePersona subjectIdx : Nat → Option Nat}
    (hidx : subjectIdx subjectId = rows.subjectIdx subjectId) :
    ({ rows with gamePersona, subjectIdx } : Rows).redacted subjectId erasure claims =
      { rows.redacted subjectId erasure claims with gamePersona, subjectIdx } := by
  unfold Rows.redacted
  simp only [hidx]
  split <;> rfl

/-- What is written of another persona is redacted as before. -/
theorem redacted_write {row : PersonaPublic} {publicName : String} {binding : Option Binding}
    {redaction : Option Redaction} (hother : rows.subjectIdx subjectId ≠ some event.personaId) :
    (showName ctx (rows.written event.personaId binding redaction) event publicName row).redacted subjectId erasure
        (claimName claims (ctx.toLowercase (ctx.trim publicName)) event.personaId event.seq) =
      showName ctx ((rows.redacted subjectId erasure claims).written event.personaId binding redaction) event
        publicName row := by
  cases hown : rows.subjectIdx subjectId with
  | none => simp [Rows.redacted, showName, Rows.written, hown]
  | some own =>
    have hne : event.personaId ≠ own := fun he => hother (he ▸ hown)
    simp [Rows.redacted, showName, Rows.written, hown, put_update hne, update_of_ne hne.symm, update_of_ne hne,
      update_comm hne]

/-- Another persona is registered after an erasure as before. -/
theorem register_other (hwf : Wf ctx rows) (hother : resolved.indexed event.subjectId ≠ some subjectId)
    (hfold : registerGamePersona rows event resolved = some next) :
    registerGamePersona (rows.redacted subjectId erasure claims) event resolved =
      some (next.redacted subjectId erasure
        (claimName claims (ctx.toLowercase (ctx.trim resolved.publicName)) event.personaId event.seq)) := by
  obtain ⟨hname, hconflicts, rfl⟩ := registerGamePersona_eq_some.1 hfold
  have hpersona : rows.subjectIdx subjectId ≠ some event.personaId := fun hidx =>
    hwf.bound hidx (conflicts_inv hconflicts)
  obtain ⟨hgame, hsubjectIdx⟩ := redacted_frame rows subjectId erasure claims
  obtain ⟨hpublic, hhistory, hbinding⟩ := redacted_other erasure claims hpersona
  have hidx : put rows.subjectIdx event.subjectId (resolved.indexed event.personaId) subjectId =
      rows.subjectIdx subjectId := by
    cases resolved with
    | active | redacted => exact put_of_ne fun he => hother (congrArg some he.symm)
    | detached => rfl
  refine registerGamePersona_eq_some.2 ⟨hname, ?_, ?_⟩
  · rw [← hconflicts]
    cases resolved <;> simp only [Rows.conflicts, hgame, hsubjectIdx, hpublic, hhistory, hbinding]
  · rw [bindSubject_eq, bindSubject_eq, hgame, hsubjectIdx, redacted_write fun he => hpersona (hidx.symm.trans he)]
    exact congrArg (fun base : Rows => showName ctx (base.written _ _ _) event _ _) (redacted_index hidx)

/-- Another persona is renamed. -/
theorem rename_other (hwf : Wf ctx rows) (hother : resolved.indexed event.subjectId ≠ some subjectId)
    (hfold : renameGamePersona rows event resolved = some next) :
    renameGamePersona (rows.redacted subjectId erasure claims) event resolved =
      some (next.redacted subjectId erasure
        (claimName claims (ctx.toLowercase (ctx.trim resolved.publicName)) event.personaId event.seq)) := by
  obtain ⟨hname, hnew, row, bound, hrow, hbound, rfl⟩ := renameGamePersona_eq_some.1 hfold
  obtain ⟨hrebinds, rfl⟩ := rebindSubject_eq_some.1 hbound
  have hpersona : rows.subjectIdx subjectId ≠ some event.personaId := by
    rw [Ne, hwf.subjectIdx, (hrebinds.owner event.claimId).1]
    exact hother
  obtain ⟨hpublic, hhistory, hbinding⟩ := redacted_other erasure claims hpersona
  refine renameGamePersona_eq_some.2 ⟨hname, hhistory ▸ hnew, row, _, hpublic.trans hrow,
    rebindSubject_eq_some.2 ⟨hbinding ▸ hrebinds, rfl⟩, ?_⟩
  exact redacted_write hpersona

/-- The subject's own persona is registered, as erased. -/
theorem register_own (hwf : Wf ctx rows)
    (hresolved : (∃ publicName, resolved = .active publicName) ∨ resolved = .redacted erasure)
    (hfold : registerGamePersona rows event resolved = some next) :
    registerGamePersona (rows.redacted event.subjectId erasure claims) event (.redacted erasure : Presentation ctx) =
      some (next.redacted event.subjectId erasure
        (claimName claims (ctx.toLowercase (ctx.trim erasure.replacementAlias.name)) event.personaId event.seq)) := by
  obtain ⟨-, hconflicts, rfl⟩ := registerGamePersona_eq_some.1 hfold
  obtain ⟨-, -, -, hhistory⟩ := hwf.absent _ (conflicts_inv hconflicts)
  have hnone : rows.subjectIdx event.subjectId = none := conflicts_unindexed hconflicts
    (by rw [attached_of_own hresolved]; exact Option.some_ne_none _)
  have hsame : rows.redacted event.subjectId erasure claims = { rows with nameClaims := claims } := by
    rw [Rows.redacted, hnone]
  have hempty : ∀ name, Option.map (fun _ => name) ∘ rows.nameHistory event.personaId =
      rows.nameHistory event.personaId := fun name => funext fun seq => by simp [hhistory]
  rw [hsame]
  refine registerGamePersona_eq_some.2 ⟨erasure.shown, ?_, ?_⟩
  · rw [← hconflicts]
    rcases hresolved with ⟨publicName, rfl⟩ | rfl <;> rfl
  · rcases hresolved with ⟨publicName, rfl⟩ | rfl <;>
      simp [bindSubject, Rows.redacted, showName, Presentation.publicName, erasure.replacementAlias.trimmed,
        Function.comp_update, hempty]

/-- The subject's own persona is renamed, as erased. -/
theorem rename_own (hwf : Wf ctx rows)
    (hresolved : (∃ publicName, resolved = .active publicName) ∨ resolved = .redacted erasure)
    (hfold : renameGamePersona rows event resolved = some next) :
    renameGamePersona (rows.redacted event.subjectId erasure claims) event (.redacted erasure : Presentation ctx) =
      some (next.redacted event.subjectId erasure
        (claimName claims (ctx.toLowercase (ctx.trim erasure.replacementAlias.name)) event.personaId event.seq)) := by
  obtain ⟨-, hnew, row, bound, hrow, hbound, rfl⟩ := renameGamePersona_eq_some.1 hfold
  obtain ⟨hrebinds, rfl⟩ := rebindSubject_eq_some.1 hbound
  have hown : rows.subjectIdx event.subjectId = some event.personaId := by
    rw [hwf.subjectIdx, (hrebinds.owner event.claimId).1, attached_of_own hresolved]
  refine renameGamePersona_eq_some.2 ⟨erasure.shown, ?_,
    { row with currentPublicName := erasure.replacementAlias.name }, _, ?_, rebindSubject_eq_some.2 ⟨?_, rfl⟩, ?_⟩
  · simp [Rows.redacted, hown, hnew]
  · simp [Rows.redacted, hown, hrow]
  · simp [Rows.redacted, hown, Rebinds]
  · rcases hresolved with ⟨publicName, rfl⟩ | rfl <;>
      simp [Rows.redacted, hown, showName, Rows.written, put, Presentation.publicName, Presentation.rebinding,
        Presentation.redaction, erasure.replacementAlias.trimmed, Function.comp_update]

/-- An event that folds before an erasure folds after it, and what it writes is redacted. -/
theorem fold_redacted (claims : String → Option NameClaim) (herases : Erases privacy privacy' subjectId erasure)
    (hwf : Wf ctx rows) (hfold : foldEvent privacy rows event = some next) :
    ∃ claims', foldEvent privacy' (rows.redacted subjectId erasure claims) event =
      some (next.redacted subjectId erasure claims') := by
  unfold foldEvent at hfold ⊢
  by_cases hown : event.subjectId = subjectId ∧ ctx.detachedAlias event.subjectId = none
  · obtain ⟨rfl, hattached⟩ := hown
    obtain ⟨hredacted, hwas⟩ := herases.resolve_own event.claimId hattached
    rw [hredacted]
    cases hkind : event.kind with
    | registered =>
      rw [hkind] at hfold
      exact ⟨_, register_own hwf (hwas.imp_left fun hactive => ⟨_, hactive⟩) hfold⟩
    | renamed =>
      rw [hkind] at hfold
      exact ⟨_, rename_own hwf (hwas.imp_left fun hactive => ⟨_, hactive⟩) hfold⟩
  · have hother := mt (@resolve_indexed ctx event.claimId event.subjectId privacy subjectId).1 hown
    rw [herases.resolve_other event.claimId hown]
    cases hkind : event.kind with
    | registered =>
      rw [hkind] at hfold
      exact ⟨_, register_other hwf hother hfold⟩
    | renamed =>
      rw [hkind] at hfold
      exact ⟨_, rename_other hwf hother hfold⟩

/-! ## What a rebuild tells -/

def PersonaEvent.presented (privacy : Privacy ctx) (event : PersonaEvent) : Presentation ctx :=
  resolveGamePersonaPresentation privacy event.subjectId event.claimId

/-- The name that an event shows. -/
def PersonaEvent.shown (privacy : Privacy ctx) (event : PersonaEvent) : String :=
  ctx.trim (event.presented privacy).publicName

/-- The rows as far as they tell of the events. -/
structure Told (privacy : Privacy ctx) (events : List PersonaEvent) (rows : Rows) : Prop where
  registered : ∀ personaId, rows.gamePersona personaId =
    (events.find? fun event => event.personaId = personaId).map (·.seq)
  claims : ∀ name, rows.nameClaims name = (events.find? fun event => ctx.toLowercase (event.shown privacy) = name).map
    fun event => ⟨event.personaId, event.seq⟩
  history : ∀ personaId seq name, rows.nameHistory personaId seq = some name ↔
    ∃ event ∈ events, event.personaId = personaId ∧ event.seq = seq ∧ event.shown privacy = name
  owners : ∀ event ∈ events, (rows.bindings event.personaId).map (·.subjectId) =
    (event.presented privacy).indexed event.subjectId
  redactions : ∀ personaId redaction, rows.redactions personaId = some redaction →
    ∃ event ∈ events, event.personaId = personaId ∧ (event.presented privacy).redaction = some redaction

theorem Told.empty (privacy : Privacy ctx) : Told privacy [] {} := by
  constructor <;> simp

/-- A name shown. -/
theorem Told.shows (h : Told privacy events rows) {base : Rows} {row : PersonaPublic}
    (hnew : rows.nameHistory event.personaId event.seq = none) (hhistory : base.nameHistory = rows.nameHistory)
    (hclaims : base.nameClaims = rows.nameClaims)
    (hredactions : base.redactions = put rows.redactions event.personaId (event.presented privacy).redaction)
    (hgame : ∀ personaId, base.gamePersona personaId =
      (rows.gamePersona personaId).or (if event.personaId = personaId then some event.seq else none))
    (howners : ∀ other ∈ events ++ [event], (base.bindings other.personaId).map (·.subjectId) =
      (other.presented privacy).indexed other.subjectId) :
    Told privacy (events ++ [event]) (showName ctx base event (event.presented privacy).publicName row) where
  registered personaId := by
    show base.gamePersona personaId = _
    rw [hgame, h.registered, List.find?_append, Option.map_or]
    split <;> simp [*]
  claims name := by
    show claimName base.nameClaims (ctx.toLowercase (event.shown privacy)) event.personaId event.seq name = _
    rw [claimName_apply, hclaims, h.claims, h.claims, List.find?_append, Option.map_or]
    by_cases hname : ctx.toLowercase (event.shown privacy) = name
    · subst hname
      cases events.find? fun other => ctx.toLowercase (other.shown privacy) = ctx.toLowercase (event.shown privacy) <;>
        simp
    · simp [hname, Ne.symm hname]
  history personaId seq name := by
    rw [showName_history, hhistory]
    split
    · rename_i hsame
      obtain ⟨rfl, rfl⟩ := hsame
      have hbefore : ∀ other ∈ events, ¬ (other.personaId = event.personaId ∧ other.seq = event.seq) :=
        fun other hmem hsame => nomatch hnew.symm.trans ((h.history _ _ _).2 ⟨other, hmem, hsame.1, hsame.2, rfl⟩)
      constructor
      · exact fun hname => ⟨event, by simp, rfl, rfl, Option.some.inj hname⟩
      · rintro ⟨other, hmem, hpersona, hseq, rfl⟩
        rcases List.mem_append.1 hmem with hold | hlast
        · exact absurd ⟨hpersona, hseq⟩ (hbefore other hold)
        · rw [List.mem_singleton.1 hlast]
          rfl
    · rename_i hother
      rw [h.history]
      constructor
      · exact fun ⟨other, hmem, hrest⟩ => ⟨other, List.mem_append_left _ hmem, hrest⟩
      · rintro ⟨other, hmem, hpersona, hseq, hname⟩
        rcases List.mem_append.1 hmem with hold | hlast
        · exact ⟨other, hold, hpersona, hseq, hname⟩
        · rw [List.mem_singleton.1 hlast] at hpersona hseq
          exact absurd ⟨hpersona.symm, hseq.symm⟩ hother
  owners := howners
  redactions personaId redaction hredaction := by
    have hput : put rows.redactions event.personaId (event.presented privacy).redaction personaId = some redaction :=
      hredactions ▸ hredaction
    cases hnew : (event.presented privacy).redaction with
    | none =>
      rw [hnew] at hput
      obtain ⟨other, hmem, hrest⟩ := h.redactions personaId redaction hput
      exact ⟨other, List.mem_append_left _ hmem, hrest⟩
    | some written =>
      rw [hnew] at hput
      by_cases hsame : personaId = event.personaId
      · subst hsame
        exact ⟨event, by simp, rfl, hnew.trans ((update_self _ _ rows.redactions).symm.trans hput)⟩
      · obtain ⟨other, hmem, hrest⟩ := h.redactions personaId redaction ((update_of_ne hsame _ _).symm.trans hput)
        exact ⟨other, List.mem_append_left _ hmem, hrest⟩

theorem Told.fold (h : Told privacy events rows) (hwf : Wf ctx rows)
    (hfold : foldEvent privacy rows event = some next) : Told privacy (events ++ [event]) next := by
  unfold foldEvent at hfold
  cases hkind : event.kind with
  | registered =>
    rw [hkind] at hfold
    obtain ⟨-, hconflicts, rfl⟩ := registerGamePersona_eq_some.1 hfold
    obtain ⟨-, hbinding, -, hhistory⟩ := hwf.absent _ (conflicts_inv hconflicts)
    rw [bindSubject_eq]
    have hgame := conflicts_inv hconflicts
    refine h.shows (hhistory event.seq) rfl rfl rfl (fun personaId => ?_) fun other hother => ?_
    · show update rows.gamePersona event.personaId (some event.seq) personaId = _
      by_cases hsame : event.personaId = personaId
      · subst hsame
        simp [hgame]
      · simp [hsame, update_of_ne (Ne.symm hsame)]
    · show (put rows.bindings event.personaId _ other.personaId).map _ = _
      rcases List.mem_append.1 hother with hold | hlast
      · have hne : other.personaId ≠ event.personaId := by
          intro hsame
          rw [h.registered, Option.map_eq_none_iff, List.find?_eq_none] at hgame
          exact absurd (hgame other hold) (by simp [hsame])
        rw [put_of_ne hne]
        exact h.owners other hold
      · rw [List.mem_singleton.1 hlast, PersonaEvent.presented]
        cases resolveGamePersonaPresentation privacy event.subjectId event.claimId <;>
          simp [put, Presentation.binding, Presentation.indexed, hbinding]
  | renamed =>
    rw [hkind] at hfold
    obtain ⟨-, hnew, row, bound, hrow, hbound, rfl⟩ := renameGamePersona_eq_some.1 hfold
    obtain ⟨hrebinds, rfl⟩ := rebindSubject_eq_some.1 hbound
    obtain ⟨hfound, hleft⟩ := hrebinds.owner event.claimId
    refine h.shows hnew rfl rfl rfl (fun personaId => ?_) fun other hother => ?_
    · split
      · rename_i hsame
        subst hsame
        cases hgame : rows.gamePersona event.personaId with
        | none => exact nomatch (hwf.absent _ hgame).1.symm.trans hrow
        | some seq => exact hgame
      · exact Option.or_none.symm
    · show (put rows.bindings event.personaId _ other.personaId).map _ = _
      rcases List.mem_append.1 hother with hold | hlast
      · rw [← h.owners other hold]
        by_cases hsame : other.personaId = event.personaId
        · rw [hsame, hleft, hfound]
        · rw [put_of_ne hsame]
      · rw [List.mem_singleton.1 hlast, hleft]
        rfl
/-! ## Two rebuilds -/

/-- The last event of a rebuild. -/
theorem rebuildGame_append (privacy : Privacy ctx) (events : List PersonaEvent) (event : PersonaEvent) :
    rebuildGame privacy (events ++ [event]) =
      (rebuildGame privacy events).bind fun rows => foldEvent privacy rows event := by
  unfold rebuildGame
  rw [List.foldlM_append]
  cases events.foldlM (foldEvent privacy) {} with
  | none => rfl
  | some rows =>
    show [event].foldlM (foldEvent privacy) rows = foldEvent privacy rows event
    rw [List.foldlM_cons]
    exact bind_pure _

theorem Wf.rebuild (h : rebuildGame privacy events = some rows) : Wf ctx rows := by
  induction events using List.reverseRecOn generalizing rows with
  | nil =>
    rw [← Option.some.inj h]
    exact Wf.empty ctx
  | append_singleton events event ih =>
    rw [rebuildGame_append] at h
    obtain ⟨before, hbefore, hfold⟩ := Option.bind_eq_some_iff.mp h
    exact (ih hbefore).fold hfold

theorem Told.rebuild (h : rebuildGame privacy events = some rows) : Told privacy events rows := by
  induction events using List.reverseRecOn generalizing rows with
  | nil => exact Option.some.inj h ▸ Told.empty privacy
  | append_singleton events event ih =>
    rw [rebuildGame_append] at h
    obtain ⟨before, hbefore, hfold⟩ := Option.bind_eq_some_iff.mp h
    exact (ih hbefore).fold (Wf.rebuild hbefore) hfold

/-- After an erasure a rebuild goes through as before, and gives the rows redacted. -/
theorem rebuild_redacted (herases : Erases privacy privacy' subjectId erasure)
    (h : rebuildGame privacy events = some rows) :
    ∃ claims, rebuildGame privacy' events = some (rows.redacted subjectId erasure claims) := by
  induction events using List.reverseRecOn generalizing rows with
  | nil =>
    obtain rfl := Option.some.inj h
    exact ⟨_, rfl⟩
  | append_singleton events event ih =>
    rw [rebuildGame_append] at h
    obtain ⟨before, hbefore, hfold⟩ := Option.bind_eq_some_iff.mp h
    obtain ⟨claims, hclaims⟩ := ih hbefore
    obtain ⟨claims', hfold'⟩ := fold_redacted claims herases (Wf.rebuild hbefore) hfold
    exact ⟨claims', by rw [rebuildGame_append, hclaims, Option.bind_some, hfold']⟩

/-! ## A redaction and a rebuild -/

/-- The persona of the subject has been renamed, and what it claims besides the alias it alone was shown under. -/
def Rows.Erasable (rows : Rows) (subjectId : Nat) (pseudonym : Alias ctx) : Prop :=
  ∀ personaId, rows.subjectIdx subjectId = some personaId →
    (∀ row, rows.publics personaId = some row → row.renamedSeq ≠ none) ∧
    ∀ name claim, rows.nameClaims name = some claim → claim.personaId = personaId → name ≠ pseudonym.name →
      ∀ other seq shown, rows.nameHistory other seq = some shown → ctx.toLowercase shown = name → other = personaId

/-- A redaction that goes through finds no persona, or one that is registered, and the alias free but for it. -/
theorem redactSubject_inv {subjectId redactedAt : Nat} {pseudonym : Alias ctx}
    (h : redactSubject rows subjectId pseudonym redactedAt = some next) :
    (rows.subjectIdx subjectId = none ∧ next = rows) ∨
    ∃ personaId registeredSeq, rows.subjectIdx subjectId = some personaId ∧
      rows.gamePersona personaId = some registeredSeq ∧
      (∀ claim, rows.nameClaims pseudonym.name = some claim → claim.personaId = personaId) ∧
      next = { rows with
        redactions := update rows.redactions personaId
          (match rows.redactions personaId with
          | some redaction => some { redaction with replacementPublicName := pseudonym.name }
          | none => some ⟨pseudonym.name, redactedAt⟩)
        nameClaims := update
          (fun name => (rows.nameClaims name).filter fun claim => claim.personaId ≠ personaId)
          pseudonym.name (some ⟨personaId, registeredSeq⟩)
        nameHistory := update rows.nameHistory personaId
          fun seq => (rows.nameHistory personaId seq).map fun _ => pseudonym.name
        publics := update rows.publics personaId ((rows.publics personaId).map fun row =>
          { row with
            currentPublicName := pseudonym.name
            renamedSeq := row.renamedSeq <|> some row.registeredSeq })
        bindings := update rows.bindings personaId ((rows.bindings personaId).map fun binding =>
          { binding with lifecycle := .redacted }) } := by
  unfold redactSubject at h
  cases hidx : rows.subjectIdx subjectId with
  | none =>
    rw [hidx] at h
    exact .inl ⟨rfl, (Option.some.inj h).symm⟩
  | some personaId =>
    simp only [hidx] at h
    cases hgame : rows.gamePersona personaId with
    | none =>
      rw [hgame] at h
      exact nomatch h
    | some registeredSeq =>
      cases hfree : (rows.nameClaims pseudonym.name).filter fun claim => claim.personaId ≠ personaId with
      | some claim =>
        rw [hgame, hfree] at h
        exact nomatch h
      | none =>
        rw [hgame, hfree] at h
        refine .inr ⟨personaId, registeredSeq, rfl, hgame, fun claim hclaim => ?_, (Option.some.inj h).symm⟩
        rw [hclaim] at hfree
        by_contra hother
        rw [Option.filter_some, if_pos (decide_eq_true hother)] at hfree
        exact nomatch hfree

/-- The events of the persona of a subject are those that name the subject. -/
theorem Told.own_iff (h : Told privacy events rows) (hwf : Wf ctx rows) (hmem : event ∈ events) :
    rows.subjectIdx subjectId = some event.personaId ↔
      event.subjectId = subjectId ∧ ctx.detachedAlias event.subjectId = none := by
  rw [hwf.subjectIdx, h.owners event hmem]
  exact resolve_indexed

/-- What an event shows after an erasure. -/
theorem Told.shown_erased (h : Told privacy events rows) (hwf : Wf ctx rows)
    (herases : Erases privacy privacy' subjectId erasure) (hmem : event ∈ events) :
    event.shown privacy' = if rows.subjectIdx subjectId = some event.personaId then erasure.replacementAlias.name
      else event.shown privacy := by
  unfold PersonaEvent.shown PersonaEvent.presented
  split
  · rename_i hown
    obtain ⟨rfl, hattached⟩ := (h.own_iff hwf hmem).1 hown
    rw [(herases.resolve_own event.claimId hattached).1]
    exact erasure.replacementAlias.trimmed
  · rename_i hother
    rw [herases.resolve_other event.claimId fun hown => hother ((h.own_iff hwf hmem).2 hown)]

section Claims

variable {own registeredSeq : Nat}

/-- The claim of the alias after an erasure. -/
theorem Told.claims_alias (h : Told privacy events rows) (h' : Told privacy' events next) (hwf : Wf ctx rows)
    (herases : Erases privacy privacy' subjectId erasure) (hown : rows.subjectIdx subjectId = some own)
    (hgame : rows.gamePersona own = some registeredSeq)
    (hclaimed : ∀ claim, rows.nameClaims erasure.replacementAlias.name = some claim → claim.personaId = own) :
    next.nameClaims erasure.replacementAlias.name = some ⟨own, registeredSeq⟩ := by
  rw [h.registered, Option.map_eq_some_iff] at hgame
  obtain ⟨first, hfirst, rfl⟩ := hgame
  obtain ⟨hfirstOwn, before, after, rfl, hbefore⟩ := List.find?_eq_some_iff_append.1 hfirst
  obtain rfl := of_decide_eq_true hfirstOwn
  have hshown := fun event (hmem : event ∈ before ++ first :: after) => h.shown_erased hwf herases hmem
  rw [h'.claims, Option.map_eq_some_iff]
  refine ⟨first, List.find?_eq_some_iff_append.2 ⟨?_, before, after, rfl, fun event hmem => ?_⟩, rfl⟩
  · rw [hshown first (by simp), if_pos hown, erasure.replacementAlias.lowered, decide_eq_true rfl]
  · have hother : event.personaId ≠ first.personaId := by simpa using hbefore event hmem
    rw [hshown event (List.mem_append_left _ hmem), hown, if_neg fun he => hother (Option.some.inj he).symm]
    simp only [Bool.not_eq_true', decide_eq_false_iff_not]
    intro hkey
    -- The first event that claims the alias is another's, and so is the claim.
    cases hfind : before.find? fun event => ctx.toLowercase (event.shown privacy) = erasure.replacementAlias.name with
    | none => exact absurd hkey (by simpa using List.find?_eq_none.1 hfind event hmem)
    | some claimer =>
      have hclaim := h.claims erasure.replacementAlias.name
      rw [List.find?_append, hfind] at hclaim
      have hclaimer : claimer.personaId ≠ first.personaId := by
        simpa using hbefore claimer (List.mem_of_find?_eq_some hfind)
      exact hclaimer (hclaimed _ hclaim)

/-- The claim of another name is released, unless another was shown under the name. -/
theorem Told.claims_other (h : Told privacy events rows) (h' : Told privacy' events next) (hwf : Wf ctx rows)
    (herases : Erases privacy privacy' subjectId erasure) (hown : rows.subjectIdx subjectId = some own)
    {name : String} (hname : name ≠ erasure.replacementAlias.name) :
    (rows.nameClaims name).filter (fun claim => claim.personaId ≠ own) = next.nameClaims name ↔
      ∀ claim, rows.nameClaims name = some claim → claim.personaId = own →
        ∀ other seq shown, rows.nameHistory other seq = some shown → ctx.toLowercase shown = name → other = own := by
  have hkeys : (events.find? fun event => ctx.toLowercase (event.shown privacy') = name) =
      events.find? fun event => event.personaId ≠ own ∧ ctx.toLowercase (event.shown privacy) = name := by
    refine List.find?_congr fun event hmem => ?_
    rw [h.shown_erased hwf herases hmem, hown]
    by_cases hsame : event.personaId = own
    · simp [hsame, erasure.replacementAlias.lowered, Ne.symm hname]
    · simp [hsame, Ne.symm hsame]
  rw [h.claims, h'.claims, hkeys]
  cases hfind : events.find? fun event => ctx.toLowercase (event.shown privacy) = name with
  | none =>
    rw [List.find?_eq_none] at hfind
    rw [List.find?_eq_none.2 fun event hmem hboth => hfind event hmem (by simp_all)]
    simp
  | some claimer =>
    by_cases hclaimer : claimer.personaId = own
    · rw [Option.map_some, Option.filter_some, if_neg (by simp [hclaimer]), eq_comm, Option.map_eq_none_iff,
        List.find?_eq_none]
      constructor
      · rintro hnone claim - - other seq shown hshown rfl
        obtain ⟨event, hmem, rfl, rfl, rfl⟩ := (h.history _ _ _).1 hshown
        simpa using hnone event hmem
      · intro halone event hmem
        have hsame := halone _ rfl hclaimer _ _ _ ((h.history _ _ _).2 ⟨event, hmem, rfl, rfl, rfl⟩)
        simpa [not_imp_not] using hsame
    · obtain ⟨hkey, before, after, rfl, hbefore⟩ := List.find?_eq_some_iff_append.1 hfind
      rw [List.find?_eq_some_iff_append.2 ⟨by simp_all, before, after, rfl, fun event hmem => by
        have hother := hbefore event hmem
        simp_all⟩]
      simp [hclaimer]

end Claims

/-- A redaction leaves the rows that a rebuild would give exactly if it is of an erasable persona. -/
theorem redact_rebuilt_iff (herases : Erases privacy privacy' subjectId erasure)
    (hrows : rebuildGame privacy events = some rows)
    (hnext : redactSubject rows subjectId erasure.replacementAlias erasure.time = some next) :
    rebuildGame privacy' events = some next ↔ rows.Erasable subjectId erasure.replacementAlias := by
  obtain ⟨claims, hclaims⟩ := rebuild_redacted herases hrows
  have hwf := Wf.rebuild hrows
  have htold := Told.rebuild hrows
  have htold' := Told.rebuild hclaims
  rw [hclaims, Option.some.injEq]
  rcases redactSubject_inv hnext with ⟨hnone, hunchanged⟩ | ⟨own, registeredSeq, hown, hgame, hclaimed, rfl⟩
  · rw [hunchanged]
    refine iff_of_true ?_ fun personaId hidx => nomatch hnone.symm.trans hidx
    have hsame : (rows.redacted subjectId erasure claims).nameClaims = rows.nameClaims := by
      funext name
      rw [htold'.claims, htold.claims, List.find?_congr fun event hmem => by
        rw [htold.shown_erased hwf herases hmem, if_neg (by simp [hnone])]]
    rw [Rows.redacted, hnone] at hsame ⊢
    exact congrArg (fun nameClaims => { rows with nameClaims }) hsame
  · obtain ⟨binding, hbinding, hsubject⟩ := Option.map_eq_some_iff.1 ((hwf.subjectIdx _ _).1 hown)
    obtain ⟨row, hrow, -⟩ := hwf.registered own registeredSeq hgame
    have halias := htold.claims_alias htold' hwf herases hown hgame hclaimed
    have hother := fun name (hname : name ≠ erasure.replacementAlias.name) =>
      htold.claims_other htold' hwf herases hown hname
    have hredactions : (match rows.redactions own with
        | some redaction => some { redaction with replacementPublicName := erasure.replacementAlias.name }
        | none => some ⟨erasure.replacementAlias.name, erasure.time⟩) =
        some ⟨erasure.replacementAlias.name, erasure.time⟩ := by
      cases hredaction : rows.redactions own with
      | none => rfl
      | some redaction =>
        obtain ⟨event, hmem, rfl, hwritten⟩ := htold.redactions own redaction hredaction
        obtain ⟨rfl, hattached⟩ := (htold.own_iff hwf hmem).1 hown
        rcases (herases.resolve_own event.claimId hattached).2 with hactive | hredacted
        · simp [PersonaEvent.presented, hactive, Presentation.redaction] at hwritten
        · simp [PersonaEvent.presented, hredacted, Presentation.redaction] at hwritten
          rw [← hwritten]
    have hbindings : (rows.bindings own).map (fun binding => { binding with lifecycle := .redacted }) =
        some ⟨subjectId, .redacted⟩ := by rw [hbinding, ← hsubject]; rfl
    rw [hredactions, hbindings]
    unfold Rows.redacted at halias hother ⊢
    simp only [hown] at halias hother ⊢
    constructor
    · intro hsame personaId hidx
      obtain rfl := Option.some.inj (hown.symm.trans hidx)
      constructor
      · intro row' hrow' hunnamed
        have hrows := congrFun (congrArg Rows.publics hsame) own
        simp only [update_self, hrow', hunnamed, Option.map_some] at hrows
        exact nomatch congrArg PersonaPublic.renamedSeq (Option.some.inj hrows)
      · intro name claim hclaim howner hname
        refine (hother name hname).1 ?_ claim hclaim howner
        have hclaims := congrFun (congrArg Rows.nameClaims hsame) name
        simp only [update_of_ne hname] at hclaims
        exact hclaims.symm
    · intro herasable
      obtain ⟨hnamed, halone⟩ := herasable own hown
      obtain ⟨renamedSeq, hrenamed⟩ := Option.ne_none_iff_exists'.1 (hnamed row hrow)
      have hnames : claims = update (fun name => (rows.nameClaims name).filter fun claim => claim.personaId ≠ own)
          erasure.replacementAlias.name (some ⟨own, registeredSeq⟩) := by
        funext name
        by_cases hname : name = erasure.replacementAlias.name
        · rw [hname, update_self, halias]
        · rw [update_of_ne hname, (hother name hname).2 fun claim hclaim howner =>
            halone name claim hclaim howner hname]
      rw [hnames, hrow]
      simp only [Option.map_some, hrenamed]
      rfl

/-! ## Transactions -/

/-- The rows are those that a rebuild would give. -/
def Db.Rebuilt (db : Db ctx) : Prop := rebuildGame db.privacy db.events = some db.rows

/-- A tombstone is of an erasure that was requested. -/
def Db.Requested (db : Db ctx) : Prop :=
  ∀ subjectId erasure, db.privacy.tombstones subjectId = some erasure → db.privacy.outbox subjectId = some erasure

/-- What a transaction redacts is erasable. -/
def Db.Safe (db : Db ctx) : Op ctx → Prop
  | .requestErasure subjectId pseudonym _ =>
    db.privacy.outbox subjectId = none → db.rows.Erasable subjectId pseudonym
  | .finaliseErasure subjectId =>
    ∀ erasure, db.privacy.outbox subjectId = some erasure → db.rows.Erasable subjectId erasure.replacementAlias
  | _ => True

/-- A request, of an erasure that was not there, erases its subject. -/
theorem Db.Requested.request_erases (h : db.Requested) (erasure : Erasure ctx)
    (hnew : db.privacy.outbox subjectId = none) :
    Erases db.privacy
      { db.privacy with outbox := update db.privacy.outbox subjectId (some erasure) } subjectId erasure := by
  have htombstone : db.privacy.tombstones subjectId = none := by
    by_contra hsome
    obtain ⟨old, hold⟩ := Option.ne_none_iff_exists'.mp hsome
    exact nomatch hnew.symm.trans (h subjectId old hold)
  refine ⟨?_, .inl ?_, fun other hother => ?_⟩
  · simp only [Privacy.overlay, htombstone, update_self]
  · simp only [Privacy.overlay, htombstone, hnew]
  · simp only [Privacy.overlay, update_of_ne hother]

theorem finalise_erases (houtbox : privacy.outbox subjectId = some erasure)
    (htombstone : privacy.tombstones subjectId = none) :
    Erases privacy
      { privacy with tombstones := update privacy.tombstones subjectId (some erasure) } subjectId erasure := by
  refine ⟨?_, .inr ?_, fun other hother => ?_⟩
  · simp only [Privacy.overlay, houtbox, update_self]
  · simp only [Privacy.overlay, htombstone, houtbox]
  · simp only [Privacy.overlay, update_of_ne hother]

/-- A request of an erasure that was not there redacts its subject. -/
theorem step_request {db' : Db ctx} {pseudonym : Alias ctx} {now : Nat}
    (hstep : step db (.requestErasure subjectId pseudonym now) = some db') :
    db.privacy.outbox subjectId ≠ none ∧ db' = db ∨
      db.privacy.outbox subjectId = none ∧ ∃ rows, redactSubject db.rows subjectId pseudonym now = some rows ∧
        db' = { db with
          rows
          privacy := { db.privacy with outbox := update db.privacy.outbox subjectId (some ⟨pseudonym, now⟩) } } := by
  unfold step at hstep
  cases houtbox : db.privacy.outbox subjectId with
  | some erasure =>
    simp only [houtbox] at hstep
    exact .inl ⟨Option.some_ne_none _, (Option.some.inj hstep).symm⟩
  | none =>
    simp only [houtbox] at hstep
    obtain ⟨rows, hredact, hdb⟩ := Option.bind_eq_some_iff.mp hstep
    exact .inr ⟨rfl, rows, hredact, (Option.some.inj hdb).symm⟩

/-- A finalisation redacts the subject of a request. -/
theorem step_finalise {db' : Db ctx} (hstep : step db (.finaliseErasure subjectId) = some db') :
    ∃ erasure rows, db.privacy.outbox subjectId = some erasure ∧ db.privacy.tombstones subjectId = none ∧
      redactSubject db.rows subjectId erasure.replacementAlias erasure.time = some rows ∧
      db' = { db with
        rows
        privacy := { db.privacy with tombstones := update db.privacy.tombstones subjectId (some erasure) } } := by
  simp only [step] at hstep
  split at hstep
  case h_1 erasure houtbox htombstone =>
    obtain ⟨rows, hscrub, hdb⟩ := Option.bind_eq_some_iff.mp hstep
    exact ⟨erasure, rows, houtbox, htombstone, hscrub, (Option.some.inj hdb).symm⟩
  case h_2 => cases hstep

theorem step_requested {db' : Db ctx} (h : db.Requested) (hstep : step db op = some db') : db'.Requested := by
  cases op with
  | append event | rebuild =>
    obtain ⟨rows, -, hdb⟩ := Option.bind_eq_some_iff.mp hstep
    rw [← Option.some.inj hdb]
    exact h
  | requestErasure subjectId pseudonym now =>
    rcases step_request hstep with ⟨-, rfl⟩ | ⟨houtbox, rows, -, rfl⟩
    · exact h
    · intro other erasure htombstone
      have hother : other ≠ subjectId := by
        rintro rfl
        exact nomatch houtbox.symm.trans (h other erasure htombstone)
      show update db.privacy.outbox subjectId _ other = some erasure
      rw [update_of_ne hother]
      exact h other erasure htombstone
  | finaliseErasure subjectId =>
    obtain ⟨erasure, rows, houtbox, -, -, rfl⟩ := step_finalise hstep
    intro other found (hfound : update db.privacy.tombstones subjectId (some erasure) other = some found)
    by_cases hother : other = subjectId
    · rw [hother, update_self] at hfound
      rw [hother]
      exact houtbox.trans hfound
    · rw [update_of_ne hother] at hfound
      exact h other found hfound

/-- A transaction keeps the rows those of a rebuild exactly if what it redacts is erasable. -/
theorem step_rebuilt_iff {db' : Db ctx} (hrequested : db.Requested) (h : db.Rebuilt)
    (hstep : step db op = some db') : db'.Rebuilt ↔ db.Safe op := by
  cases op with
  | append event =>
    obtain ⟨rows, hfold, hdb⟩ := Option.bind_eq_some_iff.mp hstep
    rw [← Option.some.inj hdb]
    refine iff_of_true ?_ trivial
    show rebuildGame db.privacy (db.events ++ [event]) = some rows
    rw [rebuildGame_append, show rebuildGame db.privacy db.events = some db.rows from h]
    exact hfold
  | requestErasure subjectId pseudonym now =>
    rcases step_request hstep with ⟨houtbox, rfl⟩ | ⟨houtbox, rows, hredact, rfl⟩
    · exact iff_of_true h fun hnone => absurd hnone houtbox
    · have hiff := redact_rebuilt_iff (hrequested.request_erases ⟨pseudonym, now⟩ houtbox) h hredact
      exact hiff.trans ⟨fun herasable _ => herasable, fun hsafe => hsafe houtbox⟩
  | finaliseErasure subjectId =>
    obtain ⟨erasure, rows, houtbox, htombstone, hscrub, rfl⟩ := step_finalise hstep
    refine (redact_rebuilt_iff (finalise_erases houtbox htombstone) h hscrub).trans ⟨fun herasable found hfound => ?_,
      fun hsafe => hsafe erasure houtbox⟩
    rw [← Option.some.inj (houtbox.symm.trans hfound)]
    exact herasable
  | rebuild =>
    obtain ⟨rows, hrows, hdb⟩ := Option.bind_eq_some_iff.mp hstep
    rw [← Option.some.inj hdb]
    exact iff_of_true hrows trivial

/-! ## Runs of transactions -/

theorem run_append (pre post : List (Op ctx)) : run (pre ++ post) = (run pre).bind fun db => post.foldlM step db := by
  unfold run
  rw [List.foldlM_append]
  rfl

theorem run_snoc {ops : List (Op ctx)} (h : run (ops ++ [op]) = some db) :
    ∃ before, run ops = some before ∧ step before op = some db := by
  rw [run_append] at h
  obtain ⟨before, hbefore, hstep⟩ := Option.bind_eq_some_iff.mp h
  refine ⟨before, hbefore, ?_⟩
  rw [← hstep, List.foldlM_cons]
  exact (bind_pure _).symm

theorem run_requested {ops : List (Op ctx)} (h : run ops = some db) : db.Requested := by
  induction ops using List.reverseRecOn generalizing db with
  | nil =>
    rw [← Option.some.inj h]
    exact nofun
  | append_singleton ops op ih =>
    obtain ⟨before, hbefore, hstep⟩ := run_snoc h
    exact step_requested (ih hbefore) hstep

theorem run_prefix {pre post : List (Op ctx)} (h : run (pre ++ post) = some db) :
    ∃ middle, run pre = some middle := by
  rw [run_append] at h
  obtain ⟨middle, hmiddle, -⟩ := Option.bind_eq_some_iff.mp h
  exact ⟨middle, hmiddle⟩

/-- In a run the rows are always those that a rebuild would give exactly if each request and each finalisation
finds its subject's persona renamed, and what it claims shown of it alone. -/
theorem rows_rebuilt_iff {ops : List (Op ctx)} {final : Db ctx} (hrun : run ops = some final) :
    (∀ pre post db, ops = pre ++ post → run pre = some db → rebuildGame db.privacy db.events = some db.rows) ↔
      ∀ pre op post db, ops = pre ++ op :: post → run pre = some db → db.Safe op := by
  constructor
  · intro hrebuilt pre op post db hops hdb
    have hsplit : ops = (pre ++ [op]) ++ post := by rw [List.append_assoc, List.singleton_append]; exact hops
    obtain ⟨db', hdb'⟩ := run_prefix (hsplit ▸ hrun)
    obtain ⟨before, hbefore, hstep⟩ := run_snoc hdb'
    rw [← Option.some.inj (hdb.symm.trans hbefore)] at hstep
    exact (step_rebuilt_iff (run_requested hdb) (hrebuilt _ _ _ hops hdb) hstep).mp (hrebuilt _ _ _ hsplit hdb')
  · intro hsafe pre
    induction pre using List.reverseRecOn with
    | nil =>
      intro post db _ hdb
      rw [← Option.some.inj hdb]
      rfl
    | append_singleton pre op ih =>
      intro post db hops hdb
      have hsplit : ops = pre ++ op :: post := by rw [hops, List.append_assoc, List.singleton_append]
      obtain ⟨before, hbefore, hstep⟩ := run_snoc hdb
      have hrebuilt := ih (op :: post) before hsplit hbefore
      exact (step_rebuilt_iff (run_requested hbefore) hrebuilt hstep).mpr (hsafe pre op post before hsplit hbefore)

/-! ## A persona that was never renamed -/

/-- Names as they are, and one alias. -/
def plain : Context where
  trim name := name
  toLowercase name := name
  openClaim _ := "Nightingale"
  detachedAlias _ := none

def formerMember : Alias plain := ⟨"former-member-0", rfl, rfl, by decide⟩

/-- A persona is registered, and its subject's erasure requested and finalised. -/
def unrenamed : List (Op plain) :=
  [.append ⟨.registered, 7, 4, 1, 1⟩, .requestErasure 4 formerMember 90, .finaliseErasure 4]

/-- A persona that is renamed before the erasure. -/
def renamed : List (Op plain) :=
  [.append ⟨.registered, 7, 4, 1, 1⟩, .append ⟨.renamed, 7, 4, 2, 5⟩, .requestErasure 4 formerMember 90,
    .finaliseErasure 4]

theorem renamed_rebuilt_iff : ∃ final, run renamed = some final ∧
    ((∀ pre post db, renamed = pre ++ post → run pre = some db → rebuildGame db.privacy db.events = some db.rows) ↔
      ∀ pre op post db, renamed = pre ++ op :: post → run pre = some db → db.Safe op) :=
  ⟨_, rfl, @rows_rebuilt_iff plain renamed _ rfl⟩

/-- The redaction has `renamed_seq` set, which a rebuild leaves unset. -/
theorem unrenamed_not_rebuilt : ∃ db, run unrenamed = some db ∧
    rebuildGame db.privacy db.events ≠ some db.rows ∧
    db.rows.publics 7 = some ⟨"former-member-0", 1, some 1⟩ ∧
    (rebuildGame db.privacy db.events).bind (·.publics 7) = some ⟨"former-member-0", 1, none⟩ := by
  refine ⟨_, rfl, fun hsame => ?_, by decide, by decide⟩
  have hrow := congrArg (fun rows : Option Rows => rows.bind (·.publics 7)) hsame
  cases hrow

end Fmarch.Projections.PersonaErasure
