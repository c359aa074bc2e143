import Mathlib.Data.List.Basic
import Mathlib.Logic.Relation

/-!
# The erasure of subjects (`identity/src/subject_privacy.rs`, `member_lifecycle.rs`)

The keys of the subjects and the journal of their revocations are objects of two stores, which share no
transaction with the database. A load reads the journal, the key and the journal again; a creation reads the
journal, puts its key where none is, and reads the journal again. A request writes the outbox. A worker claims
an erasure for a time, puts the record in the journal, deletes the key, finds it absent and a load refused, and
then finalises under its claim. A replica that starts lists the journal, recovers the erasures that a restored
database does not know, and works off what is pending. Anybody may stop after any step.

**`erasures_lawful`**: from a database as a backup has it, in every run: a load that starts after the record is in
the journal does not return; an erasure is complete only with the record, the outbox, the tombstone and the
receipt in agreement and with no key in the store that was ever loaded; one finalisation takes effect at most;
and a subject's states only move on, with one alias.

Keys are drawn at random, so none is drawn twice; a subject that one creation was begun for has no key at all
once it is erased. Failed reads and the checks that only read back what was written stop a process, which any
process may do. The signatures of the journal, the wrapping of the keys, what else a request and a finalisation
write (`Projections/PersonaErasure.lean` has the personas), who may request and how claims are batched are left
out; so is the store of files, which release builds refuse.
-/

namespace Fmarch.Identity.SubjectErasure

open Function (update update_self update_of_ne)

open Relation

/-! ## The database -/

/-- `SubjectRevocationRecord`. -/
structure RevocationRecord where
  subjectId : Nat
  replacementAlias : String
  destroyedAt : Nat
  keyFingerprintSha256 : String
  receiptId : Nat
  deriving DecidableEq

/-- `subject_authority_binding`. -/
structure AuthorityBinding where
  authorityId : Nat
  authorityRevision : String
  manifestSha256 : String
  deriving DecidableEq

/-- `SubjectErasureWork`, of `subject_erasure_outbox`. Its `requested_at` is the record's `destroyed_at`. -/
structure ErasureWork where
  erasureId : Nat
  principalId : Nat
  record : RevocationRecord
  authority : Option AuthorityBinding
  deriving DecidableEq

/-- `privacy_subject.lifecycle_state`. -/
inductive SubjectState where
  | active
  | erasurePending
  | erased

/-- How far a state is. -/
def SubjectState.rank : SubjectState → Nat
  | .active => 0
  | .erasurePending => 1
  | .erased => 2

/-- `privacy_subject`. -/
structure Subject where
  principalId : Nat
  state : SubjectState

/-- `SET lifecycle_state = 'erasure_pending' … WHERE lifecycle_state = 'active'`. -/
def Subject.pend (subject : Subject) : Subject :=
  match subject.state with
  | .active => { subject with state := .erasurePending }
  | _ => subject

/-- `MemberLifecycleStatus`. -/
inductive MemberStatus where
  | active
  | deactivated
  | erasureInProgress
  | erased

/-- `member_lifecycle_projection`; a member without a row is active. -/
structure Member where
  status : MemberStatus := .active
  pseudonym : Option String := none

/-- `decide_member_lifecycle`: `Deactivate` if the member is active, and then `RequestErasure`. -/
def decideErasure : MemberStatus → Option MemberStatus
  | .active | .deactivated => some .erasureInProgress
  | .erasureInProgress | .erased => none

/-- `claim_token`, `claim_owner` and `claim_expires_at`. -/
structure Claim where
  token : Nat
  owner : String
  expiresAt : Nat

/-- `subject_erasure`; a complete erasure has no claim. -/
inductive Erasure where
  | pending (claim : Option Claim)
  | complete (completedAt : Nat)

/-- `subject_tombstone`. -/
structure Tombstone where
  replacementAlias : String
  destroyedAt : Nat

/-- `subject_key_destruction_receipt`. -/
structure Receipt where
  receiptId : Nat
  keyFingerprintSha256 : String
  keyWasPresent : Bool
  destroyedAt : Nat
  erasureId : Nat

/-- The tables by their keys; the outbox in the order of its insertions. -/
structure Db where
  subjects : Nat → Option Subject := fun _ => none
  members : Nat → Member := fun _ => {}
  outbox : List ErasureWork := []
  erasures : Nat → Option Erasure := fun _ => none
  tombstones : Nat → Option Tombstone := fun _ => none
  receipts : Nat → Option Receipt := fun _ => none
  authority : Option AuthorityBinding := none

namespace Db

variable (db : Db) (work : ErasureWork)

/-- No row of the outbox stands against the work's: its columns are unique. -/
def Free : Prop :=
  ∀ other ∈ db.outbox, other.erasureId ≠ work.erasureId ∧ other.record.subjectId ≠ work.record.subjectId ∧
    other.principalId ≠ work.principalId ∧ other.record.receiptId ≠ work.record.receiptId ∧
    other.record.replacementAlias ≠ work.record.replacementAlias

/-- What a request and a recovery write: the projection, the state and `insert_subject_erasure_work`. -/
def intend (subject : Subject) (status : MemberStatus) : Db :=
  { db with
    members := update db.members work.principalId
      ⟨status, (db.members work.principalId).pseudonym <|> some work.record.replacementAlias⟩
    subjects := update db.subjects work.record.subjectId (some subject.pend)
    outbox := db.outbox ++ [work]
    erasures := update db.erasures work.erasureId (some (.pending none)) }

/-- What `finalize_subject_erasure` writes, with `reconcile_member_lifecycle`; the tombstone and the receipt are
inserted where there is none. -/
def complete (keyWasPresent : Bool) (completedAt : Nat) : Db :=
  { db with
    subjects := update db.subjects work.record.subjectId (some ⟨work.principalId, .erased⟩)
    tombstones := update db.tombstones work.record.subjectId
      (db.tombstones work.record.subjectId <|> some ⟨work.record.replacementAlias, work.record.destroyedAt⟩)
    receipts := update db.receipts work.record.subjectId
      (db.receipts work.record.subjectId <|> some ⟨work.record.receiptId, work.record.keyFingerprintSha256,
        keyWasPresent, work.record.destroyedAt, work.erasureId⟩)
    members := update db.members work.principalId ⟨.erased, some work.record.replacementAlias⟩
    erasures := update db.erasures work.erasureId (some (.complete completedAt)) }

/-- The tombstone and the receipt of a subject are those of the work. -/
def Evidence : Prop :=
  db.tombstones work.record.subjectId = some ⟨work.record.replacementAlias, work.record.destroyedAt⟩ ∧
    ∃ keyWasPresent, db.receipts work.record.subjectId = some ⟨work.record.receiptId,
      work.record.keyFingerprintSha256, keyWasPresent, work.record.destroyedAt, work.erasureId⟩

end Db

/-! ## Who is at work -/

/-- What `create` is at. -/
inductive CreatorStage where
  | begun
  | checked
  | stored
  | withdrawing
  | created
  | done

/-- A creation may still put its key. -/
def CreatorStage.putting : CreatorStage → Bool
  | .begun | .checked => true
  | _ => false

/-- A `create`, with the key that it has drawn, and what its caller does next. -/
structure Creator where
  subjectId : Nat
  key : Nat
  stage : CreatorStage

/-- What `load` is at; one that is refused goes no further. -/
inductive LoaderStage where
  | begun
  | checked
  | read (key : Nat)
  | returned (key : Nat)

/-- A `load`. -/
structure Loader where
  subjectId : Nat
  stage : LoaderStage

/-- What `process_claimed_subject_erasure` is at, with whether there was a key to destroy. -/
inductive WorkerStage where
  | claimed
  | recorded
  | found (keyWasPresent : Bool)
  | deleted (keyWasPresent : Bool)
  | absent (keyWasPresent : Bool)
  | unreadable (keyWasPresent : Bool)
  | finalised

/-- The record is in the journal. -/
def WorkerStage.journaled : WorkerStage → Bool
  | .claimed => false
  | _ => true

/-- The key has been deleted. -/
def WorkerStage.destroyed : WorkerStage → Bool
  | .claimed | .recorded | .found _ => false
  | _ => true

/-- `ClaimedSubjectErasure`, with the record that a startup has listed for the subject. -/
structure Worker where
  work : ErasureWork
  claimToken : Nat
  claimOwner : String
  authenticated : Option RevocationRecord
  stage : WorkerStage

/-- The database, the journal and the keys by their subjects, all that was ever drawn for a subject, and who is
at work. -/
structure World where
  db : Db := {}
  journal : Nat → Option RevocationRecord := fun _ => none
  keys : Nat → Option Nat := fun _ => none
  draws : List (Nat × Nat) := []
  creators : Nat → Option Creator := fun _ => none
  loaders : Nat → Option Loader := fun _ => none
  workers : Nat → Option Worker := fun _ => none

namespace World

variable (world : World) (id : Nat)

def setCreator (creator : Creator) : World :=
  { world with creators := update world.creators id (some creator) }

def setLoader (loader : Loader) : World := { world with loaders := update world.loaders id (some loader) }

def setWorker (worker : Worker) : World := { world with workers := update world.workers id (some worker) }

/-- An object of the keys is put, or deleted. -/
def setKey (subjectId : Nat) (key : Option Nat) : World :=
  { world with keys := update world.keys subjectId key }

end World

/-! ## Steps -/

def subjectErasureLeaseSeconds : Nat := 60

/-- `finalize_subject_erasure`, of the worker `id` and the erasure of its work. -/
inductive Finalises (world : World) (id : Nat) (worker : Worker) : World → Prop where
  | mk {keyWasPresent : Bool} {claim : Claim} (completedAt : Nat) (works : world.workers id = some worker)
      (stage : worker.stage = .unreadable keyWasPresent)
      (owner : world.db.subjects worker.work.record.subjectId = some ⟨worker.work.principalId, .erasurePending⟩)
      (pending : world.db.erasures worker.work.erasureId = some (.pending (some claim)))
      (token : claim.token = worker.claimToken) (claimOwner : claim.owner = worker.claimOwner)
      (bound : world.db.authority = worker.work.authority) (same : worker.work ∈ world.db.outbox)
      (agreed : (world.db.complete worker.work keyWasPresent completedAt).Evidence worker.work) :
      Finalises world id worker
        ({ world with db := world.db.complete worker.work keyWasPresent completedAt }.setWorker id
          { worker with stage := .finalised })

/-- One step of one process; `fingerprint` is the digest of a key. -/
inductive Step (fingerprint : Nat → String) : World → World → Prop where
  /-- `create` begins, with a key that was never drawn. -/
  | beginCreate {world : World} {id subjectId key : Nat} (idle : world.creators id = none)
      (fresh : ∀ draw ∈ world.draws, draw.2 ≠ key) :
      Step fingerprint world
        ({ world with draws := (subjectId, key) :: world.draws }.setCreator id ⟨subjectId, key, .begun⟩)
  | checkCreate {world : World} {id subjectId key : Nat} (creates : world.creators id = some ⟨subjectId, key, .begun⟩)
      (unrevoked : world.journal subjectId = none) :
      Step fingerprint world (world.setCreator id ⟨subjectId, key, .checked⟩)
  | putKey {world : World} {id subjectId key : Nat} (creates : world.creators id = some ⟨subjectId, key, .checked⟩)
      (absent : world.keys subjectId = none) :
      Step fingerprint world ((world.setKey subjectId (some key)).setCreator id ⟨subjectId, key, .stored⟩)
  /-- A key is there already. -/
  | keepKey {world : World} {id subjectId key : Nat} (creates : world.creators id = some ⟨subjectId, key, .checked⟩)
      (present : world.keys subjectId ≠ none) :
      Step fingerprint world (world.setCreator id ⟨subjectId, key, .stored⟩)
  /-- A revocation has come in between. -/
  | withdraw {world : World} {id subjectId key : Nat} (creates : world.creators id = some ⟨subjectId, key, .stored⟩)
      (revoked : world.journal subjectId ≠ none) :
      Step fingerprint world (world.setCreator id ⟨subjectId, key, .withdrawing⟩)
  | deleteWithdrawn {world : World} {id subjectId key : Nat}
      (creates : world.creators id = some ⟨subjectId, key, .withdrawing⟩) :
      Step fingerprint world ((world.setKey subjectId none).setCreator id ⟨subjectId, key, .done⟩)
  | created {world : World} {id subjectId key : Nat} (creates : world.creators id = some ⟨subjectId, key, .stored⟩)
      (unrevoked : world.journal subjectId = none) :
      Step fingerprint world (world.setCreator id ⟨subjectId, key, .created⟩)
  /-- `ensure_active_subject` inserts the subject. -/
  | register {world : World} {id subjectId key : Nat} (principalId : Nat)
      (creates : world.creators id = some ⟨subjectId, key, .created⟩) (absent : world.db.subjects subjectId = none)
      (free : ∀ other subject, world.db.subjects other = some subject → subject.principalId ≠ principalId) :
      Step fingerprint world
        ({ world with
            db := { world.db with
              subjects := update world.db.subjects subjectId (some ⟨principalId, .active⟩) } }.setCreator id
          ⟨subjectId, key, .done⟩)
  /-- `ensure_active_subject` finds that its principal has another subject. -/
  | discard {world : World} {id subjectId key : Nat}
      (creates : world.creators id = some ⟨subjectId, key, .created⟩) :
      Step fingerprint world ((world.setKey subjectId none).setCreator id ⟨subjectId, key, .done⟩)
  /-- `load` begins. -/
  | beginLoad {world : World} {id : Nat} (subjectId : Nat) (idle : world.loaders id = none) :
      Step fingerprint world (world.setLoader id ⟨subjectId, .begun⟩)
  | checkLoad {world : World} {id subjectId : Nat} (loads : world.loaders id = some ⟨subjectId, .begun⟩)
      (unrevoked : world.journal subjectId = none) :
      Step fingerprint world (world.setLoader id ⟨subjectId, .checked⟩)
  | readKey {world : World} {id subjectId key : Nat} (loads : world.loaders id = some ⟨subjectId, .checked⟩)
      (present : world.keys subjectId = some key) :
      Step fingerprint world (world.setLoader id ⟨subjectId, .read key⟩)
  | recheckLoad {world : World} {id subjectId key : Nat} (loads : world.loaders id = some ⟨subjectId, .read key⟩)
      (unrevoked : world.journal subjectId = none) :
      Step fingerprint world (world.setLoader id ⟨subjectId, .returned key⟩)
  /-- A member is deactivated. -/
  | deactivate {world : World} (principalId : Nat) (active : (world.db.members principalId).status = .active) :
      Step fingerprint world
        { world with
          db := { world.db with
            members := update world.db.members principalId
              { world.db.members principalId with status := .deactivated } } }
  /-- `verify_or_bind_database_authority`, of an empty database. -/
  | bindAuthority {world : World} (binding : AuthorityBinding) (unbound : world.db.authority = none)
      (empty : ∀ subjectId, world.db.subjects subjectId = none) :
      Step fingerprint world { world with db := { world.db with authority := some binding } }
  /-- `request_member_erasure`, with the fingerprint of a key that it has loaded. -/
  | request {world : World} {id key : Nat} {subject : Subject} {status : MemberStatus} (work : ErasureWork)
      (loaded : world.loaders id = some ⟨work.record.subjectId, .returned key⟩)
      (fingerprinted : work.record.keyFingerprintSha256 = fingerprint key)
      (owner : world.db.subjects work.record.subjectId = some subject) (owns : subject.principalId = work.principalId)
      (bound : work.authority = world.db.authority) (free : world.db.Free work)
      (decided : decideErasure (world.db.members work.principalId).status = some status) :
      Step fingerprint world { world with db := world.db.intend work subject status }
  /-- `recover_member_erasure_from_revocation`, of a record that the journal has. -/
  | recover {world : World} {subject : Subject} (work : ErasureWork)
      (listed : world.journal work.record.subjectId = some work.record)
      (owner : world.db.subjects work.record.subjectId = some subject) (owns : subject.principalId = work.principalId)
      (bound : work.authority = world.db.authority) (free : world.db.Free work) :
      Step fingerprint world
        { world with
          db := world.db.intend work subject
            ((decideErasure (world.db.members work.principalId).status).getD
              (world.db.members work.principalId).status) }
  /-- `claim_subject_erasure`, or one claim of `claim_pending_subject_erasure_batch`. What a startup has listed
  before, the journal still has. -/
  | claim {world : World} {id : Nat} {held : Option Claim} (work : ErasureWork) (token : Nat) (owner : String)
      (now : Nat) (authenticated : Option RevocationRecord) (idle : world.workers id = none)
      (queued : work ∈ world.db.outbox) (pending : world.db.erasures work.erasureId = some (.pending held))
      (expired : ∀ claim, held = some claim → claim.expiresAt ≤ now)
      (listed : ∀ record, authenticated = some record → world.journal work.record.subjectId = some record) :
      Step fingerprint world
        ({ world with
            db := { world.db with
              erasures := update world.db.erasures work.erasureId
                (some (.pending (some ⟨token, owner, now + subjectErasureLeaseSeconds⟩))) } }.setWorker id
          ⟨work, token, owner, authenticated, .claimed⟩)
  /-- `record_revocation` creates the record. -/
  | recordNew {world : World} {id : Nat} {worker : Worker} (works : world.workers id = some worker)
      (stage : worker.stage = .claimed) (unlisted : worker.authenticated = none)
      (absent : world.journal worker.work.record.subjectId = none) :
      Step fingerprint world
        ({ world with
            journal := update world.journal worker.work.record.subjectId (some worker.work.record) }.setWorker
          id { worker with stage := .recorded })
  /-- `record_revocation` finds the same record, or the one that was listed is the same. -/
  | recordSame {world : World} {id : Nat} {worker : Worker} (works : world.workers id = some worker)
      (stage : worker.stage = .claimed)
      (same : (worker.authenticated <|> world.journal worker.work.record.subjectId) = some worker.work.record) :
      Step fingerprint world (world.setWorker id { worker with stage := .recorded })
  | headKey {world : World} {id : Nat} {worker : Worker} (works : world.workers id = some worker)
      (stage : worker.stage = .recorded) :
      Step fingerprint world
        (world.setWorker id { worker with stage := .found (world.keys worker.work.record.subjectId).isSome })
  | deleteKey {world : World} {id : Nat} {worker : Worker} {keyWasPresent : Bool}
      (works : world.workers id = some worker) (stage : worker.stage = .found keyWasPresent) :
      Step fingerprint world
        ((world.setKey worker.work.record.subjectId none).setWorker id { worker with stage := .deleted keyWasPresent })
  | verifyDeleted {world : World} {id : Nat} {worker : Worker} {keyWasPresent : Bool}
      (works : world.workers id = some worker) (stage : worker.stage = .deleted keyWasPresent)
      (absent : world.keys worker.work.record.subjectId = none) :
      Step fingerprint world (world.setWorker id { worker with stage := .absent keyWasPresent })
  /-- A load is refused with `MissingKey`, by the journal or because there is no key. -/
  | refuseLoad {world : World} {id : Nat} {worker : Worker} {keyWasPresent : Bool}
      (works : world.workers id = some worker) (stage : worker.stage = .absent keyWasPresent)
      (missing : world.journal worker.work.record.subjectId ≠ none ∨ world.keys worker.work.record.subjectId = none) :
      Step fingerprint world (world.setWorker id { worker with stage := .unreadable keyWasPresent })
  | finalise {world world' : World} {id : Nat} {worker : Worker} (finalises : Finalises world id worker world') :
      Step fingerprint world world'

/-- Steps, one after another. -/
abbrev Run (fingerprint : Nat → String) : World → World → Prop := ReflTransGen (Step fingerprint)

/-! ## What the tables keep -/

variable {key other subjectId : Nat} {db db' : Db} {erasure : Erasure} {work : ErasureWork}
   {held : Option Claim} {world world' : World} {fingerprint : Nat → String}

theorem update_inv {α : Type} {table : Nat → Option α} {row found : α}
    (h : update table key (some row) other = some found) :
    (other = key ∧ found = row) ∨ (other ≠ key ∧ table other = some found) := by
  by_cases hkey : other = key
  · rw [hkey, update_self] at h
    exact .inl ⟨hkey, (Option.some.inj h).symm⟩
  · rw [update_of_ne hkey] at h
    exact .inr ⟨hkey, h⟩

/-- What an erasure leaves its subject, its member and its evidence at. -/
def Db.Stands (db : Db) (work : ErasureWork) : Erasure → Prop
  | .pending _ =>
    db.subjects work.record.subjectId = some ⟨work.principalId, .erasurePending⟩ ∧
      db.members work.principalId = ⟨.erasureInProgress, some work.record.replacementAlias⟩ ∧
      db.tombstones work.record.subjectId = none ∧ db.receipts work.record.subjectId = none
  | .complete _ =>
    db.subjects work.record.subjectId = some ⟨work.principalId, .erased⟩ ∧
      db.members work.principalId = ⟨.erased, some work.record.replacementAlias⟩ ∧ db.Evidence work

/-- What the tables keep. -/
structure Tables (db : Db) : Prop where
  owner : ∀ subjectId other subject subject', db.subjects subjectId = some subject →
    db.subjects other = some subject' → subject.principalId = subject'.principalId → subjectId = other
  once : ∀ work ∈ db.outbox, ∀ other ∈ db.outbox,
    (work.erasureId = other.erasureId ∨ work.record.subjectId = other.record.subjectId ∨
      work.principalId = other.principalId) → work = other
  stands : ∀ work ∈ db.outbox, ∃ erasure, db.erasures work.erasureId = some erasure ∧ db.Stands work erasure
  active : ∀ subjectId subject, db.subjects subjectId = some subject →
    (∀ work ∈ db.outbox, work.record.subjectId ≠ subjectId) → subject.state = .active
  plain : ∀ principalId, (∀ work ∈ db.outbox, work.principalId ≠ principalId) →
    (db.members principalId).pseudonym = none ∧
      decideErasure (db.members principalId).status = some .erasureInProgress
  asked : ∀ erasureId erasure, db.erasures erasureId = some erasure → ∃ work ∈ db.outbox, work.erasureId = erasureId
  buried : ∀ subjectId, (∀ work ∈ db.outbox, work.record.subjectId ≠ subjectId) →
    db.tombstones subjectId = none ∧ db.receipts subjectId = none

/-- What an erasure stands at is in the rows of its subject and its member. -/
theorem Db.Stands.congr (h : db.Stands work erasure)
    (hsubjects : db'.subjects work.record.subjectId = db.subjects work.record.subjectId)
    (hmembers : db'.members work.principalId = db.members work.principalId)
    (htombstones : db'.tombstones work.record.subjectId = db.tombstones work.record.subjectId)
    (hreceipts : db'.receipts work.record.subjectId = db.receipts work.record.subjectId) :
    db'.Stands work erasure := by
  cases erasure with
  | pending claim =>
    obtain ⟨hsubject, hmember, htombstone, hreceipt⟩ := h
    exact ⟨hsubjects.trans hsubject, hmembers.trans hmember, htombstones.trans htombstone, hreceipts.trans hreceipt⟩
  | complete completedAt =>
    obtain ⟨hsubject, hmember, htombstone, keyWasPresent, hreceipt⟩ := h
    exact ⟨hsubjects.trans hsubject, hmembers.trans hmember, htombstones.trans htombstone, keyWasPresent,
      hreceipts.trans hreceipt⟩

theorem Db.Stands.subject (h : db.Stands work erasure) :
    ∃ subject, db.subjects work.record.subjectId = some subject ∧ subject.principalId = work.principalId ∧
      subject.state ≠ .active := by
  cases erasure with
  | pending claim => exact ⟨_, h.1, rfl, fun he => nomatch he⟩
  | complete completedAt => exact ⟨_, h.1, rfl, fun he => nomatch he⟩

theorem Db.Stands.member (h : db.Stands work erasure) :
    (db.members work.principalId).pseudonym = some work.record.replacementAlias ∧
      decideErasure (db.members work.principalId).status = none := by
  cases erasure with
  | pending claim
  | complete completedAt => exact ⟨congrArg Member.pseudonym h.2.1, congrArg (decideErasure ·.status) h.2.1⟩

/-- The erasures that are there stay where the rows of their subjects and members do. -/
theorem Tables.stands_of (h : Tables db) (hqueue : db'.outbox = db.outbox)
    (herasures : db'.erasures = db.erasures)
    (hsubjects : ∀ work ∈ db.outbox, db'.subjects work.record.subjectId = db.subjects work.record.subjectId)
    (hmembers : ∀ work ∈ db.outbox, db'.members work.principalId = db.members work.principalId)
    (htombstones : db'.tombstones = db.tombstones) (hreceipts : db'.receipts = db.receipts) :
    ∀ work ∈ db'.outbox, ∃ erasure, db'.erasures work.erasureId = some erasure ∧ db'.Stands work erasure := by
  intro work hwork
  rw [hqueue] at hwork
  obtain ⟨erasure, herasure, hstands⟩ := h.stands work hwork
  refine ⟨erasure, herasures ▸ herasure, hstands.congr (hsubjects work hwork) (hmembers work hwork) ?_ ?_⟩
  · rw [htombstones]
  · rw [hreceipts]

/-- A principal has one subject where it had one before. -/
theorem Tables.owner_of (h : Tables db)
    (hpast : ∀ subjectId found, db'.subjects subjectId = some found → ∃ before, db.subjects subjectId = some before ∧ before.principalId = found.principalId)
    {subject subject' : Subject} (hsubject : db'.subjects subjectId = some subject)
    (hsubject' : db'.subjects other = some subject')
    (hsame : subject.principalId = subject'.principalId) :
    subjectId = other := by
  obtain ⟨before, hbefore, hprincipal⟩ := hpast subjectId subject hsubject
  obtain ⟨before', hbefore', hprincipal'⟩ := hpast other subject' hsubject'
  exact h.owner subjectId other before before' hbefore hbefore' (hprincipal.trans (hsame.trans hprincipal'.symm))

theorem Tables.empty : Tables {} where
  owner _ _ _ _ h := nomatch h
  once _ h := nomatch h
  stands _ h := nomatch h
  active _ _ h := nomatch h
  plain _ _ := ⟨rfl, rfl⟩
  asked _ _ h := nomatch h
  buried _ _ := ⟨rfl, rfl⟩

theorem Tables.register (h : Tables db) {principalId : Nat} (habsent : db.subjects subjectId = none)
    (hfree : ∀ other subject, db.subjects other = some subject → subject.principalId ≠ principalId) :
    Tables { db with subjects := update db.subjects subjectId (some ⟨principalId, .active⟩) } :=
  { h with
    owner s s' subject subject' hs hs' hsame := by
      rcases update_inv hs with ⟨hnew, rfl⟩ | ⟨-, hold⟩ <;> rcases update_inv hs' with ⟨hnew', rfl⟩ | ⟨-, hold'⟩
      · exact hnew.trans hnew'.symm
      · exact absurd hsame.symm (hfree s' subject' hold')
      · exact absurd hsame (hfree s subject hold)
      · exact h.owner s s' subject subject' hold hold' hsame
    stands := by
      refine h.stands_of rfl rfl (fun work hwork => ?_) (fun _ _ => rfl) rfl rfl
      refine update_of_ne (fun hsame => ?_) _ _
      obtain ⟨erasure, -, hstands⟩ := h.stands work hwork
      obtain ⟨subject, hsubject, -⟩ := hstands.subject
      rw [hsame, habsent] at hsubject
      exact nomatch hsubject
    active s subject hs hnone := by
      rcases update_inv hs with ⟨-, rfl⟩ | ⟨-, hold⟩
      · rfl
      · exact h.active s subject hold hnone }

theorem Tables.deactivate (h : Tables db) {principalId : Nat}
    (hactive : (db.members principalId).status = .active) :
    Tables { db with
      members := update db.members principalId { db.members principalId with status := .deactivated } } :=
  { h with
    stands := by
      refine h.stands_of rfl rfl (fun _ _ => rfl) (fun work hwork => ?_) rfl rfl
      refine update_of_ne (fun hsame => ?_) _ _
      obtain ⟨erasure, -, hstands⟩ := h.stands work hwork
      have hdecided := hstands.member.2
      rw [hsame, hactive] at hdecided
      exact nomatch hdecided
    plain p hnone := by
      by_cases hnew : p = principalId
      · rw [hnew] at hnone ⊢
        simp only [update_self]
        exact ⟨(h.plain principalId hnone).1, rfl⟩
      · simp only [update_of_ne hnew]
        exact h.plain p hnone }

/-- A work that nothing stands against, of a subject and its member. -/
theorem Tables.intend (h : Tables db) {subject : Subject} {status : MemberStatus}
    (howner : db.subjects work.record.subjectId = some subject)
    (howns : subject.principalId = work.principalId) (hfree : db.Free work)
    (hstatus : decideErasure (db.members work.principalId).status = some .erasureInProgress → status = .erasureInProgress) :
    Tables (db.intend work subject status) := by
  have hactive := h.active _ _ howner fun other hother => (hfree other hother).2.1
  obtain ⟨hpseudonym, hdecided⟩ := h.plain work.principalId fun other hother => (hfree other hother).2.2.1
  obtain ⟨htombstone, hreceipt⟩ := h.buried work.record.subjectId fun other hother => (hfree other hother).2.1
  have hpend : subject.pend = ⟨work.principalId, .erasurePending⟩ := by
    unfold Subject.pend
    rw [hactive, ← howns]
  have hqueue : ∀ other, other ∈ (db.intend work subject status).outbox ↔ other ∈ db.outbox ∨ other = work :=
    fun other => List.mem_append.trans (or_congr Iff.rfl List.mem_singleton)
  refine ⟨fun s s' row row' hs hs' hsame => ?_, fun first hfirst second hsecond hsame => ?_, fun other hother => ?_,
    fun s row hs hnone => ?_, fun p hnone => ?_, fun e erasure he => ?_, fun s hnone => ?_⟩
  · refine h.owner_of (fun t found hfound => ?_) hs hs' hsame
    rcases update_inv hfound with ⟨rfl, rfl⟩ | ⟨-, hold⟩
    · exact ⟨subject, howner, howns.trans (congrArg Subject.principalId hpend).symm⟩
    · exact ⟨found, hold, rfl⟩
  · rcases (hqueue first).mp hfirst with hold | rfl <;> rcases (hqueue second).mp hsecond with hold' | rfl
    · exact h.once first hold second hold' hsame
    · obtain ⟨hid, hsubject, hprincipal, -⟩ := hfree first hold
      exact absurd hsame (by simp only [hid, hsubject, hprincipal, or_self, not_false_eq_true])
    · obtain ⟨hid, hsubject, hprincipal, -⟩ := hfree second hold'
      exact absurd hsame (by simp only [hid.symm, hsubject.symm, hprincipal.symm, or_self, not_false_eq_true])
    · rfl
  · rcases (hqueue other).mp hother with hold | rfl
    · obtain ⟨hid, hsubject, hprincipal, -⟩ := hfree other hold
      obtain ⟨erasure, herasure, hstands⟩ := h.stands other hold
      refine ⟨erasure, (update_of_ne hid _ _).trans herasure, hstands.congr ?_ ?_ rfl rfl⟩
      · exact update_of_ne hsubject _ _
      · exact update_of_ne hprincipal _ _
    · refine ⟨.pending none, update_self _ _ _, ?_, ?_, htombstone, hreceipt⟩
      · exact (update_self _ _ _).trans (congrArg some hpend)
      · refine (update_self _ _ _).trans ?_
        rw [hpseudonym, hstatus hdecided]
        rfl
  · have hnew : s ≠ work.record.subjectId := (hnone work ((hqueue work).mpr (.inr rfl))).symm
    refine h.active s row ((update_of_ne hnew _ _).symm.trans hs) fun other hother => ?_
    exact hnone other ((hqueue other).mpr (.inl hother))
  · have hnew : p ≠ work.principalId := (hnone work ((hqueue work).mpr (.inr rfl))).symm
    have hmember : (db.intend work subject status).members p = db.members p := update_of_ne hnew _ _
    rw [hmember]
    exact h.plain p fun other hother => hnone other ((hqueue other).mpr (.inl hother))
  · by_cases hnew : e = work.erasureId
    · exact ⟨work, (hqueue work).mpr (.inr rfl), hnew.symm⟩
    · obtain ⟨other, hother, hid⟩ := h.asked e erasure ((update_of_ne hnew _ _).symm.trans he)
      exact ⟨other, (hqueue other).mpr (.inl hother), hid⟩
  · exact h.buried s fun other hother => hnone other ((hqueue other).mpr (.inl hother))

/-- A pending erasure is claimed. -/
theorem Tables.claim (h : Tables db) (claim : Claim) (hqueued : work ∈ db.outbox)
    (hpending : db.erasures work.erasureId = some (.pending held)) :
    Tables { db with erasures := update db.erasures work.erasureId (some (.pending (some claim))) } :=
  { h with
    stands other hother := by
      obtain ⟨erasure, herasure, hstands⟩ := h.stands other hother
      by_cases hid : other.erasureId = work.erasureId
      · obtain rfl := h.once other hother work hqueued (.inl hid)
        obtain rfl := Option.some.inj (herasure.symm.trans hpending)
        exact ⟨_, update_self _ _ _, hstands⟩
      · exact ⟨erasure, (update_of_ne hid _ _).trans herasure, hstands.congr rfl rfl rfl rfl⟩
    asked e erasure he := by
      rcases update_inv he with ⟨hid, -⟩ | ⟨-, hold⟩
      · exact ⟨work, hqueued, hid.symm⟩
      · exact h.asked e erasure hold }

/-- A pending erasure is completed. -/
theorem Tables.complete (h : Tables db) (keyWasPresent : Bool) (completedAt : Nat)
    (howner : db.subjects work.record.subjectId = some ⟨work.principalId, .erasurePending⟩)
    (hqueued : work ∈ db.outbox)
    (hagreed : (db.complete work keyWasPresent completedAt).Evidence work) :
    Tables (db.complete work keyWasPresent completedAt) where
  owner s s' row row' hs hs' hsame := by
    refine h.owner_of (fun t found hfound => ?_) hs hs' hsame
    rcases update_inv hfound with ⟨rfl, rfl⟩ | ⟨-, hold⟩
    · exact ⟨_, howner, rfl⟩
    · exact ⟨found, hold, rfl⟩
  once := h.once
  stands other hother := by
    by_cases hsame : other = work
    · rw [hsame]
      refine ⟨.complete completedAt, update_self _ _ _, ?_, ?_, hagreed⟩
      · exact update_self _ _ db.subjects
      · exact update_self _ _ db.members
    · have hother' : other ∈ db.outbox := hother
      obtain ⟨erasure, herasure, hstands⟩ := h.stands other hother'
      have hne : ¬ (other.erasureId = work.erasureId ∨ other.record.subjectId = work.record.subjectId ∨
          other.principalId = work.principalId) := fun hid => hsame (h.once other hother' work hqueued hid)
      have hsubject := fun he => hne (.inr (.inl he))
      refine ⟨erasure, (update_of_ne (fun he => hne (.inl he)) _ _).trans herasure, hstands.congr ?_ ?_ ?_ ?_⟩
      · exact update_of_ne hsubject _ _
      · exact update_of_ne (fun he => hne (.inr (.inr he))) _ _
      · exact update_of_ne hsubject _ _
      · exact update_of_ne hsubject _ _
  active s row hs hnone := by
    have hnew : s ≠ work.record.subjectId := (hnone work hqueued).symm
    exact h.active s row ((update_of_ne hnew _ _).symm.trans hs) hnone
  plain p hnone := by
    have hnew : p ≠ work.principalId := (hnone work hqueued).symm
    have hmember : (db.complete work keyWasPresent completedAt).members p = db.members p :=
      update_of_ne hnew _ _
    rw [hmember]
    exact h.plain p hnone
  asked e erasure he := by
    by_cases hid : e = work.erasureId
    · exact ⟨work, hqueued, hid.symm⟩
    · exact h.asked e erasure ((update_of_ne hid _ _).symm.trans he)
  buried s hnone := by
    have hnew : s ≠ work.record.subjectId := (hnone work hqueued).symm
    obtain ⟨htombstone, hreceipt⟩ := h.buried s hnone
    exact ⟨(update_of_ne hnew _ _).trans htombstone, (update_of_ne hnew _ _).trans hreceipt⟩

/-! ## What the journal and the workers keep -/

/-- What the journal keeps, of the workers and of the erasures that are complete. -/
structure Journaled (world : World) : Prop where
  own : ∀ subjectId record, world.journal subjectId = some record → record.subjectId = subjectId
  queued : ∀ id worker, world.workers id = some worker → worker.work ∈ world.db.outbox
  recorded : ∀ id worker, world.workers id = some worker → worker.stage.journaled = true →
    world.journal worker.work.record.subjectId = some worker.work.record
  listed : ∀ id worker record, world.workers id = some worker → worker.authenticated = some record →
    world.journal worker.work.record.subjectId = some record
  complete : ∀ work ∈ world.db.outbox, ∀ completedAt,
    world.db.erasures work.erasureId = some (.complete completedAt) →
    world.journal work.record.subjectId = some work.record

/-- What is in the journal stays there. -/
def Extends (journal journal' : Nat → Option RevocationRecord) : Prop :=
  ∀ subjectId record, journal subjectId = some record → journal' subjectId = some record

theorem Journaled.same (h : Journaled world) (hdb : world'.db = world.db)
    (hjournal : world'.journal = world.journal) (hworkers : world'.workers = world.workers) : Journaled world' where
  own := by rw [hjournal]; exact h.own
  queued := by rw [hworkers, hdb]; exact h.queued
  recorded := by rw [hworkers, hjournal]; exact h.recorded
  listed := by rw [hworkers, hjournal]; exact h.listed
  complete := by rw [hdb, hjournal]; exact h.complete

/-- Nothing else than the tables changes, and no erasure is completed. -/
theorem Journaled.tables (h : Journaled world) (hqueue : ∀ work ∈ world.db.outbox, work ∈ db.outbox)
    (hcomplete : ∀ work ∈ db.outbox, ∀ completedAt, db.erasures work.erasureId = some (.complete completedAt) → work ∈ world.db.outbox ∧ world.db.erasures work.erasureId = some (.complete completedAt)) :
    Journaled { world with db } :=
  { h with
    queued id worker hworker := hqueue _ (h.queued id worker hworker)
    complete work hwork completedAt he := by
      obtain ⟨hold, hcompleted⟩ := hcomplete work hwork completedAt he
      exact h.complete work hold completedAt hcompleted }

/-- A worker goes on. -/
theorem Journaled.setWorker (h : Journaled world) {id : Nat} {worker : Worker}
    (hqueued : worker.work ∈ world.db.outbox)
    (hrecorded : worker.stage.journaled = true → world.journal worker.work.record.subjectId = some worker.work.record)
    (hlisted : ∀ record, worker.authenticated = some record → world.journal worker.work.record.subjectId = some record) : Journaled (world.setWorker id worker) where
  own := h.own
  queued other found hfound := by
    rcases update_inv hfound with ⟨-, rfl⟩ | ⟨-, hold⟩
    · exact hqueued
    · exact h.queued other found hold
  recorded other found hfound := by
    rcases update_inv hfound with ⟨-, rfl⟩ | ⟨-, hold⟩
    · exact hrecorded
    · exact h.recorded other found hold
  listed other found record hfound := by
    rcases update_inv hfound with ⟨-, rfl⟩ | ⟨-, hold⟩
    · exact hlisted record
    · exact h.listed other found record hold
  complete := h.complete

theorem Journaled.goes (h : Journaled world) {id : Nat} {worker : Worker}
    (hworks : world.workers id = some worker) (hstage : worker.stage.journaled = true)
    (stage : WorkerStage) :
    Journaled (world.setWorker id { worker with stage }) :=
  h.setWorker (h.queued id worker hworks) (fun _ => h.recorded id worker hworks hstage)
    fun record => h.listed id worker record hworks

/-- The journal gets a record that it does not have. -/
theorem Journaled.record (h : Journaled world) {record : RevocationRecord}
    (habsent : world.journal record.subjectId = none) :
    Journaled { world with journal := update world.journal record.subjectId (some record) } := by
  have hext : Extends world.journal (update world.journal record.subjectId (some record)) := by
    intro subjectId found hfound
    have hne : subjectId ≠ record.subjectId := by
      rintro rfl
      exact nomatch habsent.symm.trans hfound
    rw [update_of_ne hne, hfound]
  exact
    { own := fun subjectId found hfound => by
        rcases update_inv hfound with ⟨rfl, rfl⟩ | ⟨-, hold⟩
        · rfl
        · exact h.own subjectId found hold
      queued := h.queued
      recorded := fun id worker hworker hstage => hext _ _ (h.recorded id worker hworker hstage)
      listed := fun id worker found hworker hfound => hext _ _ (h.listed id worker found hworker hfound)
      complete := fun work hwork completedAt he => hext _ _ (h.complete work hwork completedAt he) }

/-! ## What the keys keep -/

/-- The key was drawn for the subject, and its creation does not put it again. -/
def Spent (world : World) (subjectId key : Nat) : Prop :=
  (subjectId, key) ∈ world.draws ∧
    ∀ id creator, world.creators id = some creator → creator.key = key → creator.stage.putting = false

/-- Two creations were begun for the subject. -/
def DrawnTwice (world : World) (subjectId : Nat) : Prop :=
  ∃ key key', key ≠ key' ∧ (subjectId, key) ∈ world.draws ∧ (subjectId, key') ∈ world.draws

/-- A worker has deleted the key of the subject, or its erasure is complete. -/
def Destroyed (world : World) (subjectId : Nat) : Prop :=
  (∃ id worker, world.workers id = some worker ∧ worker.work.record.subjectId = subjectId ∧
    worker.stage.destroyed = true) ∨
  ∃ work ∈ world.db.outbox, work.record.subjectId = subjectId ∧
    ∃ completedAt, world.db.erasures work.erasureId = some (.complete completedAt)

/-- No key of the subject that a load has returned is in the store, and none at all if one creation was begun. -/
def Gone (world : World) (subjectId : Nat) : Prop :=
  (∀ id key, world.loaders id = some ⟨subjectId, .returned key⟩ → world.keys subjectId ≠ some key) ∧
    (world.keys subjectId = none ∨ DrawnTwice world subjectId)

/-- What the keys keep, of the creations, the loads and the destructions. -/
structure Keyed (world : World) : Prop where
  drawn : ∀ draw ∈ world.draws, ∀ other ∈ world.draws, draw.2 = other.2 → draw = other
  creators : ∀ id creator, world.creators id = some creator → (creator.subjectId, creator.key) ∈ world.draws
  single : ∀ id other creator creator', world.creators id = some creator → world.creators other = some creator' →
    creator.key = creator'.key → id = other
  stored : ∀ subjectId key, world.keys subjectId = some key → Spent world subjectId key
  loaded : ∀ id subjectId key, world.loaders id = some ⟨subjectId, .read key⟩ ∨
    world.loaders id = some ⟨subjectId, .returned key⟩ → Spent world subjectId key
  rooted : ∀ subjectId subject, world.db.subjects subjectId = some subject → ∃ key, (subjectId, key) ∈ world.draws ∧
    ∀ id creator, world.creators id = some creator → creator.key = key → creator.stage = .done
  gone : ∀ subjectId, Destroyed world subjectId → Gone world subjectId

/-- The keys, the creations and the loads stay, and no subject or destruction is new. -/
theorem Keyed.same (h : Keyed world) (hdraws : world'.draws = world.draws)
    (hcreators : world'.creators = world.creators) (hkeys : world'.keys = world.keys)
    (hloaders : world'.loaders = world.loaders)
    (hsubjects : ∀ subjectId subject, world'.db.subjects subjectId = some subject → ∃ before, world.db.subjects subjectId = some before)
    (hdestroyed : ∀ subjectId, Destroyed world' subjectId → Destroyed world subjectId) : Keyed world' where
  drawn := by rw [hdraws]; exact h.drawn
  creators := by rw [hdraws, hcreators]; exact h.creators
  single := by rw [hcreators]; exact h.single
  stored := by
    unfold Spent
    rw [hdraws, hcreators, hkeys]
    exact h.stored
  loaded := by
    unfold Spent
    rw [hdraws, hcreators, hloaders]
    exact h.loaded
  rooted subjectId subject hsubject := by
    rw [hdraws, hcreators]
    obtain ⟨before, hbefore⟩ := hsubjects subjectId subject hsubject
    exact h.rooted subjectId before hbefore
  gone subjectId hgone := by
    unfold Gone DrawnTwice
    rw [hdraws, hkeys, hloaders]
    exact h.gone subjectId (hdestroyed subjectId hgone)

theorem Destroyed.setWorker {id : Nat} {worker : Worker}
    (h : Destroyed (world.setWorker id worker) subjectId) :
    (subjectId = worker.work.record.subjectId ∧ worker.stage.destroyed = true) ∨ Destroyed world subjectId := by
  rcases h with ⟨other, found, hfound, hsubject, hstage⟩ | hcomplete
  · rcases update_inv hfound with ⟨-, rfl⟩ | ⟨-, hold⟩
    · exact .inl ⟨hsubject.symm, hstage⟩
    · exact .inr (.inl ⟨other, found, hold, hsubject, hstage⟩)
  · exact .inr (.inr hcomplete)

theorem Keyed.goes (h : Keyed world) {id : Nat} {worker : Worker}
    (hdestroyed : worker.stage.destroyed = true → Destroyed world worker.work.record.subjectId) :
    Keyed (world.setWorker id worker) := by
  refine h.same rfl rfl rfl rfl (fun _ subject hsubject => ⟨subject, hsubject⟩) fun subjectId hgone => ?_
  rcases hgone.setWorker with ⟨rfl, hstage⟩ | hold
  · exact hdestroyed hstage
  · exact hold

/-- A key is deleted. -/
theorem Keyed.deleteKey (h : Keyed world) (subjectId : Nat) : Keyed (world.setKey subjectId none) :=
  { h with
    stored other key hkey := by
      have hkey' : update world.keys subjectId none other = some key := hkey
      by_cases hsame : other = subjectId
      · rw [hsame, update_self] at hkey'
        exact nomatch hkey'
      · rw [update_of_ne hsame] at hkey'
        exact h.stored other key hkey'
    gone other hgone := by
      obtain ⟨hloaded, habsent⟩ := h.gone other hgone
      by_cases hsame : other = subjectId
      · have hnone : (world.setKey subjectId none).keys other = none := by
          rw [hsame]
          exact update_self _ _ _
        exact ⟨fun id key _ hkey => (nomatch hnone.symm.trans hkey), .inl hnone⟩
      · have hkey : (world.setKey subjectId none).keys other = world.keys other := update_of_ne hsame _ _
        unfold Gone
        rw [hkey]
        exact ⟨hloaded, habsent⟩ }

/-- A worker has deleted the key. -/
theorem Keyed.destroyed (h : Keyed world) {id : Nat} {worker : Worker}
    (hnone : world.keys worker.work.record.subjectId = none) : Keyed (world.setWorker id worker) :=
  { h with
    gone subjectId hgone := by
      rcases hgone.setWorker with ⟨rfl, -⟩ | hold
      · exact ⟨fun _ key _ hkey => (nomatch hnone.symm.trans hkey), .inl hnone⟩
      · exact h.gone subjectId hold }

/-- A creation goes on, and does not put a key later than it would have before. -/
theorem Keyed.setCreator (h : Keyed world) {id : Nat} {stage stage' : CreatorStage}
    (hcreates : world.creators id = some ⟨subjectId, key, stage⟩)
    (hputting : stage.putting = false → stage'.putting = false)
    (hdone : stage = .done → stage' = .done) :
    Keyed (world.setCreator id ⟨subjectId, key, stage'⟩) := by
  have hpast : ∀ other found, (world.setCreator id ⟨subjectId, key, stage'⟩).creators other = some found →
      ∃ before, world.creators other = some before ∧ before.subjectId = found.subjectId ∧ before.key = found.key ∧
        (before.stage.putting = false → found.stage.putting = false) ∧ (before.stage = .done → found.stage = .done) := by
    intro other found hfound
    rcases update_inv hfound with ⟨rfl, rfl⟩ | ⟨-, hold⟩
    · exact ⟨_, hcreates, rfl, rfl, hputting, hdone⟩
    · exact ⟨found, hold, rfl, rfl, fun hnot => hnot, fun hfinal => hfinal⟩
  have hspent : ∀ s k, Spent world s k → Spent (world.setCreator id ⟨subjectId, key, stage'⟩) s k := by
    intro s k hspent
    refine ⟨hspent.1, fun other found hfound hkey => ?_⟩
    obtain ⟨before, hbefore, -, hsame, hnot, -⟩ := hpast other found hfound
    exact hnot (hspent.2 other before hbefore (hsame.trans hkey))
  exact
    { drawn := h.drawn
      creators := fun other found hfound => by
        obtain ⟨before, hbefore, hsubject, hkey, -⟩ := hpast other found hfound
        have hdrawn := h.creators other before hbefore
        rwa [hsubject, hkey] at hdrawn
      single := fun other other' found found' hfound hfound' hsame => by
        obtain ⟨before, hbefore, -, hkey, -⟩ := hpast other found hfound
        obtain ⟨before', hbefore', -, hkey', -⟩ := hpast other' found' hfound'
        exact h.single other other' before before' hbefore hbefore' (hkey.trans (hsame.trans hkey'.symm))
      stored := fun s k hkey => hspent s k (h.stored s k hkey)
      loaded := fun other s k hloaded => hspent s k (h.loaded other s k hloaded)
      rooted := fun s subject hsubject => by
        obtain ⟨k, hdrawn, hall⟩ := h.rooted s subject hsubject
        refine ⟨k, hdrawn, fun other found hfound hkey => ?_⟩
        obtain ⟨before, hbefore, -, hsame, -, hfinal⟩ := hpast other found hfound
        exact hfinal (hall other before hbefore (hsame.trans hkey))
      gone := h.gone }

/-- A creation begins. -/
theorem Keyed.beginCreate (h : Keyed world) {id : Nat} (hfresh : ∀ draw ∈ world.draws, draw.2 ≠ key) :
    Keyed ({ world with draws := (subjectId, key) :: world.draws }.setCreator id ⟨subjectId, key, .begun⟩) := by
  have hspent : ∀ s k, Spent world s k →
      Spent ({ world with draws := (subjectId, key) :: world.draws }.setCreator id ⟨subjectId, key, .begun⟩) s k := by
    intro s k hspent
    refine ⟨List.mem_cons_of_mem _ hspent.1, fun other found hfound hkey => ?_⟩
    rcases update_inv hfound with ⟨-, rfl⟩ | ⟨-, hold⟩
    · exact absurd hkey.symm (hfresh _ hspent.1)
    · exact hspent.2 other found hold hkey
  exact
    { drawn := fun draw hdraw other hother hsame => by
        rcases List.mem_cons.mp hdraw with rfl | hold <;> rcases List.mem_cons.mp hother with rfl | hold'
        · rfl
        · exact absurd hsame.symm (hfresh other hold')
        · exact absurd hsame (hfresh draw hold)
        · exact h.drawn draw hold other hold' hsame
      creators := fun other found hfound => by
        rcases update_inv hfound with ⟨-, rfl⟩ | ⟨-, hold⟩
        · exact List.mem_cons_self
        · exact List.mem_cons_of_mem _ (h.creators other found hold)
      single := fun other other' found found' hfound hfound' hsame => by
        rcases update_inv hfound with ⟨hid, rfl⟩ | ⟨-, hold⟩ <;> rcases update_inv hfound' with ⟨hid', rfl⟩ | ⟨-, hold'⟩
        · exact hid.trans hid'.symm
        · exact absurd hsame.symm (hfresh _ (h.creators other' found' hold'))
        · exact absurd hsame (hfresh _ (h.creators other found hold))
        · exact h.single other other' found found' hold hold' hsame
      stored := fun s k hkey => hspent s k (h.stored s k hkey)
      loaded := fun other s k hloaded => hspent s k (h.loaded other s k hloaded)
      rooted := fun s subject hsubject => by
        obtain ⟨k, hdrawn, hall⟩ := h.rooted s subject hsubject
        refine ⟨k, List.mem_cons_of_mem _ hdrawn, fun other found hfound hkey => ?_⟩
        rcases update_inv hfound with ⟨-, rfl⟩ | ⟨-, hold⟩
        · exact absurd hkey.symm (hfresh _ hdrawn)
        · exact hall other found hold hkey
      gone := fun s hgone => by
        obtain ⟨hloaded, habsent⟩ := h.gone s hgone
        refine ⟨hloaded, habsent.imp (fun hnone => hnone) ?_⟩
        rintro ⟨k, k', hne, hk, hk'⟩
        exact ⟨k, k', hne, List.mem_cons_of_mem _ hk, List.mem_cons_of_mem _ hk'⟩ }

/-- A key is put that no load has read, and that is not the first of a subject that is destroyed. -/
theorem Keyed.putKey (h : Keyed world) (hspent : Spent world subjectId key)
    (hunloaded : ∀ id, world.loaders id ≠ some ⟨subjectId, .returned key⟩)
    (htwice : Destroyed world subjectId → DrawnTwice world subjectId) :
    Keyed (world.setKey subjectId (some key)) :=
  { h with
    stored other found hfound := by
      rcases update_inv hfound with ⟨rfl, rfl⟩ | ⟨-, hold⟩
      · exact hspent
      · exact h.stored other found hold
    gone other hgone := by
      obtain ⟨hloaded, habsent⟩ := h.gone other hgone
      by_cases hsame : other = subjectId
      · refine ⟨fun id found hreturned hfound => ?_, .inr (hsame ▸ htwice (hsame ▸ hgone))⟩
        rcases update_inv hfound with ⟨rfl, rfl⟩ | ⟨hne, -⟩
        · exact hunloaded id hreturned
        · exact hne hsame
      · have hkey : (world.setKey subjectId (some key)).keys other = world.keys other := update_of_ne hsame _ _
        unfold Gone
        rw [hkey]
        exact ⟨hloaded, habsent⟩ }

/-- A subject gets its row from the creation that is done. -/
theorem Keyed.register (h : Keyed world) {id : Nat} (subject : Subject)
    (hcreates : world.creators id = some ⟨subjectId, key, .done⟩) :
    Keyed { world with
      db := { world.db with subjects := update world.db.subjects subjectId (some subject) } } :=
  { h with
    rooted other found hfound := by
      rcases update_inv hfound with ⟨rfl, -⟩ | ⟨-, hold⟩
      · refine ⟨key, h.creators id _ hcreates, fun other creator hcreator hkey => ?_⟩
        obtain rfl := h.single other id creator _ hcreator hcreates hkey
        rw [Option.some.inj (hcreator.symm.trans hcreates)]
      · exact h.rooted other found hold }

/-- A load goes on. -/
theorem Keyed.setLoader (h : Keyed world) (id : Nat) {stage : LoaderStage}
    (hloaded : ∀ key, stage = .read key ∨ stage = .returned key → Spent world subjectId key)
    (hreturned : ∀ key, stage = .returned key → ¬ Destroyed world subjectId) :
    Keyed (world.setLoader id ⟨subjectId, stage⟩) :=
  { h with
    loaded other s key hfound := by
      rcases hfound with hread | hread <;> rcases update_inv hread with ⟨-, hsame⟩ | ⟨-, hold⟩
      · obtain ⟨rfl, hstage⟩ := Loader.mk.injEq .. ▸ hsame
        exact hloaded key (.inl hstage.symm)
      · exact h.loaded other s key (.inl hold)
      · obtain ⟨rfl, hstage⟩ := Loader.mk.injEq .. ▸ hsame
        exact hloaded key (.inr hstage.symm)
      · exact h.loaded other s key (.inr hold)
    gone s hgone := by
      obtain ⟨hall, habsent⟩ := h.gone s hgone
      refine ⟨fun other key hfound => ?_, habsent⟩
      rcases update_inv hfound with ⟨-, hsame⟩ | ⟨-, hold⟩
      · obtain ⟨rfl, hstage⟩ := Loader.mk.injEq .. ▸ hsame
        exact absurd hgone (hreturned key hstage.symm)
      · exact hall other key hold }

/-! ## What every step keeps -/

/-- What every step keeps. -/
structure Inv (world : World) : Prop where
  tables : Tables world.db
  journaled : Journaled world
  keyed : Keyed world

/-- A subject whose key was destroyed is in the journal, and has its row. -/
theorem Inv.destroyed (h : Inv world) (hgone : Destroyed world subjectId) :
    (∃ record, world.journal subjectId = some record) ∧ ∃ subject, world.db.subjects subjectId = some subject := by
  have howned : ∀ work ∈ world.db.outbox, work.record.subjectId = subjectId →
      ∃ subject, world.db.subjects subjectId = some subject := by
    rintro work hwork rfl
    obtain ⟨erasure, -, hstands⟩ := h.tables.stands work hwork
    obtain ⟨subject, hsubject, -⟩ := hstands.subject
    exact ⟨subject, hsubject⟩
  rcases hgone with ⟨id, worker, hworks, hsubject, hstage⟩ | ⟨work, hwork, hsubject, completedAt, hcomplete⟩
  · have hjournaled : worker.stage.journaled = true := by
      cases hcase : worker.stage <;> rw [hcase] at hstage <;> first | rfl | exact nomatch hstage
    exact ⟨⟨_, hsubject ▸ h.journaled.recorded id worker hworks hjournaled⟩,
      howned _ (h.journaled.queued id worker hworks) hsubject⟩
  · exact ⟨⟨_, hsubject ▸ h.journaled.complete work hwork completedAt hcomplete⟩, howned work hwork hsubject⟩

/-- A creation before its put: its key is not loaded, and not the first of a subject that has its row. -/
theorem Inv.putting (h : Inv world) {id : Nat} {stage : CreatorStage}
    (hcreates : world.creators id = some ⟨subjectId, key, stage⟩) (hstage : stage.putting = true) :
    (∀ other, world.loaders other ≠ some ⟨subjectId, .returned key⟩) ∧
      (Destroyed world subjectId → DrawnTwice world subjectId) := by
  refine ⟨fun other hloaded => ?_, fun hgone => ?_⟩
  · have hnot := (h.keyed.loaded other subjectId key (.inr hloaded)).2 id _ hcreates rfl
    exact nomatch hstage.symm.trans hnot
  · obtain ⟨-, subject, hsubject⟩ := h.destroyed hgone
    obtain ⟨root, hroot, hall⟩ := h.keyed.rooted subjectId subject hsubject
    refine ⟨root, key, fun hsame => ?_, hroot, h.keyed.creators id _ hcreates⟩
    have hdone : stage = .done := hall id _ hcreates hsame.symm
    rw [hdone] at hstage
    exact nomatch hstage

/-- What a work that is added leaves of the others. -/
theorem Inv.intend (h : Inv world) {subject : Subject} {status : MemberStatus}
    (howner : world.db.subjects work.record.subjectId = some subject)
    (howns : subject.principalId = work.principalId) (hfree : world.db.Free work)
    (hstatus : decideErasure (world.db.members work.principalId).status = some .erasureInProgress → status = .erasureInProgress) : Inv { world with db := world.db.intend work subject status } := by
  have hcomplete : ∀ other ∈ (world.db.intend work subject status).outbox, ∀ completedAt,
      (world.db.intend work subject status).erasures other.erasureId = some (.complete completedAt) →
      other ∈ world.db.outbox ∧ world.db.erasures other.erasureId = some (.complete completedAt) := by
    intro other hother completedAt he
    rcases update_inv he with ⟨-, hpending⟩ | ⟨hne, hold⟩
    · exact nomatch hpending
    · rcases List.mem_append.mp hother with hmem | hnew
      · exact ⟨hmem, hold⟩
      · exact absurd (congrArg ErasureWork.erasureId (List.mem_singleton.mp hnew)) hne
  refine ⟨h.tables.intend howner howns hfree hstatus,
    h.journaled.tables (fun other hother => List.mem_append_left _ hother) hcomplete,
    h.keyed.same rfl rfl rfl rfl (fun s found hfound => ?_) fun s hgone => ?_⟩
  · rcases update_inv hfound with ⟨rfl, -⟩ | ⟨-, hold⟩
    · exact ⟨subject, howner⟩
    · exact ⟨found, hold⟩
  · rcases hgone with hworker | ⟨other, hother, hsubject, completedAt, he⟩
    · exact .inl hworker
    · obtain ⟨hold, hcompleted⟩ := hcomplete other hother completedAt he
      exact .inr ⟨other, hold, hsubject, completedAt, hcompleted⟩

/-- A pending erasure is claimed, by a worker that is new. -/
theorem Inv.claim (h : Inv world) (claim : Claim) (hqueued : work ∈ world.db.outbox)
    (hpending : world.db.erasures work.erasureId = some (.pending held)) :
    Inv { world with db := { world.db with
        erasures := update world.db.erasures work.erasureId (some (.pending (some claim))) } } := by
  have hcomplete : ∀ erasureId completedAt,
      update world.db.erasures work.erasureId (some (.pending (some claim))) erasureId =
        some (.complete completedAt) → world.db.erasures erasureId = some (.complete completedAt) := by
    intro erasureId completedAt he
    rcases update_inv he with ⟨-, hnew⟩ | ⟨-, hold⟩
    · exact nomatch hnew
    · exact hold
  refine ⟨h.tables.claim claim hqueued hpending,
    h.journaled.tables (fun _ hother => hother) fun other hother completedAt he => ⟨hother, hcomplete _ _ he⟩,
    h.keyed.same rfl rfl rfl rfl (fun _ found hfound => ⟨found, hfound⟩) fun s hgone => ?_⟩
  rcases hgone with hworker | ⟨other, hother, hsubject, completedAt, he⟩
  · exact .inl hworker
  · exact .inr ⟨other, hother, hsubject, completedAt, hcomplete _ _ he⟩

theorem Inv.goes (h : Inv world) {id : Nat} {worker : Worker}
    (hworks : world.workers id = some worker) (hjournaled : worker.stage.journaled = true)
    {stage : WorkerStage} (hdestroyed : stage.destroyed = true → worker.stage.destroyed = true) :
    Inv (world.setWorker id { worker with stage }) where
  tables := h.tables
  journaled := h.journaled.goes hworks hjournaled stage
  keyed := h.keyed.goes fun hstage => .inl ⟨id, worker, hworks, rfl, hdestroyed hstage⟩

theorem Inv.finalise (h : Inv world) {id : Nat} {worker : Worker}
    (hfinalises : Finalises world id worker world') : Inv world' := by
  obtain @⟨keyWasPresent, claim, completedAt, hworks, hstage, howner, hpending, -, -, -, hsame, hagreed⟩ := hfinalises
  have hjournaled : worker.stage.journaled = true := by rw [hstage]; rfl
  have hdestroyed : worker.stage.destroyed = true := by rw [hstage]; rfl
  have hgone : Destroyed world worker.work.record.subjectId := .inl ⟨id, worker, hworks, rfl, hdestroyed⟩
  have hcomplete : ∀ other ∈ world.db.outbox, ∀ at_,
      (world.db.complete worker.work keyWasPresent completedAt).erasures other.erasureId = some (.complete at_) →
      other = worker.work ∨ world.db.erasures other.erasureId = some (.complete at_) := by
    intro other hother at_ he
    rcases update_inv he with ⟨hid, -⟩ | ⟨-, hold⟩
    · exact .inl (h.tables.once other hother worker.work hsame (.inl hid))
    · exact .inr hold
  have hdb : Inv { world with db := world.db.complete worker.work keyWasPresent completedAt } :=
    { tables := h.tables.complete _ completedAt howner hsame hagreed
      journaled :=
        { own := h.journaled.own
          queued := h.journaled.queued
          recorded := h.journaled.recorded
          listed := h.journaled.listed
          complete := fun other hother at_ he => by
            rcases hcomplete other hother at_ he with rfl | hold
            · exact h.journaled.recorded id worker hworks hjournaled
            · exact h.journaled.complete other hother at_ hold }
      keyed := h.keyed.same rfl rfl rfl rfl
        (fun s found hfound => by
          rcases update_inv hfound with ⟨rfl, -⟩ | ⟨-, hold⟩
          · exact ⟨_, howner⟩
          · exact ⟨found, hold⟩)
        (fun s hnew => by
          rcases hnew with hworker | ⟨other, hother, rfl, at_, he⟩
          · exact .inl hworker
          · rcases hcomplete other hother at_ he with rfl | hold
            · exact hgone
            · exact .inr ⟨other, hother, rfl, at_, hold⟩) }
  have hworks' : ({ world with db := world.db.complete worker.work keyWasPresent completedAt } : World).workers id =
    some worker := hworks
  exact hdb.goes hworks' hjournaled fun _ => hdestroyed

theorem step_inv (hstep : Step fingerprint world world') (h : Inv world) : Inv world' := by
  cases hstep with
  | beginCreate idle fresh =>
    exact ⟨h.tables, h.journaled.same rfl rfl rfl, h.keyed.beginCreate fresh⟩
  | checkCreate creates unrevoked | keepKey creates present =>
    exact ⟨h.tables, h.journaled.same rfl rfl rfl, h.keyed.setCreator creates (fun he => nomatch he) (fun he => nomatch he)⟩
  | @putKey id subjectId key creates absent =>
    obtain ⟨hunloaded, htwice⟩ := h.putting creates rfl
    have hstored : Keyed (world.setCreator id ⟨subjectId, key, .stored⟩) :=
      h.keyed.setCreator creates (fun he => nomatch he) (fun he => nomatch he)
    refine ⟨h.tables, h.journaled.same rfl rfl rfl, hstored.putKey ⟨h.keyed.creators id _ creates, fun other found hfound hkey => ?_⟩
        hunloaded htwice⟩
    rcases update_inv hfound with ⟨-, rfl⟩ | ⟨hne, hold⟩
    · rfl
    · exact absurd (h.keyed.single other id found _ hold creates hkey) hne
  | withdraw creates revoked | created creates unrevoked =>
    exact ⟨h.tables, h.journaled.same rfl rfl rfl, h.keyed.setCreator creates (fun _ => rfl) (fun he => nomatch he)⟩
  | deleteWithdrawn creates | discard creates =>
    exact ⟨h.tables, h.journaled.same rfl rfl rfl, (h.keyed.setCreator creates (fun _ => rfl) (fun _ => rfl)).deleteKey _⟩
  | @register id subjectId key principalId creates absent free =>
    have hdone : Keyed (world.setCreator id ⟨subjectId, key, .done⟩) :=
      h.keyed.setCreator creates (fun _ => rfl) (fun _ => rfl)
    have hcreates : (world.setCreator id ⟨subjectId, key, .done⟩).creators id = some ⟨subjectId, key, .done⟩ :=
      update_self _ _ _
    let subjects := update world.db.subjects subjectId (some ⟨principalId, .active⟩)
    have hkept : Journaled { world with db := { world.db with subjects } } :=
      h.journaled.tables (fun _ hother => hother) fun _ hother _ he => ⟨hother, he⟩
    exact ⟨h.tables.register absent free, hkept.same rfl rfl rfl, hdone.register ⟨principalId, .active⟩ hcreates⟩
  | beginLoad subjectId idle | checkLoad loads unrevoked =>
    exact ⟨h.tables, h.journaled.same rfl rfl rfl, h.keyed.setLoader _ (fun _ hread => by rcases hread with he | he <;> exact nomatch he)
        (fun _ he => nomatch he)⟩
  | @readKey id subjectId key loads present =>
    refine ⟨h.tables, h.journaled.same rfl rfl rfl, h.keyed.setLoader _ (fun found hread => ?_) (fun _ he => nomatch he)⟩
    rcases hread with he | he
    · rw [← LoaderStage.read.inj he]
      exact h.keyed.stored subjectId key present
    · exact nomatch he
  | @recheckLoad id subjectId key loads unrevoked =>
    refine ⟨h.tables, h.journaled.same rfl rfl rfl, h.keyed.setLoader _ (fun found hread => ?_) (fun _ _ hgone => ?_)⟩
    · rcases hread with he | he
      · exact nomatch he
      · rw [← LoaderStage.returned.inj he]
        exact h.keyed.loaded id subjectId key (.inl loads)
    · obtain ⟨⟨record, hrecord⟩, -⟩ := h.destroyed hgone
      exact nomatch unrevoked.symm.trans hrecord
  | deactivate principalId active =>
    exact ⟨h.tables.deactivate active, h.journaled.tables (fun _ hother => hother) fun _ hother _ he => ⟨hother, he⟩,
      h.keyed.same rfl rfl rfl rfl (fun _ found hfound => ⟨found, hfound⟩) fun _ hgone => hgone⟩
  | bindAuthority binding unbound empty =>
    exact ⟨⟨h.tables.owner, h.tables.once, h.tables.stands, h.tables.active, h.tables.plain, h.tables.asked,
      h.tables.buried⟩, h.journaled.tables (fun _ hother => hother) fun _ hother _ he => ⟨hother, he⟩,
      h.keyed.same rfl rfl rfl rfl (fun _ found hfound => ⟨found, hfound⟩) fun _ hgone => hgone⟩
  | request work loaded fingerprinted owner owns bound free decided =>
    exact h.intend owner owns free fun hdecided => Option.some.inj (decided.symm.trans hdecided)
  | recover work listed owner owns bound free =>
    exact h.intend owner owns free fun hdecided => by rw [hdecided]; rfl
  | @claim id held work token owner now authenticated idle queued pending expired listed =>
    have hclaimed := h.claim ⟨token, owner, now + subjectErasureLeaseSeconds⟩ queued pending
    exact ⟨hclaimed.tables, hclaimed.journaled.setWorker queued (fun he => nomatch he) listed,
      hclaimed.keyed.goes fun he => nomatch he⟩
  | @recordNew id worker works stage unlisted absent =>
    have hrecorded := h.journaled.record absent
    have hself : update world.journal worker.work.record.subjectId (some worker.work.record)
        worker.work.record.subjectId = some worker.work.record := update_self _ _ _
    refine ⟨h.tables, hrecorded.setWorker (h.journaled.queued id worker works) (fun _ => hself) fun record he => ?_, ?_⟩
    · exact nomatch unlisted.symm.trans he
    · let journal := update world.journal worker.work.record.subjectId (some worker.work.record)
      have hkept : Keyed { world with journal } :=
        h.keyed.same rfl rfl rfl rfl (fun _ found hfound => ⟨found, hfound⟩) fun _ hgone => hgone
      exact @Keyed.goes _ hkept id { worker with stage := .recorded } fun he => nomatch he
  | @recordSame id worker works stage same =>
    have hrecorded : world.journal worker.work.record.subjectId = some worker.work.record := by
      cases hlisted : worker.authenticated with
      | none =>
        rw [hlisted] at same
        exact same
      | some record =>
        rw [hlisted] at same
        rw [h.journaled.listed id worker record works hlisted]
        exact same
    exact ⟨h.tables, h.journaled.setWorker (h.journaled.queued id worker works) (fun _ => hrecorded)
      fun record => h.journaled.listed id worker record works, h.keyed.goes fun he => nomatch he⟩
  | headKey works stage => exact h.goes works (by rw [stage]; rfl) fun he => nomatch he
  | @deleteKey id worker keyWasPresent works stage =>
    have hjournaled : worker.stage.journaled = true := by rw [stage]; rfl
    have hnone : (world.setKey worker.work.record.subjectId none).keys worker.work.record.subjectId = none :=
      update_self _ _ _
    have hdeleted := h.keyed.deleteKey worker.work.record.subjectId
    have hkept : Journaled (world.setKey worker.work.record.subjectId none) :=
      h.journaled.same rfl rfl rfl
    have hworks : (world.setKey worker.work.record.subjectId none).workers id = some worker := works
    exact ⟨h.tables, hkept.goes hworks hjournaled _, @Keyed.destroyed _ hdeleted id
      { worker with stage := .deleted keyWasPresent } hnone⟩
  | verifyDeleted works stage absent
  | refuseLoad works stage missing => exact h.goes works (by rw [stage]; rfl) fun _ => by rw [stage]; rfl
  | finalise finalises => exact h.finalise finalises

/-! ## What every step leaves -/

/-- What a step leaves of the journal, the outbox, the complete erasures and the subjects. -/
structure Goes (world world' : World) : Prop where
  journal : Extends world.journal world'.journal
  outbox : ∀ work ∈ world.db.outbox, work ∈ world'.db.outbox
  complete : ∀ erasureId completedAt, world.db.erasures erasureId = some (.complete completedAt) →
    world'.db.erasures erasureId = some (.complete completedAt)
  subjects : ∀ subjectId subject, world.db.subjects subjectId = some subject → ∃ subject',
    world'.db.subjects subjectId = some subject' ∧ subject'.principalId = subject.principalId ∧
      subject.state.rank ≤ subject'.state.rank

theorem Goes.refl (world : World) : Goes world world :=
  ⟨fun _ _ h => h, fun _ h => h, fun _ _ h => h, fun _ subject h => ⟨subject, h, rfl, Nat.le_refl _⟩⟩

theorem Goes.same (hdb : world'.db = world.db) (hjournal : world'.journal = world.journal) :
    Goes world world' := by
  have hrefl := Goes.refl world
  constructor
  · rw [hjournal]; exact hrefl.journal
  · rw [hdb]; exact hrefl.outbox
  · rw [hdb]; exact hrefl.complete
  · rw [hdb]; exact hrefl.subjects

theorem Goes.trans {first second third : World} (h : Goes first second) (h' : Goes second third) :
    Goes first third where
  journal subjectId record hrecord := h'.journal subjectId record (h.journal subjectId record hrecord)
  outbox work hwork := h'.outbox work (h.outbox work hwork)
  complete erasureId completedAt he := h'.complete erasureId completedAt (h.complete erasureId completedAt he)
  subjects subjectId subject hsubject := by
    obtain ⟨subject', hsubject', howner, hrank⟩ := h.subjects subjectId subject hsubject
    obtain ⟨subject'', hsubject'', howner', hrank'⟩ := h'.subjects subjectId subject' hsubject'
    exact ⟨subject'', hsubject'', howner'.trans howner, Nat.le_trans hrank hrank'⟩

/-- A state is followed by itself or by the next. -/
def SubjectState.Next (state state' : SubjectState) : Prop := state.rank ≤ state'.rank ∧ state'.rank ≤ state.rank + 1

theorem SubjectState.Next.refl (state : SubjectState) : state.Next state := ⟨Nat.le_refl _, Nat.le_succ _⟩

theorem SubjectState.Next.pend : SubjectState.Next .active .erasurePending := ⟨Nat.zero_le _, Nat.le_refl _⟩

theorem SubjectState.Next.erase : SubjectState.Next .erasurePending .erased := ⟨Nat.le_succ _, Nat.le_refl _⟩

/-- What a step makes of a subject: its owner stays, and its state goes on by one at most. -/
def Moves (world world' : World) : Prop :=
  ∀ subjectId subject, world.db.subjects subjectId = some subject → ∃ subject',
    world'.db.subjects subjectId = some subject' ∧ subject'.principalId = subject.principalId ∧
      subject.state.Next subject'.state

theorem Moves.same (hdb : world'.db.subjects = world.db.subjects) : Moves world world' :=
  fun _ subject hsubject => ⟨subject, by rw [hdb, hsubject], rfl, .refl _⟩

/-- A subject's row is written. -/
theorem Moves.write {written before : Subject}
    (hdb : db.subjects = update world.db.subjects key (some written))
    (hbefore : world.db.subjects key = some before)
    (howner : written.principalId = before.principalId) (hnext : before.state.Next written.state) : Moves world { world with db } := by
  intro subjectId subject hsubject
  show ∃ subject', db.subjects subjectId = some subject' ∧ _
  rw [hdb]
  by_cases hkey : subjectId = key
  · rw [hkey] at hsubject ⊢
    rw [← Option.some.inj (hbefore.symm.trans hsubject)]
    exact ⟨written, update_self _ _ _, howner, hnext⟩
  · exact ⟨subject, (update_of_ne hkey _ _).trans hsubject, rfl, .refl _⟩

theorem Subject.pend_next (subject : Subject) :
    subject.pend.principalId = subject.principalId ∧ subject.state.Next subject.pend.state := by
  obtain ⟨principalId, state⟩ := subject
  cases state
  · exact ⟨rfl, .pend⟩
  · exact ⟨rfl, .refl _⟩
  · exact ⟨rfl, .refl _⟩

theorem step_moves (hstep : Step fingerprint world world') : Moves world world' := by
  cases hstep with
  | @register id subjectId key principalId creates absent free =>
    intro other subject hsubject
    have hne : other ≠ subjectId := by
      rintro rfl
      exact nomatch absent.symm.trans hsubject
    exact ⟨subject, (update_of_ne hne _ _).trans hsubject, rfl, .refl _⟩
  | request work loaded fingerprinted owner owns bound free decided
  | recover work listed owner owns bound free =>
    exact .write rfl owner (Subject.pend_next _).1 (Subject.pend_next _).2
  | finalise finalises =>
    obtain ⟨completedAt, -, -, owner, -⟩ := finalises
    exact Moves.write rfl owner rfl .erase
  | _ => exact .same rfl

theorem Tables.complete_intend (h : Tables db) (subject : Subject) (status : MemberStatus)
    (hfree : db.Free work) {erasureId completedAt : Nat}
    (he : db.erasures erasureId = some (.complete completedAt)) :
    (db.intend work subject status).erasures erasureId = some (.complete completedAt) := by
  obtain ⟨other, hother, hid⟩ := h.asked erasureId _ he
  have hne : erasureId ≠ work.erasureId := hid ▸ (hfree other hother).1
  exact (update_of_ne hne _ _).trans he

theorem complete_update {erasures : Nat → Option Erasure} (written : Erasure)
    (hpending : erasures key = some (.pending held)) {erasureId completedAt : Nat}
    (he : erasures erasureId = some (.complete completedAt)) :
    update erasures key (some written) erasureId = some (.complete completedAt) := by
  have hne : erasureId ≠ key := by
    rintro rfl
    exact nomatch hpending.symm.trans he
  rw [update_of_ne hne, he]

theorem step_goes (h : Inv world) (hstep : Step fingerprint world world') : Goes world world' := by
  have hsubjects : ∀ subjectId subject, world.db.subjects subjectId = some subject → ∃ subject',
      world'.db.subjects subjectId = some subject' ∧ subject'.principalId = subject.principalId ∧
        subject.state.rank ≤ subject'.state.rank := by
    intro subjectId subject hsubject
    obtain ⟨subject', hsubject', howner, hnext⟩ := step_moves hstep subjectId subject hsubject
    exact ⟨subject', hsubject', howner, hnext.1⟩
  cases hstep with
  | register principalId creates absent free
  | deactivate principalId active
  | bindAuthority binding unbound empty => exact ⟨fun _ _ he => he, fun _ he => he, fun _ _ he => he, hsubjects⟩
  | request work loaded fingerprinted owner owns bound free decided
  | recover work listed owner owns bound free =>
    exact ⟨fun _ _ he => he, fun _ he => List.mem_append_left _ he,
      fun _ _ he => h.tables.complete_intend _ _ free he, hsubjects⟩
  | claim work token owner now authenticated idle queued pending expired listed =>
    exact ⟨fun _ _ he => he, fun _ he => he, fun _ _ he => complete_update _ pending he, hsubjects⟩
  | @recordNew id worker works stage unlisted absent =>
    refine ⟨fun subjectId record hrecord => ?_, fun _ he => he, fun _ _ he => he, hsubjects⟩
    have hne : subjectId ≠ worker.work.record.subjectId := by
      rintro rfl
      exact nomatch absent.symm.trans hrecord
    exact (update_of_ne hne _ _).trans hrecord
  | finalise finalises =>
    obtain ⟨completedAt, -, -, -, pending, -⟩ := finalises
    exact ⟨fun _ _ he => he, fun _ he => he, fun _ _ he => complete_update _ pending he, hsubjects⟩
  | _ => exact .same rfl rfl

/-! ## Runs -/

variable {fingerprint : Nat → String}

theorem run_inv (hrun : Run fingerprint world world') (h : Inv world) : Inv world' := by
  induction hrun with
  | refl => exact h
  | tail _ hstep ih => exact step_inv hstep ih

theorem run_goes (h : Inv world) (hrun : Run fingerprint world world') : Goes world world' := by
  induction hrun with
  | refl => exact .refl world
  | tail hrun' hstep ih => exact ih.trans (step_goes (run_inv hrun' h) hstep)

/-- A load of a revoked subject has not passed its first look at the journal. -/
def Refused (world : World) (subjectId id : Nat) : Prop :=
  world.journal subjectId ≠ none ∧ ∀ stage, world.loaders id = some ⟨subjectId, stage⟩ → stage = .begun

/-- A load that goes on does so for its subject. -/
theorem Refused.setLoader {id : Nat} (h : Refused world subjectId id) {subjectId' : Nat}
    {stage : LoaderStage} (hstage : other = id → subjectId' = subjectId → stage = .begun) :
    Refused (world.setLoader other ⟨subjectId', stage⟩) subjectId id := by
  refine ⟨h.1, fun found hfound => ?_⟩
  rcases update_inv hfound with ⟨hid, hsame⟩ | ⟨-, hold⟩
  · obtain ⟨hsubject, hstage'⟩ := Loader.mk.injEq .. ▸ hsame
    rw [hstage']
    exact hstage hid.symm hsubject.symm
  · exact h.2 found hold

theorem step_refused {id : Nat} (h : Refused world subjectId id) (hinv : Inv world)
    (hstep : Step fingerprint world world') : Refused world' subjectId id := by
  have hjournal : world'.journal subjectId ≠ none := by
    obtain ⟨record, hrecord⟩ := Option.ne_none_iff_exists'.mp h.1
    rw [(step_goes hinv hstep).journal subjectId record hrecord]
    exact Option.some_ne_none record
  cases hstep with
  | beginLoad subjectId' idle => exact h.setLoader fun _ _ => rfl
  | checkLoad loads unrevoked | recheckLoad loads unrevoked =>
    refine h.setLoader fun _ hsame => ?_
    rw [hsame] at unrevoked
    exact absurd unrevoked h.1
  | readKey loads present =>
    refine h.setLoader fun hid hsame => ?_
    rw [hid, hsame] at loads
    exact nomatch h.2 _ loads
  | finalise finalises =>
    obtain ⟨completedAt⟩ := finalises
    exact ⟨hjournal, h.2⟩
  | _ => exact ⟨hjournal, h.2⟩

theorem run_refused {id : Nat} (h : Refused world subjectId id) (hinv : Inv world)
    (hrun : Run fingerprint world world') : Refused world' subjectId id := by
  induction hrun with
  | refl => exact h
  | tail hrun' hstep ih => exact step_refused ih (run_inv hrun' hinv) hstep

/-! ## Where runs start -/

/-- A database as a backup has it, with the stores as they are, and nobody at work. -/
structure Start (world : World) : Prop extends Inv world where
  noCreators : ∀ id, world.creators id = none
  noLoaders : ∀ id, world.loaders id = none
  noWorkers : ∀ id, world.workers id = none

/-- Nothing was ever written. -/
theorem Start.empty : Start {} where
  tables := Tables.empty
  journaled :=
    { own := fun _ _ h => nomatch h
      queued := fun _ _ h => nomatch h
      recorded := fun _ _ h => nomatch h
      listed := fun _ _ _ h => nomatch h
      complete := fun _ h => nomatch h }
  keyed :=
    { drawn := fun _ h => nomatch h
      creators := fun _ _ h => nomatch h
      single := fun _ _ _ _ h => nomatch h
      stored := fun _ _ h => nomatch h
      loaded := fun _ _ _ h => h.elim (fun hread => nomatch hread) fun hreturned => nomatch hreturned
      rooted := fun _ _ h => nomatch h
      gone := fun _ h => by
        rcases h with ⟨_, _, hworks, -⟩ | ⟨_, hwork, -⟩
        · exact nomatch hworks
        · exact nomatch hwork }
  noCreators _ := rfl
  noLoaders _ := rfl
  noWorkers _ := rfl

/-! ## What every run keeps to -/

/-- A subject is erased as its work says: it is the only one, and its alias is the one that is shown. -/
def Db.Shows (db : Db) (work : ErasureWork) : Prop :=
  work ∈ db.outbox ∧ (∀ other ∈ db.outbox, other.record.subjectId = work.record.subjectId → other = work) ∧
    (db.members work.principalId).pseudonym = some work.record.replacementAlias ∧
    ∀ tombstone, db.tombstones work.record.subjectId = some tombstone →
      tombstone.replacementAlias = work.record.replacementAlias

/-- What holds in every world of a run, and from there on. -/
structure Lawful (fingerprint : Nat → String) (world : World) : Prop where
  /-- A load that starts once the record is in the journal does not return. -/
  unread : ∀ subjectId id world' key, world.journal subjectId ≠ none → world.loaders id = none →
    Run fingerprint world world' → world'.loaders id ≠ some ⟨subjectId, .returned key⟩
  /-- Of a complete erasure the evidence agrees, and the key is gone. -/
  complete : ∀ erasureId completedAt, world.db.erasures erasureId = some (.complete completedAt) →
    ∃ work ∈ world.db.outbox, work.erasureId = erasureId ∧
      world.journal work.record.subjectId = some work.record ∧ world.db.Evidence work ∧
      Gone world work.record.subjectId
  /-- No second finalisation of an erasure takes effect. -/
  once : ∀ id worker finalised later id' worker' finalised', Finalises world id worker finalised →
    Run fingerprint finalised later → Finalises later id' worker' finalised' →
    worker'.work.erasureId ≠ worker.work.erasureId
  /-- The states of a subject move on, one at a time. -/
  moves : (∀ world', Step fingerprint world world' → Moves world world') ∧
    ∀ world' subjectId subject, Run fingerprint world world' → world.db.subjects subjectId = some subject →
      ∃ subject', world'.db.subjects subjectId = some subject' ∧ subject'.principalId = subject.principalId ∧
        subject.state.rank ≤ subject'.state.rank
  /-- A subject that is not active has an alias, which stays. -/
  aliased : ∀ subjectId subject, world.db.subjects subjectId = some subject → subject.state ≠ .active →
    ∃ work, work.record.subjectId = subjectId ∧ ∀ world', Run fingerprint world world' → world'.db.Shows work

theorem Tables.shows (h : Tables db) (hwork : work ∈ db.outbox) : db.Shows work := by
  obtain ⟨erasure, -, hstands⟩ := h.stands work hwork
  refine ⟨hwork, fun other hother hsame => h.once other hother work hwork (.inr (.inl hsame)), hstands.member.1,
    fun tombstone htombstone => ?_⟩
  cases erasure with
  | pending claim => exact nomatch hstands.2.2.1.symm.trans htombstone
  | complete completedAt =>
    rw [← Option.some.inj (hstands.2.2.1.symm.trans htombstone)]

theorem Finalises.completed {id : Nat} {worker : Worker} (h : Finalises world id worker world') :
    ∃ completedAt, world'.db.erasures worker.work.erasureId = some (.complete completedAt) := by
  obtain ⟨completedAt⟩ := h
  exact ⟨completedAt, update_self _ _ _⟩

theorem Finalises.pending {id : Nat} {worker : Worker} (h : Finalises world id worker world') :
    ∃ claim, world.db.erasures worker.work.erasureId = some (.pending (some claim)) := by
  obtain ⟨-, -, -, -, hpending, -⟩ := h
  exact ⟨_, hpending⟩

theorem Inv.lawful (h : Inv world) : Lawful fingerprint world where
  unread subjectId id world' key hrevoked hidle hrun hreturned := by
    have hrefused : Refused world subjectId id := ⟨hrevoked, fun _ hloads => nomatch hidle.symm.trans hloads⟩
    exact nomatch (run_refused hrefused h hrun).2 _ hreturned
  complete erasureId completedAt he := by
    obtain ⟨work, hwork, rfl⟩ := h.tables.asked erasureId _ he
    obtain ⟨erasure, herasure, hstands⟩ := h.tables.stands work hwork
    obtain rfl := Option.some.inj (herasure.symm.trans he)
    exact ⟨work, hwork, rfl, h.journaled.complete work hwork completedAt he, hstands.2.2,
      h.keyed.gone _ (.inr ⟨work, hwork, rfl, completedAt, he⟩)⟩
  once id worker finalised later id' worker' finalised' hfirst hrun hsecond hsame := by
    obtain ⟨completedAt, hcompleted⟩ := hfirst.completed
    obtain ⟨claim, hpending⟩ := hsecond.pending
    have hlater := (run_goes (h.finalise hfirst) hrun).complete _ _ hcompleted
    rw [hsame] at hpending
    exact nomatch hpending.symm.trans hlater
  moves := ⟨fun _ hstep => step_moves hstep, fun _ subjectId subject hrun => (run_goes h hrun).subjects subjectId subject⟩
  aliased subjectId subject hsubject hstate := by
    have hasked : ∃ work ∈ world.db.outbox, work.record.subjectId = subjectId := by
      by_contra hnone
      exact hstate (h.tables.active subjectId subject hsubject fun work hwork hsame => hnone ⟨work, hwork, hsame⟩)
    obtain ⟨work, hwork, hsame⟩ := hasked
    refine ⟨work, hsame, fun world' hrun => ?_⟩
    exact (run_inv hrun h).tables.shows ((run_goes h hrun).outbox work hwork)

/-- In every run from a database as a backup has it, a revoked key is not loaded, an erasure is complete with its
evidence in agreement and its key gone, it is finalised once, and its subject moves on with one alias. -/
theorem erasures_lawful {world world' : World} (hstart : Start world) (hrun : Run fingerprint world world') :
    Lawful fingerprint world' :=
  (run_inv hrun hstart.toInv).lawful

/-! ## An erasure -/

/-- What the member 3, with the subject 5, asks for. -/
def asked : ErasureWork := ⟨1, 3, ⟨5, "former-member-0", 100, "00", 70⟩, none⟩

/-- A subject is registered and its erasure requested, worked off and finalised. -/
theorem asked_completed : ∃ world, Run (fun _ => "00") {} world ∧
    world.db.erasures 1 = some (.complete 160) ∧ world.db.subjects 5 = some ⟨3, .erased⟩ := by
  have h1 := ReflTransGen.single (@Step.beginCreate (fun _ => "00") {} 0 5 9 rfl (fun _ h => nomatch h))
  have h2 := h1.tail (@Step.checkCreate _ _ 0 5 9 rfl rfl)
  have h3 := h2.tail (@Step.putKey _ _ 0 5 9 rfl rfl)
  have h4 := h3.tail (@Step.created _ _ 0 5 9 rfl rfl)
  have h5 := h4.tail (@Step.register _ _ 0 5 9 3 rfl rfl (fun _ _ h => nomatch h))
  have h6 := h5.tail (@Step.beginLoad _ _ 0 5 rfl)
  have h7 := h6.tail (@Step.checkLoad _ _ 0 5 rfl rfl)
  have h8 := h7.tail (@Step.readKey _ _ 0 5 9 rfl rfl)
  have h9 := h8.tail (@Step.recheckLoad _ _ 0 5 9 rfl rfl)
  have h10 := h9.tail
    (@Step.request _ _ 0 9 ⟨3, .active⟩ .erasureInProgress asked rfl rfl rfl rfl rfl (fun _ h => nomatch h) rfl)
  have h11 := h10.tail
    (@Step.claim _ _ 0 none asked 7 "inline-0" 100 none rfl List.mem_cons_self rfl (fun _ h => nomatch h)
      (fun _ h => nomatch h))
  have h12 := h11.tail (@Step.recordNew _ _ 0 ⟨asked, 7, "inline-0", none, .claimed⟩ rfl rfl rfl rfl)
  have h13 := h12.tail (@Step.headKey _ _ 0 ⟨asked, 7, "inline-0", none, .recorded⟩ rfl rfl)
  have h14 := h13.tail (@Step.deleteKey _ _ 0 ⟨asked, 7, "inline-0", none, .found true⟩ true rfl rfl)
  have h15 := h14.tail (@Step.verifyDeleted _ _ 0 ⟨asked, 7, "inline-0", none, .deleted true⟩ true rfl rfl rfl)
  have h16 := h15.tail
    (@Step.refuseLoad _ _ 0 ⟨asked, 7, "inline-0", none, .absent true⟩ true rfl rfl (.inr rfl))
  have h17 := h16.tail (Step.finalise (@Finalises.mk _ 0 ⟨asked, 7, "inline-0", none, .unreadable true⟩ true
    ⟨7, "inline-0", 160⟩ 160 rfl rfl rfl rfl rfl rfl rfl List.mem_cons_self ⟨rfl, true, rfl⟩))
  exact ⟨_, h17, rfl, rfl⟩

theorem asked_lawful : ∃ world, Run (fun _ => "00") {} world ∧
    world.db.erasures 1 = some (.complete 160) ∧ Lawful (fun _ => "00") world := by
  obtain ⟨world, hrun, hcomplete, -⟩ := asked_completed
  exact ⟨world, hrun, hcomplete, erasures_lawful Start.empty hrun⟩

end Fmarch.Identity.SubjectErasure
