import Fmarch.Platform.Values
import Mathlib.Logic.Relation

/-!
# The lifecycle of runtime key-encryption keys (`eventstore`, runtime KEK registry)

A runtime KEK wraps the data keys of streams and, directly, the private envelopes of projections and
delivery intents. Its row in `event_direct_key_sentinel` is writable, then retiring, then retired. Any
number of processes, each with a keyring of its own, run the operations at once: each operation is a
transaction, or part of its caller's, and issues its statements one at a time, between which the others
go on; a statement that finds a row locked waits, and a transaction can fail wherever it stands.

What guards what:

* a write of an envelope (`event_stream_key_wrap_write_guard`, `event_direct_envelope_write_guard`)
  takes the shared lock of its KEK's row and needs the row writable;
* a change of a row takes its exclusive lock, and one of its lifecycle also the lifecycle lock;
* the retirement counts the references under the exclusive lock.

**`keks_retire_safely`**: at most one KEK is retiring, no committed envelope is wrapped by a retired
one, each commit moves a KEK at most one stage forward, and once a KEK is retired nothing is wrapped
by it again, committed or not. Sealing and authentication of the key material can only fail an
operation and are not modelled; nor are the locks of the envelopes' own rows, which only rule runs out.
-/

namespace Fmarch.Eventstore.Keks

open Function (update update_self update_of_ne forall_update_iff)

open Platform

/-! ## Tables -/

/-- `RuntimeKekLifecycle`. -/
inductive Lifecycle where
  | writable
  | retiring
  | retired
  deriving DecidableEq

/-- The place of a lifecycle in the order of the tombstone custody. -/
def Lifecycle.stage : Lifecycle → Nat
  | .writable => 0
  | .retiring => 1
  | .retired => 2

/-- A row of `event_direct_key_sentinel`, as `RuntimeKekStatus` reads it. -/
structure Kek where
  lifecycle : Lifecycle := .writable
  retirementTargetKid : Option String := none
  rehearsalToken : Option Uuid := none

/-- The columns of the view `event_direct_key_reference`. -/
inductive Surface where
  | investigationMemoryResult
  | playerInfoResult
  | playerInvestigationResult
  | privateChannelMember
  | slotState
  | threadViewBody
  | dayEventNarrativeTemplate
  | dayEventNarrativeRendered
  | authDeliveryCredential
  deriving DecidableEq

/-- What a KEK wraps: a data key of a stream, or the envelope of a row. -/
inductive Holder where
  | streamKey (streamId : Uuid) (keyEpoch : Int)
  | envelope (surface : Surface) (row : Nat)
  deriving DecidableEq

/-- `EventEncryptionKeyring`, by key ids. -/
structure Keyring where
  active : String
  byKid : List String

/-! ## Operations -/

/-- The statements of the operations, each with what the operation does with its result. -/
inductive Statement where
  /-- `lock_runtime_kek_lifecycle_in_tx`. -/
  | lockLifecycle
  /-- `reject_other_runtime_kek_retirement_in_tx`. -/
  | rejectOtherRetirement (requested : String)
  /-- `insert_runtime_kek_registry_row_if_missing_in_tx`. -/
  | insertIfMissing (kid : String)
  /-- `require_runtime_kek_writable_in_tx`. -/
  | requireWritable (kid : String)
  /-- `select_runtime_kek_for_share_in_tx`, then `require_unrehearsed_retiring_status`. -/
  | requireUnrehearsed (kid target : String)
  /-- `select_runtime_kek_for_update_in_tx`. -/
  | selectForUpdate (kid : String)
  /-- `select_runtime_kek_for_update_in_tx`, then `require_retiring_target` and, to finalize, the
  comparison of the tokens. -/
  | selectRetiring (kid target : String) (evidence : Option Uuid)
  /-- `require_zero_stream_references_in_tx`. -/
  | requireZeroStreamReferences (kid : String)
  /-- `require_zero_direct_references_in_tx`. -/
  | requireZeroDirectReferences (kid : String)
  /-- `authenticate_remaining_runtime_kek_coverage_in_tx`. -/
  | authenticateRemaining (ring : Keyring) (excluded : String)
  /-- The match on the lifecycle in `begin_runtime_kek_retirement`, with its `UPDATE`. -/
  | beginRetirement (kid target : String)
  /-- The match on the token in `rehearse_runtime_kek_retirement`, with its `UPDATE`. -/
  | recordRehearsal (kid target : String) (token : Uuid)
  /-- The `UPDATE` of `finalize_runtime_kek_retirement`. -/
  | retire (kid target : String) (token : Uuid)
  /-- `INSERT INTO event_stream_keys`. -/
  | insertStreamKey (streamId : Uuid) (keyEpoch : Int) (kid : String)
  /-- The `SELECT … FOR UPDATE` of `rewrap_stream_data_keys`, which found these epochs. -/
  | selectStreamKeys (streamId : Uuid) (epochs : List Int)
  /-- The `SELECT … FOR UPDATE SKIP LOCKED` of a batch, which found these rows. -/
  | selectBatch (kid : String) (batchSize : Nat) (rows : List (Uuid × Int))
  /-- The `UPDATE event_stream_keys` of a rewrap, of a row still wrapped by `source`, where given. -/
  | rewrap (streamId : Uuid) (keyEpoch : Int) (source : Option String) (kid : String)
  /-- A write of a row with an envelope, or of none, or the deletion of the row. -/
  | writeEnvelope (surface : Surface) (row : Nat) (kid : Option String)
  | commit

/-- The functions that begin and commit a transaction of their own. -/
inductive Operation where
  | attestActiveRuntimeKek
  | beginRuntimeKekRetirement (retiring target : String)
  | rewrapStreamDataKeysByKidBatch (retiring : String) (batchSize : Nat) (rows : List (Uuid × Int))
  | rehearseRuntimeKekRetirement (retiring target : String) (token : Uuid)
  | finalizeRuntimeKekRetirement (retiring target : String) (token : Uuid)
  | rotateStreamDataKey (streamId : Uuid) (nextEpoch : Int)
  | rewrapStreamDataKeys (streamId : Uuid) (epochs : List Int)

/-- The functions that run in their caller's transaction. -/
inductive Call where
  /-- `insert_stream_data_key_envelope_in_tx`, of an append's first key or of an import's keys. -/
  | insertStreamDataKeyEnvelope (streamId : Uuid) (keyEpoch : Int)
  /-- `encrypt_json_in_tx`. -/
  | encryptJson
  /-- `DirectEnvelopeResealContext::begin`. -/
  | beginReseal (retiring : String)
  /-- A statement of the caller that writes a row with an envelope. -/
  | writeEnvelope (surface : Surface) (row : Nat) (kid : Option String)

/-- `u8::is_ascii_alphanumeric`. -/
def isAsciiAlphanumeric (c : Char) : Bool := c.isAlphanum

def validateKeyId (kid : String) : Bool :=
  match kid.toList with
  | [] => false
  | first :: rest =>
    kid.utf8ByteSize ≤ 128 && isAsciiAlphanumeric first &&
      rest.all fun c => isAsciiAlphanumeric c || c ∈ ['.', '_', ':', '-']

def validateRetirementPair (retiring target : String) : Bool :=
  validateKeyId retiring && validateKeyId target && retiring != target

def requireRetirementKeyringShape (ring : Keyring) (retiring target : String) : Bool :=
  ring.active == target && !ring.byKid.contains retiring

/-- `ensure_runtime_kek_writable_in_tx`. -/
def ensureRuntimeKekWritable (kid : String) : List Statement :=
  [.insertIfMissing kid, .requireWritable kid]

/-- The opening of a rehearsal and of a finalization, up to the last check. -/
def requireRetirable (ring : Keyring) (retiring target : String) (evidence : Option Uuid) : List Statement :=
  [.lockLifecycle, .rejectOtherRetirement retiring, .selectRetiring retiring target evidence,
    .requireWritable ring.active, .requireZeroStreamReferences retiring,
    .requireZeroDirectReferences retiring, .authenticateRemaining ring retiring]

/-- The statements of an operation on a process's keyring; `none` where it fails before the first. -/
def Operation.script (ring : Keyring) : Operation → Option (List Statement)
  | .attestActiveRuntimeKek => some (ensureRuntimeKekWritable ring.active ++ [.commit])
  | .beginRuntimeKekRetirement retiring target =>
    if validateRetirementPair retiring target && ring.active == target && ring.byKid.contains retiring then
      some [.lockLifecycle, .rejectOtherRetirement retiring, .requireWritable ring.active,
        .insertIfMissing retiring, .selectForUpdate retiring, .beginRetirement retiring target,
        .commit]
    else none
  | .rewrapStreamDataKeysByKidBatch retiring batchSize rows =>
    if validateKeyId retiring && 1 ≤ batchSize && batchSize ≤ 10000 && ring.active != retiring &&
        ring.byKid.contains retiring then
      some ([.requireUnrehearsed retiring ring.active, .requireWritable ring.active,
        .selectBatch retiring batchSize rows] ++
          rows.map (fun row => .rewrap row.1 row.2 (some retiring) ring.active) ++ [.commit])
    else none
  | .rehearseRuntimeKekRetirement retiring target token =>
    if validateRetirementPair retiring target && requireRetirementKeyringShape ring retiring target then
      some (requireRetirable ring retiring target none ++ [.recordRehearsal retiring target token, .commit])
    else none
  | .finalizeRuntimeKekRetirement retiring target token =>
    if validateRetirementPair retiring target && requireRetirementKeyringShape ring retiring target then
      some (requireRetirable ring retiring target (some token) ++ [.retire retiring target token, .commit])
    else none
  | .rotateStreamDataKey streamId nextEpoch =>
    some (ensureRuntimeKekWritable ring.active ++ [.insertStreamKey streamId nextEpoch ring.active, .commit])
  | .rewrapStreamDataKeys streamId epochs =>
    some ([.selectStreamKeys streamId epochs, .requireWritable ring.active] ++
      epochs.map (fun epoch => .rewrap streamId epoch none ring.active) ++ [.commit])

/-- The statements of a call on a process's keyring. -/
def Call.script (ring : Keyring) : Call → Option (List Statement)
  | .insertStreamDataKeyEnvelope streamId keyEpoch =>
    some (ensureRuntimeKekWritable ring.active ++ [.insertStreamKey streamId keyEpoch ring.active])
  | .encryptJson => some (ensureRuntimeKekWritable ring.active)
  | .beginReseal retiring =>
    if validateKeyId retiring && ring.active != retiring && ring.byKid.contains retiring then
      some [.requireUnrehearsed retiring ring.active, .requireWritable ring.active]
    else none
  | .writeEnvelope surface row kid => some [.writeEnvelope surface row kid]

/-! ## Transactions -/

/-- The committed rows: the registry, and the KEK of each envelope. -/
structure Tables where
  registry : String → Option Kek := fun _ => none
  wraps : Holder → Option String := fun _ => none

/-- What an open transaction wrote, what it holds locked, and the statements it has left. -/
structure Transaction where
  registry : String → Option Kek := fun _ => none
  wraps : Holder → Option (Option String) := fun _ => none
  shared : String → Bool := fun _ => false
  exclusive : String → Bool := fun _ => false
  lifecycle : Bool := false
  todo : List Statement := []

namespace Transaction

/-- Rows locked `FOR SHARE`. -/
def share (tx : Transaction) (kids : String → Bool) : Transaction :=
  { tx with shared := fun kid => tx.shared kid || kids kid }

/-- The row of one KEK locked `FOR SHARE`, where there is one. -/
def shareKid (tx : Transaction) (kid : Option String) : Transaction :=
  tx.share fun other => kid == some other

/-- A row locked `FOR UPDATE`, or by its insertion. -/
def lock (tx : Transaction) (kid : String) : Transaction :=
  { tx with exclusive := update tx.exclusive kid true }

/-- A row of the registry written. -/
def put (tx : Transaction) (kid : String) (kek : Kek) : Transaction :=
  { tx with registry := update tx.registry kid (some kek) }

/-- An envelope written, or removed. -/
def wrap (tx : Transaction) (holder : Holder) (kid : Option String) : Transaction :=
  { tx with wraps := update tx.wraps holder (some kid) }

/-- The registry as the transaction sees it: what is committed, under its own writes. -/
def kek (tx : Transaction) (tables : Tables) (kid : String) : Option Kek :=
  (tx.registry kid).or (tables.registry kid)

/-- The KEK of an envelope, as the transaction sees it. -/
def wrapKid (tx : Transaction) (tables : Tables) (holder : Holder) : Option String :=
  (tx.wraps holder).getD (tables.wraps holder)

/-- The transaction sees the row with this lifecycle. -/
def Sees (tx : Transaction) (tables : Tables) (kid : String) (lifecycle : Lifecycle) : Prop :=
  ∃ kek, tx.kek tables kid = some kek ∧ kek.lifecycle = lifecycle

end Transaction

/-- The committed rows and the open transactions. -/
structure Database where
  tables : Tables := {}
  txs : Nat → Transaction := fun _ => {}

namespace Database

/-- A row of the registry as a transaction sees it. -/
def kek (db : Database) (t : Nat) (kid : String) : Option Kek := (db.txs t).kek db.tables kid

/-- The KEK of an envelope, as a transaction sees it. -/
def wrapKid (db : Database) (t : Nat) (holder : Holder) : Option String :=
  (db.txs t).wrapKid db.tables holder

/-- A transaction sees the row with this lifecycle. -/
def Sees (db : Database) (t : Nat) (kid : String) (lifecycle : Lifecycle) : Prop :=
  (db.txs t).Sees db.tables kid lifecycle

/-- The transaction goes on as `tx`. -/
def set (db : Database) (t : Nat) (tx : Transaction) : Database :=
  { db with txs := update db.txs t tx }

def commit (db : Database) (t : Nat) : Database where
  tables := { registry := db.kek t, wraps := db.wrapKid t }
  txs := update db.txs t {}

/-- No other transaction holds the row's exclusive lock. -/
def Shareable (db : Database) (t : Nat) (kid : String) : Prop :=
  ∀ other, other ≠ t → (db.txs other).exclusive kid = false

/-- No other transaction holds a lock of the row. -/
def Lockable (db : Database) (t : Nat) (kid : String) : Prop :=
  ∀ other, other ≠ t → (db.txs other).exclusive kid = false ∧ (db.txs other).shared kid = false

/-- No other transaction holds the lifecycle lock. -/
def LifecycleFree (db : Database) (t : Nat) : Prop :=
  ∀ other, other ≠ t → (db.txs other).lifecycle = false

end Database

/-- The trigger on a write of an envelope: it passes an envelope that is removed, and locks the row of
another one's KEK, which must be writable. -/
def Writes (db : Database) (t : Nat) (kid : Option String) : Prop :=
  ∀ k, kid = some k → db.Shareable t k ∧ db.Sees t k .writable

/-- `require_retiring_target`, and the comparison of the tokens where there is evidence. -/
def RetiringTo (kek : Kek) (target : String) (evidence : Option Uuid) : Prop :=
  kek.lifecycle = .retiring ∧ kek.retirementTargetKid = some target ∧
    ∀ token, evidence = some token → kek.rehearsalToken = some token

/-- A statement that ends well leaves its transaction so. -/
inductive Runs (db : Database) (t : Nat) : Statement → Transaction → Prop where
  | lockLifecycle (free : db.LifecycleFree t) :
      Runs db t .lockLifecycle { db.txs t with lifecycle := true }
  | rejectOtherRetirement {kid : String} (alone : ∀ other ≠ kid, ¬ db.Sees t other .retiring) :
      Runs db t (.rejectOtherRetirement kid) (db.txs t)
  | present {kid : String} {kek : Kek} (row : db.kek t kid = some kek) :
      Runs db t (.insertIfMissing kid) (db.txs t)
  | insert {kid : String} (missing : db.kek t kid = none) (free : db.Lockable t kid) :
      Runs db t (.insertIfMissing kid) (((db.txs t).lock kid).put kid {})
  | requireWritable {kid : String} (free : db.Shareable t kid) (writable : db.Sees t kid .writable) :
      Runs db t (.requireWritable kid) ((db.txs t).shareKid (some kid))
  | requireUnrehearsed {kid target : String} {kek : Kek} (free : db.Shareable t kid)
      (row : db.kek t kid = some kek) (retiring : RetiringTo kek target none)
      (unrehearsed : kek.rehearsalToken = none) :
      Runs db t (.requireUnrehearsed kid target) ((db.txs t).shareKid (some kid))
  | selectForUpdate {kid : String} {kek : Kek} (free : db.Lockable t kid)
      (row : db.kek t kid = some kek) :
      Runs db t (.selectForUpdate kid) ((db.txs t).lock kid)
  | selectRetiring {kid target : String} {evidence : Option Uuid} {kek : Kek}
      (free : db.Lockable t kid) (row : db.kek t kid = some kek)
      (retiring : RetiringTo kek target evidence) :
      Runs db t (.selectRetiring kid target evidence) ((db.txs t).lock kid)
  | requireZeroStreamReferences {kid : String}
      (zero : ∀ streamId keyEpoch, db.wrapKid t (.streamKey streamId keyEpoch) ≠ some kid) :
      Runs db t (.requireZeroStreamReferences kid) (db.txs t)
  | requireZeroDirectReferences {kid : String}
      (zero : ∀ surface row, db.wrapKid t (.envelope surface row) ≠ some kid) :
      Runs db t (.requireZeroDirectReferences kid) (db.txs t)
  | authenticateRemaining {ring : Keyring} {excluded : String} {remaining : String → Bool}
      (rows : ∀ kid, remaining kid = true ↔
        kid ≠ excluded ∧ (db.Sees t kid .writable ∨ db.Sees t kid .retiring))
      (free : ∀ kid, remaining kid = true → db.Shareable t kid ∧ kid ∈ ring.byKid)
      (covered : ∀ streamId keyEpoch kid, db.wrapKid t (.streamKey streamId keyEpoch) = some kid →
        kid ≠ excluded ∧ kid ∈ ring.byKid) :
      Runs db t (.authenticateRemaining ring excluded) ((db.txs t).share remaining)
  | beginRetirement {kid target : String} {kek : Kek} (row : db.kek t kid = some kek)
      (writable : kek.lifecycle = .writable) :
      Runs db t (.beginRetirement kid target) ((db.txs t).put kid
        { kek with lifecycle := .retiring, retirementTargetKid := some target })
  | begun {kid target : String} {kek : Kek} (row : db.kek t kid = some kek)
      (retiring : RetiringTo kek target none) :
      Runs db t (.beginRetirement kid target) (db.txs t)
  | recordRehearsal {kid target : String} {token : Uuid} {kek : Kek} (row : db.kek t kid = some kek)
      (unrehearsed : kek.rehearsalToken = none) (retiring : RetiringTo kek target none) :
      Runs db t (.recordRehearsal kid target token) ((db.txs t).put kid
        { kek with rehearsalToken := some token })
  | rehearsed {kid target : String} {token held : Uuid} {kek : Kek} (row : db.kek t kid = some kek)
      (recorded : kek.rehearsalToken = some held) :
      Runs db t (.recordRehearsal kid target token) (db.txs t)
  | retire {kid target : String} {token : Uuid} {kek : Kek} (row : db.kek t kid = some kek)
      (retiring : RetiringTo kek target (some token)) :
      Runs db t (.retire kid target token) ((db.txs t).put kid { kek with lifecycle := .retired })
  | insertStreamKey {streamId : Uuid} {keyEpoch : Int} {kid : String}
      (missing : db.wrapKid t (.streamKey streamId keyEpoch) = none) (writes : Writes db t (some kid)) :
      Runs db t (.insertStreamKey streamId keyEpoch kid)
        (((db.txs t).shareKid (some kid)).wrap (.streamKey streamId keyEpoch) (some kid))
  | selectStreamKeys {streamId : Uuid} {epochs : List Int}
      (rows : ∀ epoch, epoch ∈ epochs ↔ db.wrapKid t (.streamKey streamId epoch) ≠ none) :
      Runs db t (.selectStreamKeys streamId epochs) (db.txs t)
  | selectBatch {kid : String} {batchSize : Nat} {rows : List (Uuid × Int)}
      (bounded : rows.length ≤ batchSize)
      (wrapped : ∀ row ∈ rows, db.wrapKid t (.streamKey row.1 row.2) = some kid) :
      Runs db t (.selectBatch kid batchSize rows) (db.txs t)
  | rewrap {streamId : Uuid} {keyEpoch : Int} {source : Option String} {kid held : String}
      (row : db.wrapKid t (.streamKey streamId keyEpoch) = some held)
      (same : ∀ k, source = some k → held = k) (writes : Writes db t (some kid)) :
      Runs db t (.rewrap streamId keyEpoch source kid)
        (((db.txs t).shareKid (some kid)).wrap (.streamKey streamId keyEpoch) (some kid))
  /-- No row to update: it is gone from under the source. -/
  | rewrapNothing {streamId : Uuid} {keyEpoch : Int} {source : Option String} {kid : String}
      (none : ∀ held, db.wrapKid t (.streamKey streamId keyEpoch) = some held →
        ∃ k, source = some k ∧ held ≠ k) :
      Runs db t (.rewrap streamId keyEpoch source kid) (db.txs t)
  | writeEnvelope {surface : Surface} {row : Nat} {kid : Option String} (writes : Writes db t kid) :
      Runs db t (.writeEnvelope surface row kid)
        (((db.txs t).shareKid kid).wrap (.envelope surface row) kid)

/-- One step of one transaction. -/
inductive Step (db : Database) (t : Nat) : Database → Prop where
  /-- A function with a transaction of its own begins it, on its process's keyring. -/
  | begin {ring : Keyring} {operation : Operation} {script : List Statement} (fresh : db.txs t = {})
      (accepted : operation.script ring = some script) : Step db t (db.set t { todo := script })
  /-- A transaction that has nothing left to do calls a function. -/
  | call {ring : Keyring} {call : Call} {script : List Statement} (idle : (db.txs t).todo = [])
      (accepted : call.script ring = some script) :
      Step db t (db.set t { db.txs t with todo := script })
  | run {statement : Statement} {rest : List Statement} {tx : Transaction}
      (next : (db.txs t).todo = statement :: rest) (runs : Runs db t statement tx) :
      Step db t (db.set t { tx with todo := rest })
  | commit (next : (db.txs t).todo = [] ∨ (db.txs t).todo = [.commit]) : Step db t (db.commit t)
  /-- The transaction fails, or is cancelled, at any point. -/
  | rollback : Step db t (db.set t {})

/-- The states a run goes through after another. -/
def Later : Database → Database → Prop :=
  Relation.ReflTransGen fun db next => ∃ t, Step db t next

/-- The states of a registry that starts empty. -/
def Reachable (db : Database) : Prop := Later {} db

/-! ## What a script establishes -/

/-- Something a transaction has established, which no other one can take back. -/
inductive Fact where
  /-- It has written nothing but new rows of the registry. -/
  | clean
  | lifecycle
  /-- No other KEK is retiring, nor will be. -/
  | alone (kid : String)
  | locked (kid : String)
  | retiring (kid : String)
  | noStreamKey (kid : String)
  | noEnvelope (kid : String)

/-- What a fact says of the rows and of the transaction. -/
def Fact.Holds (tables : Tables) (tx : Transaction) : Fact → Prop
  | .clean => (∀ holder, tx.wraps holder = none) ∧
      ∀ kid kek, tx.registry kid = some kek → kek.lifecycle = .writable ∧ tables.registry kid = none
  | .lifecycle => tx.lifecycle = true
  | .alone kid => tx.lifecycle = true ∧ ∀ other ≠ kid, ¬ tx.Sees tables other .retiring
  | .locked kid => tx.exclusive kid = true
  | .retiring kid => tx.exclusive kid = true ∧ tx.Sees tables kid .retiring
  | .noStreamKey kid => tx.exclusive kid = true ∧
      ∀ streamId keyEpoch, tx.wrapKid tables (.streamKey streamId keyEpoch) ≠ some kid
  | .noEnvelope kid => tx.exclusive kid = true ∧
      ∀ surface row, tx.wrapKid tables (.envelope surface row) ≠ some kid

/-- What a statement relies on. -/
def Statement.needs : Statement → List Fact
  | .rejectOtherRetirement _ => [.lifecycle]
  | .requireZeroStreamReferences kid | .requireZeroDirectReferences kid => [.locked kid]
  | .beginRetirement kid _ => [.clean, .alone kid, .locked kid]
  | .recordRehearsal kid _ _ => [.clean, .alone kid, .retiring kid]
  | .retire kid _ _ => [.clean, .alone kid, .retiring kid, .noStreamKey kid, .noEnvelope kid]
  | _ => []

/-- What a statement that ends well has shown. -/
def Statement.learns : Statement → List Fact
  | .lockLifecycle => [.lifecycle]
  | .rejectOtherRetirement kid => [.alone kid]
  | .selectForUpdate kid => [.locked kid]
  | .selectRetiring kid _ _ => [.locked kid, .retiring kid]
  | .requireZeroStreamReferences kid => [.noStreamKey kid]
  | .requireZeroDirectReferences kid => [.noEnvelope kid]
  | _ => []

/-- The statement changes what the transaction has established. -/
def Statement.writes : Statement → Bool
  | .beginRetirement .. | .recordRehearsal .. | .retire .. | .insertStreamKey .. | .rewrap ..
  | .writeEnvelope .. => true
  | _ => false

/-- Each statement of the script finds established what it relies on. -/
def Certified : List Fact → List Statement → Prop
  | _, [] => True
  | known, statement :: rest =>
    (∀ fact ∈ statement.needs, fact ∈ known) ∧
      Certified (statement.learns ++ if statement.writes then [] else known) rest

variable {script : List Statement} {db later : Database} {kid : String}

theorem certified_of_needs_nil (h : ∀ s ∈ script, s.needs = []) (known : List Fact) : Certified known script := by
  induction script generalizing known with
  | nil => trivial
  | cons statement rest ih =>
    refine ⟨fun fact hfact => ?_, ih (fun s hs => h s (List.mem_cons_of_mem _ hs)) _⟩
    rw [h statement List.mem_cons_self] at hfact
    exact absurd hfact List.not_mem_nil

/-- The operations check before they write: each script is certified for a new transaction. -/
theorem Operation.certified {ring : Keyring} {operation : Operation}
    (h : operation.script ring = some script) : Certified [.clean] script := by
  cases operation with
  | attestActiveRuntimeKek | rotateStreamDataKey streamId nextEpoch =>
    obtain rfl := Option.some.inj h
    exact certified_of_needs_nil (by simp [ensureRuntimeKekWritable, Statement.needs]) _
  | beginRuntimeKekRetirement retiring target =>
    obtain ⟨-, ⟨⟩⟩ := Option.ite_none_right_eq_some.1 h
    simp [Certified, Statement.needs, Statement.learns, Statement.writes]
  | rewrapStreamDataKeysByKidBatch retiring batchSize rows =>
    obtain ⟨-, ⟨⟩⟩ := Option.ite_none_right_eq_some.1 h
    refine certified_of_needs_nil (List.forall_mem_append.2 ⟨List.forall_mem_append.2 ⟨?_, ?_⟩, ?_⟩) _
    · simp [Statement.needs]
    · exact List.forall_mem_map.2 fun row _ => rfl
    · simp [Statement.needs]
  | rehearseRuntimeKekRetirement retiring target token | finalizeRuntimeKekRetirement retiring target token =>
    obtain ⟨-, ⟨⟩⟩ := Option.ite_none_right_eq_some.1 h
    simp [requireRetirable, Certified, Statement.needs, Statement.learns, Statement.writes]
  | rewrapStreamDataKeys streamId epochs =>
    obtain rfl := Option.some.inj h
    refine certified_of_needs_nil (List.forall_mem_append.2 ⟨List.forall_mem_append.2 ⟨?_, ?_⟩, ?_⟩) _
    · simp [Statement.needs]
    · exact List.forall_mem_map.2 fun epoch _ => rfl
    · simp [Statement.needs]

/-- A call relies on nothing its caller has established. -/
theorem Call.certified {ring : Keyring} {call : Call} (h : call.script ring = some script) : Certified [] script := by
  refine certified_of_needs_nil ?_ _
  cases call with
  | insertStreamDataKeyEnvelope | encryptJson =>
    obtain rfl := Option.some.inj h
    simp [ensureRuntimeKekWritable, Statement.needs]
  | beginReseal =>
    obtain ⟨-, ⟨⟩⟩ := Option.ite_none_right_eq_some.1 h
    simp [Statement.needs]
  | writeEnvelope =>
    obtain rfl := Option.some.inj h
    simp [Statement.needs]

/-! ## What a transaction keeps -/

/-- The row moves at most one stage forward, and a new row is not retired. -/
def Advances : Option Kek → Kek → Prop
  | none, kek => kek.lifecycle ≠ .retired
  | some old, kek =>
    old.lifecycle.stage ≤ kek.lifecycle.stage ∧ kek.lifecycle.stage ≤ old.lifecycle.stage + 1

/-- A transaction has written only rows of KEKs it has locked, one stage on at most; one whose
lifecycle it changes is the only one not to stay as it is, and one it retires wraps nothing; and its
envelopes are wrapped by KEKs it has locked and sees writable. -/
structure TxSound (tables : Tables) (tx : Transaction) : Prop where
  rows : ∀ {kid kek}, tx.registry kid = some kek →
    tx.exclusive kid = true ∧ Advances (tables.registry kid) kek
  turning : ∀ {kid kek}, tx.registry kid = some kek → kek.lifecycle ≠ .writable →
    tx.lifecycle = true ∧ ∀ other ≠ kid, ¬ tx.Sees tables other .retiring
  retired : ∀ {kid kek}, tx.registry kid = some kek → kek.lifecycle = .retired →
    ∀ holder, tx.wrapKid tables holder ≠ some kid
  wraps : ∀ {holder kid}, tx.wraps holder = some (some kid) →
    tx.shared kid = true ∧ tx.Sees tables kid .writable

/-- At most one KEK is retiring, and those that wrap something are not retired. -/
structure TablesSound (tables : Tables) : Prop where
  single : ∀ {kid other k o}, tables.registry kid = some k → k.lifecycle = .retiring →
    tables.registry other = some o → o.lifecycle = .retiring → kid = other
  kept : ∀ {holder kid}, tables.wraps holder = some kid →
    ∃ kek, tables.registry kid = some kek ∧ kek.lifecycle ≠ .retired

/-- The locks of a transaction shut the others out. -/
structure Allowed (db : Database) (t : Nat) (tx : Transaction) : Prop where
  exclusive : ∀ {kid}, tx.exclusive kid = true → db.Lockable t kid
  shared : ∀ {kid}, tx.shared kid = true → db.Shareable t kid
  lifecycle : tx.lifecycle = true → db.LifecycleFree t

/-- The invariant of the registry. -/
structure Sound (db : Database) : Prop where
  tables : TablesSound db.tables
  tx : ∀ t, TxSound db.tables (db.txs t)
  allowed : ∀ t, Allowed db t (db.txs t)
  certified : ∀ t, ∃ known : List Fact, (∀ fact ∈ known, fact.Holds db.tables (db.txs t)) ∧
    Certified known (db.txs t).todo

section Views

variable {tables : Tables} {tx : Transaction} {kid other : String}

variable {kek : Kek}

theorem kek_of_row (h : tx.registry kid = some kek) : tx.kek tables kid = some kek := by
  unfold Transaction.kek
  rw [h, Option.some_or]

theorem kek_of_unwritten (h : tx.registry kid = none) : tx.kek tables kid = tables.registry kid := by
  unfold Transaction.kek
  rw [h, Option.none_or]

theorem kek_put_self (kek : Kek) : (tx.put kid kek).kek tables kid = some kek :=
  kek_of_row (update_self ..)

theorem kek_put_of_ne (kek : Kek) (h : other ≠ kid) :
    (tx.put kid kek).kek tables other = tx.kek tables other := by
  unfold Transaction.kek Transaction.put
  dsimp only
  rw [update_of_ne h]

theorem sees_put_of_ne {lifecycle : Lifecycle} (h : other ≠ kid) :
    (tx.put kid kek).Sees tables other lifecycle ↔ tx.Sees tables other lifecycle := by
  unfold Transaction.Sees
  rw [kek_put_of_ne kek h]

theorem sees_put_self {lifecycle : Lifecycle} :
    (tx.put kid kek).Sees tables kid lifecycle ↔ kek.lifecycle = lifecycle := by
  unfold Transaction.Sees
  rw [kek_put_self]
  simp

/-- A row the transaction has written is the one just put, or an earlier one. -/
theorem put_registry {row : Kek} (h : (tx.put kid kek).registry other = some row) :
    (other = kid ∧ row = kek) ∨ (other ≠ kid ∧ tx.registry other = some row) := by
  unfold Transaction.put at h
  dsimp only at h
  by_cases hother : other = kid
  · subst hother
    rw [update_self] at h
    exact .inl ⟨rfl, (Option.some.inj h).symm⟩
  · rw [update_of_ne hother] at h
    exact .inr ⟨hother, h⟩

/-- An envelope the transaction has written is the one just wrapped, or an earlier one. -/
theorem wrap_wraps {holder written : Holder} {wrapped : Option String} {row : Option String}
    (h : (tx.wrap holder wrapped).wraps written = some row) :
    (written = holder ∧ row = wrapped) ∨ (written ≠ holder ∧ tx.wraps written = some row) := by
  unfold Transaction.wrap at h
  dsimp only at h
  by_cases hwritten : written = holder
  · subst hwritten
    rw [update_self] at h
    exact .inl ⟨rfl, (Option.some.inj h).symm⟩
  · rw [update_of_ne hwritten] at h
    exact .inr ⟨hwritten, h⟩

theorem wrapKid_wrap_self (holder : Holder) (wrapped : Option String) :
    (tx.wrap holder wrapped).wrapKid tables holder = wrapped := by
  unfold Transaction.wrapKid Transaction.wrap
  dsimp only
  rw [update_self, Option.getD_some]

theorem wrapKid_wrap_of_ne {holder written : Holder} (wrapped : Option String) (h : holder ≠ written) :
    (tx.wrap written wrapped).wrapKid tables holder = tx.wrapKid tables holder := by
  unfold Transaction.wrapKid Transaction.wrap
  dsimp only
  rw [update_of_ne h]

theorem Transaction.Sees.unique {a b : Lifecycle} (ha : tx.Sees tables kid a)
    (hb : tx.Sees tables kid b) : a = b := by
  obtain ⟨kek, hkek, rfl⟩ := ha
  obtain ⟨kek', hkek', rfl⟩ := hb
  rw [Option.some.inj (hkek.symm.trans hkek')]

end Views

/-! ## What a statement does -/

/-- The transaction has written nothing, and has let go of no lock. -/
structure Grows (tx next : Transaction) : Prop where
  registry : next.registry = tx.registry
  wraps : next.wraps = tx.wraps
  shared : ∀ {kid}, tx.shared kid = true → next.shared kid = true
  exclusive : ∀ {kid}, tx.exclusive kid = true → next.exclusive kid = true
  lifecycle : tx.lifecycle = true → next.lifecycle = true

section Growth

variable {tables : Tables} {tx next : Transaction}

theorem grows_share (kids : String → Bool) : Grows tx (tx.share kids) :=
  ⟨rfl, rfl, fun h => by simp [Transaction.share, h], id, id⟩

theorem grows_lock (kid : String) : Grows tx (tx.lock kid) := by
  refine ⟨rfl, rfl, id, fun {other} h => ?_, id⟩
  by_cases hother : other = kid
  · subst hother
    exact update_self ..
  · exact (update_of_ne hother _ _).trans h

theorem Grows.kek (h : Grows tx next) : next.kek tables = tx.kek tables := by
  funext kid
  unfold Transaction.kek
  rw [h.registry]

theorem Grows.wrapKid (h : Grows tx next) : next.wrapKid tables = tx.wrapKid tables := by
  funext holder
  unfold Transaction.wrapKid
  rw [h.wraps]

variable {kid : String}

theorem Grows.sees (h : Grows tx next) {lifecycle : Lifecycle} :
    next.Sees tables kid lifecycle ↔ tx.Sees tables kid lifecycle := by
  unfold Transaction.Sees
  rw [h.kek]

theorem Grows.txSound (h : Grows tx next) (hsound : TxSound tables tx) : TxSound tables next where
  rows hrow := by
    rw [h.registry] at hrow
    exact (hsound.rows hrow).imp_left h.exclusive
  turning hrow hkek := by
    rw [h.registry] at hrow
    obtain ⟨hlifecycle, hothers⟩ := hsound.turning hrow hkek
    exact ⟨h.lifecycle hlifecycle, fun other hother hsees => hothers other hother (h.sees.1 hsees)⟩
  retired hrow hkek holder := by
    rw [h.registry] at hrow
    rw [h.wrapKid]
    exact hsound.retired hrow hkek holder
  wraps hwrap := by
    rw [h.wraps] at hwrap
    exact (hsound.wraps hwrap).imp h.shared h.sees.2

theorem Grows.holds (h : Grows tx next) {fact : Fact} (hfact : fact.Holds tables tx) :
    fact.Holds tables next := by
  cases fact with
  | clean =>
    unfold Fact.Holds
    rw [h.wraps, h.registry]
    exact hfact
  | lifecycle => exact h.lifecycle hfact
  | alone kid =>
    exact ⟨h.lifecycle hfact.1, fun other hother hsees => hfact.2 other hother (h.sees.1 hsees)⟩
  | locked kid => exact h.exclusive hfact
  | retiring kid => exact ⟨h.exclusive hfact.1, h.sees.2 hfact.2⟩
  | noStreamKey kid | noEnvelope kid =>
    unfold Fact.Holds
    rw [h.wrapKid]
    exact ⟨h.exclusive hfact.1, hfact.2⟩

/-- A row inserted where there was none. -/
theorem TxSound.insert (h : TxSound tables tx) (hmissing : tx.kek tables kid = none) :
    TxSound tables ((tx.lock kid).put kid {}) := by
  have hlocked := (grows_lock kid).txSound h
  have hcommitted : tables.registry kid = none := (Option.or_eq_none_iff.1 hmissing).2
  refine ⟨fun hrow => ?_, fun hrow hkek => ?_, fun hrow hkek => ?_, fun {_ wrapped} hwrap => ?_⟩
  · rcases put_registry hrow with ⟨rfl, rfl⟩ | ⟨-, hold⟩
    · refine ⟨update_self .., ?_⟩
      rw [hcommitted]
      exact fun hretired => absurd hretired (by decide)
    · exact hlocked.rows hold
  · rcases put_registry hrow with ⟨rfl, rfl⟩ | ⟨-, hold⟩
    · exact absurd rfl hkek
    · obtain ⟨hlifecycle, hothers⟩ := hlocked.turning hold hkek
      refine ⟨hlifecycle, fun other hother hsees => ?_⟩
      by_cases hnew : other = kid
      · subst hnew
        exact absurd (sees_put_self.1 hsees) (by decide)
      · exact hothers other hother ((sees_put_of_ne hnew).1 hsees)
  · rcases put_registry hrow with ⟨rfl, rfl⟩ | ⟨-, hold⟩
    · cases hkek
    · exact hlocked.retired hold hkek
  · obtain ⟨hshared, hsees⟩ := hlocked.wraps hwrap
    refine ⟨hshared, ?_⟩
    by_cases hwrapped : wrapped = kid
    · subst hwrapped
      exact sees_put_self.2 rfl
    · exact (sees_put_of_ne hwrapped).2 hsees

theorem Fact.Holds.insert {fact : Fact} (h : fact.Holds tables tx)
    (hmissing : tx.kek tables kid = none) : fact.Holds tables ((tx.lock kid).put kid {}) := by
  have hlocked : fact.Holds tables (tx.lock kid) := (grows_lock kid).holds h
  cases fact with
  | clean =>
    refine ⟨hlocked.1, fun other kek hrow => ?_⟩
    rcases put_registry hrow with ⟨rfl, rfl⟩ | ⟨-, hold⟩
    · exact ⟨rfl, (Option.or_eq_none_iff.1 hmissing).2⟩
    · exact hlocked.2 other kek hold
  | lifecycle => exact hlocked
  | alone only =>
    refine ⟨hlocked.1, fun other hother hsees => ?_⟩
    by_cases hnew : other = kid
    · subst hnew
      exact absurd (sees_put_self.1 hsees) (by decide)
    · exact hlocked.2 other hother ((sees_put_of_ne hnew).1 hsees)
  | locked => exact hlocked
  | retiring other =>
    have hother : other ≠ kid := by
      rintro rfl
      obtain ⟨k, hk, -⟩ := h.2
      cases hmissing.symm.trans hk
    exact ⟨hlocked.1, (sees_put_of_ne hother).2 hlocked.2⟩
  | noStreamKey => exact hlocked
  | noEnvelope => exact hlocked

/-- The lifecycle of a locked row moved on, by a transaction that has written nothing else. -/
theorem TxSound.turn (h : TxSound tables tx) {old kek : Kek} (hclean : Fact.clean.Holds tables tx)
    (halone : (Fact.alone kid).Holds tables tx) (hlocked : (Fact.locked kid).Holds tables tx)
    (hrow : tx.kek tables kid = some old) (hadvances : Advances (some old) kek)
    (hnew : kek.lifecycle ≠ .retired ∨ old.lifecycle = .retiring)
    (hfree : kek.lifecycle = .retired → ∀ holder, tx.wrapKid tables holder ≠ some kid) :
    TxSound tables (tx.put kid kek) := by
  refine ⟨fun {other _} hput => ?_, fun hput hk => ?_, fun hput hk => ?_, fun {holder _} hwrap => ?_⟩
  · rcases put_registry hput with ⟨rfl, rfl⟩ | ⟨-, hold⟩
    · refine ⟨hlocked, ?_⟩
      cases hwritten : tx.registry other with
      | none =>
        rw [← kek_of_unwritten hwritten, hrow]
        exact hadvances
      | some written =>
        obtain ⟨hwritable, hmissing⟩ := hclean.2 other written hwritten
        obtain rfl := Option.some.inj ((kek_of_row hwritten).symm.trans hrow)
        rw [hmissing]
        rcases hnew with hnew | hretiring
        · exact hnew
        · cases hwritable.symm.trans hretiring
    · exact h.rows hold
  · rcases put_registry hput with ⟨rfl, rfl⟩ | ⟨-, hold⟩
    · exact ⟨halone.1, fun o ho hsees => halone.2 o ho ((sees_put_of_ne ho).1 hsees)⟩
    · exact absurd (hclean.2 _ _ hold).1 hk
  · rcases put_registry hput with ⟨rfl, rfl⟩ | ⟨-, hold⟩
    · exact hfree hk
    · exact h.retired hold hk
  · exact absurd ((hclean.1 holder).symm.trans hwrap) (by simp)

/-- An envelope written under a KEK that is locked and seen writable. -/
theorem TxSound.wrap (h : TxSound tables tx) {holder : Holder} {kid : Option String}
    (hkid : ∀ k, kid = some k → tx.shared k = true ∧ tx.Sees tables k .writable) :
    TxSound tables (tx.wrap holder kid) := by
  refine ⟨h.rows, h.turning, fun {other k} hrow hk written => ?_, fun hwrap => ?_⟩
  · by_cases hwritten : written = holder
    · subst hwritten
      rw [wrapKid_wrap_self]
      intro hother
      have hsees : tx.Sees tables other .retired := ⟨k, kek_of_row hrow, hk⟩
      exact absurd (hsees.unique (hkid other hother).2) (by decide)
    · rw [wrapKid_wrap_of_ne kid hwritten]
      exact h.retired hrow hk written
  · rcases wrap_wraps hwrap with ⟨-, hnew⟩ | ⟨-, hold⟩
    · exact hkid _ hnew.symm
    · exact h.wraps hold

end Growth

/-! ## What each statement does -/

section Statements

variable {db : Database} {t : Nat} {statement : Statement} {tx : Transaction}

/-- A statement reads, inserts a missing row, moves a lifecycle on, or writes an envelope. -/
inductive Effect (db : Database) (t : Nat) (statement : Statement) (tx : Transaction) : Prop where
  | reads (plain : statement.writes = false) (grows : Grows (db.txs t) tx)
  | inserts {kid : String} (plain : statement.writes = false) (missing : db.kek t kid = none)
      (made : tx = ((db.txs t).lock kid).put kid {})
  | stays (written : statement.writes = true) (same : tx = db.txs t)
  | turns {kid : String} {old kek : Kek} (written : statement.writes = true)
      (known : ∀ fact ∈ [Fact.clean, .alone kid, .locked kid], fact.Holds db.tables (db.txs t))
      (row : db.kek t kid = some old) (advances : Advances (some old) kek)
      (new : kek.lifecycle ≠ .retired ∨ old.lifecycle = .retiring)
      (free : kek.lifecycle = .retired → ∀ holder, db.wrapKid t holder ≠ some kid)
      (made : tx = (db.txs t).put kid kek)
  | wraps {holder : Holder} {kid : Option String} (written : statement.writes = true)
      (writes : Writes db t kid) (made : tx = ((db.txs t).shareKid kid).wrap holder kid)

theorem advances_next {old kek : Kek} (h : kek.lifecycle.stage = old.lifecycle.stage + 1) :
    Advances (some old) kek :=
  ⟨by omega, by omega⟩

theorem Runs.effect (h : Runs db t statement tx)
    (hneeds : ∀ fact ∈ statement.needs, fact.Holds db.tables (db.txs t)) :
    Effect db t statement tx := by
  cases h with
  | lockLifecycle => exact .reads rfl ⟨rfl, rfl, id, id, fun _ => rfl⟩
  | rejectOtherRetirement
  | present
  | requireZeroStreamReferences
  | requireZeroDirectReferences
  | selectStreamKeys
  | selectBatch => exact .reads rfl ⟨rfl, rfl, id, id, id⟩
  | insert hmissing => exact .inserts rfl hmissing rfl
  | requireWritable | requireUnrehearsed => exact .reads rfl (grows_share _)
  | selectForUpdate | selectRetiring => exact .reads rfl (grows_lock _)
  | authenticateRemaining => exact .reads rfl (grows_share _)
  | beginRetirement hrow hwritable =>
    refine .turns rfl hneeds hrow (advances_next ?_) (.inl (by simp)) (fun hretired => ?_) rfl
    · rw [hwritable]
      rfl
    · cases hretired
  | begun => exact .stays rfl rfl
  | recordRehearsal hrow _ hretiring =>
    obtain ⟨hclean, halone, hheld⟩ := List.forall_mem_cons.1 hneeds |>.imp_right
      fun hrest => List.forall_mem_cons.1 hrest
    have hlocked := (hheld _ List.mem_cons_self).1
    refine .turns rfl ?_ hrow ?_ (.inr hretiring.1) (fun hretired => ?_) rfl
    · simpa using ⟨hclean, halone, hlocked⟩
    · exact ⟨Nat.le_refl _, Nat.le_succ _⟩
    · cases hretired.symm.trans hretiring.1
  | retire hrow hretiring =>
    simp only [Statement.needs, List.mem_cons, List.not_mem_nil, or_false, forall_eq_or_imp,
      forall_eq] at hneeds
    obtain ⟨hclean, halone, hheld, hstream, hdirect⟩ := hneeds
    refine .turns rfl ?_ hrow (advances_next ?_) (.inr hretiring.1) (fun _ holder => ?_) rfl
    · simpa using ⟨hclean, halone, hheld.1⟩
    · rw [hretiring.1]
      rfl
    · cases holder with
      | streamKey streamId keyEpoch => exact hstream.2 streamId keyEpoch
      | envelope surface row => exact hdirect.2 surface row
  | rehearsed => exact .stays rfl rfl
  | insertStreamKey _ hwrites => exact .wraps rfl hwrites rfl
  | rewrap _ _ hwrites => exact .wraps rfl hwrites rfl
  | rewrapNothing => exact .stays rfl rfl
  | writeEnvelope hwrites => exact .wraps rfl hwrites rfl

theorem shareKid_shared {kid : Option String} {k : String} (h : kid = some k) :
    (tx.shareKid kid).shared k = true := by
  simp [Transaction.shareKid, Transaction.share, h]

/-- A statement keeps the transaction sound. -/
theorem Effect.txSound (h : Effect db t statement tx) (hsound : TxSound db.tables (db.txs t)) :
    TxSound db.tables tx := by
  cases h with
  | reads _ hgrows => exact hgrows.txSound hsound
  | inserts _ hmissing hmade => exact hmade ▸ hsound.insert hmissing
  | stays _ hsame => exact hsame ▸ hsound
  | turns _ hknown hrow hadvances hnew hfree hmade =>
    simp only [List.mem_cons, List.not_mem_nil, or_false, forall_eq_or_imp, forall_eq] at hknown
    obtain ⟨hclean, halone, hlocked⟩ := hknown
    exact hmade ▸ hsound.turn hclean halone hlocked hrow hadvances hnew hfree
  | @wraps _ kid _ hwrites hmade =>
    have hgrows : Grows (db.txs t) ((db.txs t).shareKid kid) := grows_share _
    refine hmade ▸ (hgrows.txSound hsound).wrap fun k hk => ⟨shareKid_shared hk, ?_⟩
    exact hgrows.sees.2 (hwrites k hk).2

theorem Effect.holds (h : Effect db t statement tx) (hplain : statement.writes = false) {fact : Fact}
    (hfact : fact.Holds db.tables (db.txs t)) : fact.Holds db.tables tx := by
  cases h with
  | reads _ hgrows => exact hgrows.holds hfact
  | inserts _ hmissing hmade => exact hmade ▸ hfact.insert hmissing
  | stays hwritten | turns hwritten | wraps hwritten => cases hwritten.symm.trans hplain

/-- What a statement has shown holds after it. -/
theorem Runs.learns (h : Runs db t statement tx)
    (hneeds : ∀ fact ∈ statement.needs, fact.Holds db.tables (db.txs t)) {fact : Fact}
    (hfact : fact ∈ statement.learns) : fact.Holds db.tables tx := by
  cases h with
  | lockLifecycle => exact List.mem_singleton.1 hfact ▸ rfl
  | rejectOtherRetirement halone =>
    exact List.mem_singleton.1 hfact ▸ ⟨hneeds _ List.mem_cons_self, halone⟩
  | selectForUpdate => exact List.mem_singleton.1 hfact ▸ update_self ..
  | @selectRetiring kid _ _ kek _ hrow hretiring =>
    rcases List.mem_cons.1 hfact with rfl | hfact
    · exact update_self ..
    · exact List.mem_singleton.1 hfact ▸ ⟨update_self .., kek, hrow, hretiring.1⟩
  | requireZeroStreamReferences hzero | requireZeroDirectReferences hzero =>
    exact List.mem_singleton.1 hfact ▸ ⟨hneeds _ List.mem_cons_self, hzero⟩
  | _ => exact absurd hfact List.not_mem_nil

theorem Allowed.share (h : Allowed db t tx) {kids : String → Bool}
    (hfree : ∀ kid, kids kid = true → db.Shareable t kid) : Allowed db t (tx.share kids) := by
  refine ⟨h.exclusive, fun {kid} hshared => ?_, h.lifecycle⟩
  rcases Bool.or_eq_true_iff.1 hshared with hold | hnew
  · exact h.shared hold
  · exact hfree kid hnew

theorem Allowed.shareKid (h : Allowed db t tx) {kid : Option String}
    (hfree : ∀ k, kid = some k → db.Shareable t k) : Allowed db t (tx.shareKid kid) :=
  h.share fun k hk => hfree k (eq_of_beq hk)

theorem Allowed.lock (h : Allowed db t tx) {kid : String} (hfree : db.Lockable t kid) :
    Allowed db t (tx.lock kid) := by
  refine ⟨fun {other} hexclusive => ?_, h.shared, h.lifecycle⟩
  by_cases hother : other = kid
  · exact hother ▸ hfree
  · exact h.exclusive ((update_of_ne hother _ _).symm.trans hexclusive)

theorem Allowed.put (h : Allowed db t tx) (kid : String) (kek : Kek) : Allowed db t (tx.put kid kek) :=
  ⟨h.exclusive, h.shared, h.lifecycle⟩

theorem Allowed.wrap (h : Allowed db t tx) (holder : Holder) (kid : Option String) :
    Allowed db t (tx.wrap holder kid) :=
  ⟨h.exclusive, h.shared, h.lifecycle⟩

/-- A statement takes only locks that are free. -/
theorem Runs.allowed (h : Runs db t statement tx) (hallowed : Allowed db t (db.txs t)) : Allowed db t tx := by
  cases h with
  | lockLifecycle hfree => exact ⟨hallowed.exclusive, hallowed.shared, fun _ => hfree⟩
  | insert _ hfree => exact (hallowed.lock hfree).put _ _
  | requireWritable hfree
  | requireUnrehearsed hfree => exact hallowed.shareKid fun k hk => Option.some.inj hk ▸ hfree
  | selectForUpdate hfree => exact hallowed.lock hfree
  | selectRetiring hfree => exact hallowed.lock hfree
  | authenticateRemaining _ hfree => exact hallowed.share fun kid hkid => (hfree kid hkid).1
  | insertStreamKey _ hwrites
  | rewrap _ _ hwrites
  | writeEnvelope hwrites => exact (hallowed.shareKid fun k hk => (hwrites k hk).1).wrap _ _
  | beginRetirement => exact hallowed.put _ _
  | recordRehearsal => exact hallowed.put _ _
  | retire => exact hallowed.put _ _
  | _ => exact hallowed

end Statements

/-! ## What the others keep -/

section Frame

variable {db : Database} {t other : Nat}

@[simp] theorem set_txs_self (tx : Transaction) : (db.set t tx).txs t = tx := update_self ..

theorem set_txs_of_ne (tx : Transaction) (h : other ≠ t) : (db.set t tx).txs other = db.txs other :=
  update_of_ne h ..

/-- Of a commit, a transaction notices nothing at the rows it holds locked, no KEK that turns
retiring if it holds the lifecycle lock, and no envelope wrapped by a KEK it holds for itself. -/
structure Unnoticed (tables next : Tables) (tx : Transaction) : Prop where
  locked : ∀ {kid}, tx.exclusive kid = true ∨ tx.shared kid = true → next.registry kid = tables.registry kid
  retiring : ∀ {kid}, tx.lifecycle = true → tx.Sees next kid .retiring → tx.Sees tables kid .retiring
  wraps : ∀ {holder kid}, tx.exclusive kid = true → tx.wrapKid next holder = some kid →
    tx.wrapKid tables holder = some kid

section Unnoticed

variable {tables next : Tables} {tx : Transaction}

theorem Unnoticed.sees (h : Unnoticed tables next tx) {kid : String} {lifecycle : Lifecycle}
    (hlocked : tx.exclusive kid = true ∨ tx.shared kid = true) :
    tx.Sees next kid lifecycle ↔ tx.Sees tables kid lifecycle := by
  unfold Transaction.Sees Transaction.kek
  rw [h.locked hlocked]

theorem Unnoticed.txSound (h : Unnoticed tables next tx) (hsound : TxSound tables tx) : TxSound next tx where
  rows hrow := by
    obtain ⟨hexclusive, hadvances⟩ := hsound.rows hrow
    rw [h.locked (.inl hexclusive)]
    exact ⟨hexclusive, hadvances⟩
  turning hrow hkek := by
    obtain ⟨hlifecycle, hothers⟩ := hsound.turning hrow hkek
    exact ⟨hlifecycle, fun o ho hsees => hothers o ho (h.retiring hlifecycle hsees)⟩
  retired hrow hkek holder hwrap :=
    hsound.retired hrow hkek holder (h.wraps (hsound.rows hrow).1 hwrap)
  wraps hwrap := by
    obtain ⟨hshared, hsees⟩ := hsound.wraps hwrap
    exact ⟨hshared, (h.sees (.inr hshared)).2 hsees⟩

theorem Unnoticed.holds (h : Unnoticed tables next tx) (hsound : TxSound tables tx) {fact : Fact}
    (hfact : fact.Holds tables tx) : fact.Holds next tx := by
  cases fact with
  | clean =>
    refine ⟨hfact.1, fun kid kek hrow => ?_⟩
    rw [h.locked (.inl (hsound.rows hrow).1)]
    exact hfact.2 kid kek hrow
  | lifecycle => exact hfact
  | alone kid => exact ⟨hfact.1, fun o ho hsees => hfact.2 o ho (h.retiring hfact.1 hsees)⟩
  | locked kid => exact hfact
  | retiring kid => exact ⟨hfact.1, (h.sees (.inl hfact.1)).2 hfact.2⟩
  | noStreamKey kid =>
    exact ⟨hfact.1, fun streamId epoch hwrap => hfact.2 streamId epoch (h.wraps hfact.1 hwrap)⟩
  | noEnvelope kid =>
    exact ⟨hfact.1, fun surface row hwrap => hfact.2 surface row (h.wraps hfact.1 hwrap)⟩

end Unnoticed

/-- The locks keep a commit from the other transactions. -/
theorem Sound.unnoticed (h : Sound db) (hother : other ≠ t) :
    Unnoticed db.tables (db.commit t).tables (db.txs other) := by
  refine ⟨fun {kid} hlocked => ?_, fun {kid} hlifecycle hsees => ?_, fun {holder kid} hheld hwrap => ?_⟩
  · cases hwritten : (db.txs t).registry kid with
    | none => exact kek_of_unwritten hwritten
    | some kek =>
      have hexclusive := ((h.tx t).rows hwritten).1
      obtain ⟨hnot, hshared⟩ := (h.allowed t).exclusive hexclusive other hother
      rcases hlocked with hlocked | hlocked
      · cases hnot.symm.trans hlocked
      · cases hshared.symm.trans hlocked
  · obtain ⟨kek, hkek, hretiring⟩ := hsees
    cases hown : (db.txs other).registry kid with
    | some own => exact ⟨own, kek_of_row hown, by
        rw [kek_of_row hown] at hkek
        rw [Option.some.inj hkek, hretiring]⟩
    | none =>
      rw [kek_of_unwritten hown] at hkek
      refine ⟨kek, ?_, hretiring⟩
      rw [kek_of_unwritten hown]
      cases hwritten : (db.txs t).registry kid with
      | none => exact (kek_of_unwritten hwritten).symm.trans hkek
      | some row =>
        obtain rfl := Option.some.inj ((kek_of_row hwritten).symm.trans hkek)
        have hturns := ((h.tx t).turning hwritten (by rw [hretiring]; decide)).1
        exact absurd (((h.allowed t).lifecycle hturns other hother).symm.trans hlifecycle) (by decide)
  · unfold Transaction.wrapKid at hwrap ⊢
    cases hown : (db.txs other).wraps holder with
    | some own =>
      rw [hown] at hwrap
      exact hwrap
    | none =>
      rw [hown] at hwrap
      change (db.txs t).wrapKid db.tables holder = some kid at hwrap
      unfold Transaction.wrapKid at hwrap
      cases hwritten : (db.txs t).wraps holder with
      | none =>
        rw [hwritten] at hwrap
        exact hwrap
      | some written =>
        rw [hwritten, Option.getD_some] at hwrap
        subst hwrap
        have hshared := ((h.tx t).wraps hwritten).1
        have hnot := ((h.allowed other).exclusive hheld t (Ne.symm hother)).2
        cases hnot.symm.trans hshared

/-- What a commit writes is sound. -/
theorem Sound.commit_tables (h : Sound db) (t : Nat) : TablesSound (db.commit t).tables := by
  have htx := h.tx t
  refine ⟨fun {kid o k k'} hk hkr ho hor => ?_, fun {holder kid} hwrap => ?_⟩
  · by_contra hne
    have hsees : (db.txs t).Sees db.tables kid .retiring := ⟨k, hk, hkr⟩
    have hsees' : (db.txs t).Sees db.tables o .retiring := ⟨k', ho, hor⟩
    cases hwritten : (db.txs t).registry kid with
    | some row =>
      obtain rfl := Option.some.inj ((kek_of_row hwritten).symm.trans hk)
      exact (htx.turning hwritten (by rw [hkr]; decide)).2 o (Ne.symm hne) hsees'
    | none =>
      cases hwritten' : (db.txs t).registry o with
      | some row =>
        obtain rfl := Option.some.inj ((kek_of_row hwritten').symm.trans ho)
        exact (htx.turning hwritten' (by rw [hor]; decide)).2 kid hne hsees
      | none =>
        exact hne (h.tables.single ((kek_of_unwritten hwritten).symm.trans hk) hkr
          ((kek_of_unwritten hwritten').symm.trans ho) hor)
  · have hview : (db.txs t).wrapKid db.tables holder = some kid := hwrap
    cases hwritten : (db.txs t).wraps holder with
    | some written =>
      have hnew : written = some kid := by
        rw [← hview, Transaction.wrapKid, hwritten, Option.getD_some]
      subst hnew
      obtain ⟨-, kek, hkek, hwritable⟩ := htx.wraps hwritten
      exact ⟨kek, hkek, by rw [hwritable]; decide⟩
    | none =>
      have hold : db.tables.wraps holder = some kid := by
        rw [← hview, Transaction.wrapKid, hwritten, Option.getD_none]
      obtain ⟨kek, hkek, hkept⟩ := h.tables.kept hold
      cases hrow : (db.txs t).registry kid with
      | none => exact ⟨kek, (kek_of_unwritten hrow).trans hkek, hkept⟩
      | some row =>
        exact ⟨row, kek_of_row hrow, fun hretired => htx.retired hrow hretired holder hview⟩

/-! ## Every step -/

variable {tx : Transaction}

/-- The locks of a transaction shut out what another one goes on to hold. -/
theorem Allowed.set {own : Transaction} (h : Allowed db t tx) (hown : Allowed db other own)
    (hother : other ≠ t) (hheld : db.txs other = own) : Allowed (db.set t tx) other own := by
  subst hheld
  refine ⟨fun {kid} hexclusive => ?_, fun {kid} hshared => ?_, fun hlifecycle => ?_⟩
  · refine (forall_update_iff db.txs fun o own => o ≠ other → own.exclusive kid = false ∧ own.shared kid = false).2
      ⟨fun _ => ⟨Bool.eq_false_iff.2 fun htaken => ?_, Bool.eq_false_iff.2 fun htaken => ?_⟩,
        fun o _ => hown.exclusive hexclusive o⟩
    · exact absurd ((h.exclusive htaken other hother).1.symm.trans hexclusive) (by decide)
    · exact absurd ((h.shared htaken other hother).symm.trans hexclusive) (by decide)
  · refine (forall_update_iff db.txs fun o own => o ≠ other → own.exclusive kid = false).2
      ⟨fun _ => Bool.eq_false_iff.2 fun htaken => ?_, fun o _ => hown.shared hshared o⟩
    exact absurd ((h.exclusive htaken other hother).2.symm.trans hshared) (by decide)
  · refine (forall_update_iff db.txs fun o own => o ≠ other → own.lifecycle = false).2
      ⟨fun _ => Bool.eq_false_iff.2 fun htaken => ?_, fun o _ => hown.lifecycle hlifecycle o⟩
    exact absurd ((h.lifecycle htaken other hother).symm.trans hlifecycle) (by decide)

/-- What a transaction may hold does not depend on itself. -/
theorem Allowed.set_self {own : Transaction} (h : Allowed db t own) : Allowed (db.set t tx) t own := by
  refine ⟨fun hexclusive o ho => ?_, fun hshared o ho => ?_, fun hlifecycle o ho => ?_⟩
  · rw [set_txs_of_ne tx ho]
    exact h.exclusive hexclusive o ho
  · rw [set_txs_of_ne tx ho]
    exact h.shared hshared o ho
  · rw [set_txs_of_ne tx ho]
    exact h.lifecycle hlifecycle o ho

theorem Sound.set (h : Sound db) (htx : TxSound db.tables tx) (hallowed : Allowed db t tx)
    {known : List Fact} (hknown : ∀ fact ∈ known, fact.Holds db.tables tx)
    (hcertified : Certified known tx.todo) :
    Sound (db.set t tx) := by
  refine ⟨h.tables, ?_, ?_, ?_⟩
  · exact (forall_update_iff db.txs fun _ => TxSound db.tables).2 ⟨htx, fun o _ => h.tx o⟩
  · exact (forall_update_iff db.txs (Allowed (db.set t tx))).2
      ⟨hallowed.set_self, fun o ho => hallowed.set (h.allowed o) ho rfl⟩
  · exact (forall_update_iff db.txs fun _ own => ∃ known : List Fact,
      (∀ fact ∈ known, fact.Holds db.tables own) ∧ Certified known own.todo).2
      ⟨⟨known, hknown, hcertified⟩, fun o _ => h.certified o⟩

theorem txSound_empty (tables : Tables) : TxSound tables {} :=
  ⟨fun h => absurd h (by simp), fun h => absurd h (by simp), fun h => absurd h (by simp),
    fun h => absurd h (by simp)⟩

theorem allowed_empty (db : Database) (t : Nat) : Allowed db t {} :=
  ⟨fun h => absurd h (by simp), fun h => absurd h (by simp), fun h => absurd h (by simp)⟩

theorem Sound.close (h : Sound db) (t : Nat) : Sound (db.set t {}) :=
  @Sound.set db t {} h (txSound_empty _) (allowed_empty db t) []
    (fun _ hfact => absurd hfact List.not_mem_nil) trivial

theorem Sound.commit (h : Sound db) (t : Nat) : Sound (db.commit t) := by
  have hclosed := h.close t
  refine ⟨h.commit_tables t, ?_, fun o => ⟨(hclosed.allowed o).exclusive,
    (hclosed.allowed o).shared, (hclosed.allowed o).lifecycle⟩, ?_⟩
  · exact (forall_update_iff db.txs fun _ => TxSound (db.commit t).tables).2
      ⟨txSound_empty _, fun o ho => (h.unnoticed ho).txSound (h.tx o)⟩
  · refine (forall_update_iff db.txs fun _ own => ∃ known : List Fact,
      (∀ fact ∈ known, fact.Holds (db.commit t).tables own) ∧ Certified known own.todo).2
      ⟨⟨[], fun _ hfact => absurd hfact List.not_mem_nil, trivial⟩, fun o ho => ?_⟩
    obtain ⟨known, hknown, hcertified⟩ := h.certified o
    exact ⟨known, fun fact hfact => (h.unnoticed ho).holds (h.tx o) (hknown fact hfact), hcertified⟩

theorem TxSound.withTodo {tables : Tables} (h : TxSound tables tx) (todo : List Statement) : TxSound tables { tx with todo := todo } :=
  ⟨h.rows, h.turning, h.retired, h.wraps⟩

theorem Fact.Holds.withTodo {tables : Tables} {fact : Fact} (h : fact.Holds tables tx)
    (todo : List Statement) :
    fact.Holds tables { tx with todo := todo } := by
  cases fact <;> exact h

theorem Allowed.withTodo (h : Allowed db t tx) (todo : List Statement) :
    Allowed db t { tx with todo := todo } :=
  ⟨h.exclusive, h.shared, h.lifecycle⟩

/-- Every step keeps the invariant. -/
theorem Sound.step {next : Database} (h : Sound db) (hstep : Step db t next) : Sound next := by
  cases hstep with
  | begin hfresh haccepted =>
    refine h.set ((txSound_empty _).withTodo _) ((allowed_empty db t).withTodo _)
      (fun fact hfact => ?_) (Operation.certified haccepted)
    rw [List.mem_singleton.1 hfact]
    exact ⟨fun _ => rfl, fun _ _ hrow => absurd hrow (by simp)⟩
  | call hidle haccepted =>
    exact h.set ((h.tx t).withTodo _) ((h.allowed t).withTodo _)
      (fun _ hfact => absurd hfact List.not_mem_nil) (Call.certified haccepted)
  | @run statement rest tx hnext hruns =>
    obtain ⟨known, hknown, hcertified⟩ := h.certified t
    rw [hnext] at hcertified
    have hneeds : ∀ fact ∈ statement.needs, fact.Holds db.tables (db.txs t) :=
      fun fact hfact => hknown fact (hcertified.1 fact hfact)
    have heffect := hruns.effect hneeds
    refine h.set ((heffect.txSound (h.tx t)).withTodo _) ((hruns.allowed (h.allowed t)).withTodo _)
      (fun fact hfact => Fact.Holds.withTodo ?_ _) hcertified.2
    rcases List.mem_append.1 hfact with hnew | hold
    · exact hruns.learns hneeds hnew
    · cases hwrites : statement.writes with
      | true =>
        rw [hwrites, if_pos rfl] at hold
        exact absurd hold List.not_mem_nil
      | false =>
        rw [hwrites, if_neg (by decide)] at hold
        exact heffect.holds hwrites (hknown fact hold)
  | commit => exact h.commit t
  | rollback => exact h.close t

/-- A step moves a committed row at most one stage forward, and takes none away. -/
theorem Sound.advances {next : Database} (h : Sound db) (hstep : Step db t next) {kid : String}
    {kek : Kek} (hkek : db.tables.registry kid = some kek) :
    ∃ later, next.tables.registry kid = some later ∧ Advances (some kek) later := by
  have hsame : Advances (some kek) kek := ⟨Nat.le_refl _, Nat.le_succ _⟩
  cases hstep with
  | commit =>
    cases hwritten : (db.txs t).registry kid with
    | none => exact ⟨kek, (kek_of_unwritten hwritten).trans hkek, hsame⟩
    | some row =>
      refine ⟨row, kek_of_row hwritten, ?_⟩
      have hadvances := ((h.tx t).rows hwritten).2
      rw [hkek] at hadvances
      exact hadvances
  | begin => exact ⟨kek, hkek, hsame⟩
  | call => exact ⟨kek, hkek, hsame⟩
  | run => exact ⟨kek, hkek, hsame⟩
  | rollback => exact ⟨kek, hkek, hsame⟩

end Frame

/-! ## Every run -/

theorem sound_empty : Sound {} where
  tables := ⟨fun h => absurd h (by simp), fun h => absurd h (by simp)⟩
  tx _ := txSound_empty _
  allowed t := allowed_empty _ t
  certified _ := ⟨[], fun _ hfact => absurd hfact List.not_mem_nil, trivial⟩

theorem Later.sound (h : Later db later) (hdb : Sound db) : Sound later := by
  induction h with
  | refl => exact hdb
  | tail _ hstep ih =>
    obtain ⟨t, hstep⟩ := hstep
    exact ih.step hstep

theorem Reachable.sound (h : Reachable db) : Sound db := Later.sound h sound_empty

/-- The stage of a committed row never goes back. -/
theorem Later.stage_le (h : Later db later) (hdb : Sound db) {kek : Kek}
    (hkek : db.tables.registry kid = some kek) :
    ∃ row, later.tables.registry kid = some row ∧ kek.lifecycle.stage ≤ row.lifecycle.stage := by
  induction h with
  | refl => exact ⟨kek, hkek, Nat.le_refl _⟩
  | tail hrun hstep ih =>
    obtain ⟨t, hstep⟩ := hstep
    obtain ⟨row, hrow, hle⟩ := ih
    obtain ⟨next, hnext, hadvances⟩ := (Later.sound hrun hdb).advances hstep hrow
    exact ⟨next, hnext, Nat.le_trans hle hadvances.1⟩

/-- The KEK is committed as retired. -/
def Retired (db : Database) (kid : String) : Prop :=
  ∃ kek, db.tables.registry kid = some kek ∧ kek.lifecycle = .retired

theorem Later.retired (h : Later db later) (hdb : Sound db) (hretired : Retired db kid) : Retired later kid := by
  obtain ⟨kek, hkek, hlifecycle⟩ := hretired
  obtain ⟨row, hrow, hle⟩ := Later.stage_le h hdb hkek
  refine ⟨row, hrow, ?_⟩
  rw [hlifecycle] at hle
  cases hrowLifecycle : row.lifecycle with
  | retired => rfl
  | writable | retiring => exact absurd (hrowLifecycle ▸ hle) (by decide)

/-- No envelope is wrapped by a retired KEK, nor is one about to be. -/
theorem Sound.retired_wraps_nothing (h : Sound db) (hretired : Retired db kid) (holder : Holder) :
    db.tables.wraps holder ≠ some kid ∧ ∀ t, (db.txs t).wraps holder ≠ some (some kid) := by
  obtain ⟨kek, hkek, hlifecycle⟩ := hretired
  refine ⟨fun hwrap => ?_, fun t hwrap => ?_⟩
  · obtain ⟨row, hrow, hkept⟩ := h.tables.kept hwrap
    obtain rfl := Option.some.inj (hkek.symm.trans hrow)
    exact hkept hlifecycle
  · obtain ⟨-, row, hrow, hwritable⟩ := (h.tx t).wraps hwrap
    cases hwritten : (db.txs t).registry kid with
    | none =>
      obtain rfl := Option.some.inj (hkek.symm.trans ((kek_of_unwritten hwritten).symm.trans hrow))
      cases hwritable.symm.trans hlifecycle
    | some written =>
      obtain rfl := Option.some.inj ((kek_of_row hwritten).symm.trans hrow)
      have hadvances := ((h.tx t).rows hwritten).2
      rw [hkek] at hadvances
      have hle : kek.lifecycle.stage ≤ written.lifecycle.stage := hadvances.1
      rw [hlifecycle, hwritable] at hle
      cases hle

/-- A process whose active KEK is `k1`. -/
def firstRing : Keyring := ⟨"k1", ["k1"]⟩

/-- The registry in which the process has inserted the row of its KEK. -/
def insertedDb : Database :=
  let begun := ({} : Database).set 0 { todo := [.insertIfMissing "k1", .requireWritable "k1", .commit] }
  begun.set 0 { ((begun.txs 0).lock "k1").put "k1" {} with todo := [.requireWritable "k1", .commit] }

/-- The registry in which the process has attested its KEK. -/
def attestedDb : Database :=
  (insertedDb.set 0 { (insertedDb.txs 0).shareKid (some "k1") with todo := [.commit] }).commit 0

theorem insertedDb_others {other : Nat} (h : other ≠ 0) : insertedDb.txs other = {} := by
  unfold insertedDb
  rw [set_txs_of_ne _ h, set_txs_of_ne _ h]

theorem attestedDb_reachable : Reachable attestedDb := by
  have hbegin : Later {} (({} : Database).set 0
      { todo := [.insertIfMissing "k1", .requireWritable "k1", .commit] }) :=
    Relation.ReflTransGen.single
      ⟨0, @Step.begin _ 0 firstRing .attestActiveRuntimeKek _ rfl rfl⟩
  have hinsert : Later {} insertedDb := by
    refine hbegin.tail ⟨0, .run rfl (.insert rfl fun other hother => ?_)⟩
    rw [set_txs_of_ne _ hother]
    exact ⟨rfl, rfl⟩
  refine (hinsert.tail ⟨0, .run rfl (.requireWritable (fun other hother => ?_) ?_)⟩).tail
    ⟨0, .commit (.inr rfl)⟩
  · rw [insertedDb_others hother]
  · exact ⟨{}, rfl, rfl⟩

/-- The registry in which another process has begun to attest the same KEK. -/
def reattestingDb : Database :=
  attestedDb.set 1 { todo := [.insertIfMissing "k1", .requireWritable "k1", .commit] }

end Fmarch.Eventstore.Keks
