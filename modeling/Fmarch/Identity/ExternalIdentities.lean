import Fmarch.Identity.Sessions

/-!
# WorkOS identities (`identity/src/workos.rs`, `methods.rs`, `api/src/auth_http.rs`)

A subject is found without its row's lock, under its advisory lock; its member's gate is taken next, and what
was found is read again. A sign-in accepts a bound subject, an admission binds a new one to a member that it
provisions, and a link binds one to a member that is signed in, or activates its method again. Each claims the
provider session of its assertion, after a second look at the tombstones, and takes effect when it commits.
Disabling a method, logging out and erasing a member write tombstones under the member's gate alone.

**`identities_lawful`**: in every run, a subject has one binding, which never moves; no subject and no provider
session that was tombstoned is accepted again; and a member that has an active method keeps one while it is
active, unless an administrator disables its account.

An erasure takes no lock of the subjects that it tombstones: an admission that looked for tombstones before it,
and for the binding after it, is stopped by its second look. `authorize_workos_session` and
`issue_workos_session` look again, under the same locks, and change nothing here; signing keys and app sessions
are elsewhere (`Identity/Sessions.lean`). The binding of an operator's first administrator is left out.
-/

namespace Fmarch.Identity.ExternalIdentities

open Function (update update_self update_of_ne)

open Relation
open Fmarch.Identity.Sessions (Method MethodKind Principal)

/-! ## The tables -/

/-- What is read here of a `VerifiedIdentity`: the subject and its provider session. -/
structure VerifiedIdentity where
  subject : String
  sessionId : String

/-- `external_identity`, of WorkOS. -/
structure ExternalIdentity where
  subject : String
  principalId : Nat
  methodId : Nat

/-- `workos_provider_session`. -/
structure ProviderSession where
  subject : String
  principalId : Nat
  methodId : Nat
  active : Bool

/-- `workos_provider_session_tombstone.reason`. -/
inductive Reason where
  | logout | linkCompleted | methodDisabled | subjectErasure

/-- What an assertion is used for. -/
inductive Flow where
  /-- `resolve_subject`. -/
  | signIn
  /-- `bind_new_subject_for_admission`. -/
  | admission
  /-- `attach_subject`, of a new subject. -/
  | link
  /-- `attach_subject`, of a disabled method. -/
  | relink
  deriving DecidableEq

/-- A link ends the provider session that it claims. -/
def Flow.ends : Flow → Bool
  | .signIn | .admission => false
  | .link | .relink => true

/-- The subject of the assertion gets its binding. -/
def Flow.binds : Flow → Bool
  | .admission | .link => true
  | .signIn | .relink => false

/-- What a task is at. -/
inductive Stage where
  | idle
  | locked (principalId : Nat)
  | asserted (verified : VerifiedIdentity)
  | screened (verified : VerifiedIdentity)
  | discovered (verified : VerifiedIdentity) (principalId methodId : Nat)
  | unbound (verified : VerifiedIdentity)
  | initiating (verified : VerifiedIdentity) (principalId : Nat)
  | attaching (verified : VerifiedIdentity) (principalId : Nat)
  | found (verified : VerifiedIdentity) (principalId : Nat) (methodId : Option Nat)
  | resolved (verified : VerifiedIdentity) (principalId methodId : Nat) (flow : Flow)
  | claimed (verified : VerifiedIdentity) (principalId methodId : Nat) (flow : Flow)
  | done

/-- The tables as they are committed, the locks of the members, the subjects and the provider sessions, and the
tasks. -/
structure Db where
  principals : Nat → Option Principal := fun _ => none
  methods : Nat → Option Method := fun _ => none
  identities : List ExternalIdentity := []
  providerSessions : String → Option ProviderSession := fun _ => none
  sessionTombstones : String → Option Reason := fun _ => none
  subjectTombstones : String → Bool := fun _ => false
  gate : Nat → Option Nat := fun _ => none
  advisory : String → Option Nat := fun _ => none
  claims : String → Option Nat := fun _ => none
  stages : Nat → Stage := fun _ => .idle

namespace Db

variable (db : Db) (task : Nat)

/-- The task goes on. -/
def goto (stage : Stage) : Db := { db with stages := update db.stages task stage }

/-- The task's transaction ends. -/
def finish : Db :=
  { db with
    gate := fun principalId => if db.gate principalId = some task then none else db.gate principalId
    advisory := fun subject => if db.advisory subject = some task then none else db.advisory subject
    claims := fun sessionId => if db.claims sessionId = some task then none else db.claims sessionId
    stages := update db.stages task .done }

/-- `lock_identity_mutation`. -/
def takeGate (principalId : Nat) : Db := { db with gate := update db.gate principalId (some task) }

/-- `lock_subject_advisory`. -/
def takeSubject (subject : String) : Db := { db with advisory := update db.advisory subject (some task) }

/-- The row of a provider session, in a transaction that goes on. -/
def takeClaim (sessionId : String) : Db := { db with claims := update db.claims sessionId (some task) }

/-- `reject_tombstoned_identity`, and the second look of a claim. -/
def tombstoned (verified : VerifiedIdentity) : Bool :=
  (db.sessionTombstones verified.sessionId).isSome || db.subjectTombstones verified.subject

/-- `IdentityMutationOwner::require_active`. -/
def active (principalId : Nat) : Bool := (db.principals principalId).any (·.requireActive)

/-- A method is its member's, active and of WorkOS. -/
def signsIn (principalId methodId : Nat) : Bool :=
  (db.methods methodId).any fun method =>
    method.principalId == principalId && method.kind == .workos && method.active

/-- No binding of the subject is in the table. -/
def Unbound (subject : String) : Prop := ∀ row ∈ db.identities, row.subject ≠ subject

/-- The row of a provider session that a claim may insert or update. -/
def Claimable (verified : VerifiedIdentity) (principalId methodId : Nat) : Prop :=
  db.providerSessions verified.sessionId = none ∨
    db.providerSessions verified.sessionId = some ⟨verified.subject, principalId, methodId, true⟩

/-- What a task has written when it commits: the binding and its method, and the provider session. -/
def commit (verified : VerifiedIdentity) (principalId methodId : Nat) (flow : Flow) : Db :=
  { db with
    principals :=
      if flow = .admission then update db.principals principalId (some ⟨true, true⟩) else db.principals
    methods :=
      if flow = .signIn then db.methods
      else update db.methods methodId (some ⟨principalId, .workos, true⟩)
    identities :=
      if flow.binds then ⟨verified.subject, principalId, methodId⟩ :: db.identities else db.identities
    providerSessions := update db.providerSessions verified.sessionId
      (some ⟨verified.subject, principalId, methodId, !flow.ends⟩)
    sessionTombstones :=
      if flow.ends then update db.sessionTombstones verified.sessionId (some .linkCompleted)
      else db.sessionTombstones }

/-- `disable_method`, which seals the provider sessions of a WorkOS method. -/
def disableMethod (methodId : Nat) (method : Method) : Db :=
  { db with
    methods := update db.methods methodId (some { method with active := false })
    providerSessions := fun sessionId => (db.providerSessions sessionId).map fun row : ProviderSession =>
      if row.methodId = methodId ∧ row.principalId = method.principalId ∧ method.kind = .workos then
        { row with active := false }
      else row
    sessionTombstones := fun sessionId =>
      if (db.providerSessions sessionId).any fun row =>
          row.active && decide (row.methodId = methodId ∧ row.principalId = method.principalId ∧ method.kind = .workos) then
        some .methodDisabled
      else db.sessionTombstones sessionId }

/-- `disable_auth_for_erasure`. -/
def requestErasure (principalId : Nat) : Db :=
  { db with
    principals := update db.principals principalId (some ⟨false, false⟩)
    methods := fun methodId => (db.methods methodId).map fun method : Method =>
      if method.principalId = principalId then { method with active := false } else method }

/-- What `finalize_subject_erasure` does to the identities of its member. -/
def finaliseErasure (principalId : Nat) : Db :=
  { db.requestErasure principalId with
    identities := db.identities.filter fun row => row.principalId ≠ principalId
    providerSessions := fun sessionId =>
      if (db.providerSessions sessionId).any (·.principalId == principalId) then none
      else db.providerSessions sessionId
    sessionTombstones := fun sessionId =>
      if (db.providerSessions sessionId).any (·.principalId == principalId) then
        db.sessionTombstones sessionId <|> some .subjectErasure
      else db.sessionTombstones sessionId
    subjectTombstones := fun subject =>
      db.subjectTombstones subject ||
        db.identities.any fun row => row.subject == subject && row.principalId == principalId }

/-- `end_workos_provider_session`, of a logout. -/
def logout (sessionId : String) (row : ProviderSession) : Db :=
  { db with
    providerSessions := update db.providerSessions sessionId (some { row with active := false })
    sessionTombstones := update db.sessionTombstones sessionId (some .logout) }

end Db

/-! ## Steps -/

/-- What a step does, for those who watch. -/
inductive Act where
  | other
  | accept (verified : VerifiedIdentity) (flow : Flow)
  /-- A link that has committed is answered once more. -/
  | answerAgain (verified : VerifiedIdentity)
  /-- An administrator disables a member's account. -/
  | disableAccount (principalId : Nat)

/-- One statement of a task, or the last ones with its commit. -/
inductive Step : Db → Act → Db → Prop where
  | lock {db : Db} {task : Nat} (idle : db.stages task = .idle) (principalId : Nat)
      (free : db.gate principalId = none) :
      Step db .other ((db.takeGate task principalId).goto task (.locked principalId))
  /-- `ensure_principal`. -/
  | ensurePrincipal {db : Db} {task principalId : Nat} (stage : db.stages task = .locked principalId)
      (absent : db.principals principalId = none) :
      Step db .other
        ({ db with principals := update db.principals principalId (some ⟨true, true⟩) }.finish task)
  /-- `create_method`, of another kind than WorkOS. -/
  | createMethod {db : Db} {task principalId : Nat} (stage : db.stages task = .locked principalId)
      (active : db.active principalId = true) (methodId : Nat) (kind : MethodKind) (other : kind ≠ .workos)
      (absent : db.methods methodId = none) :
      Step db .other
        ({ db with methods := update db.methods methodId (some ⟨principalId, kind, true⟩) }.finish task)
  /-- `enable_auth_account`. -/
  | enableAccount {db : Db} {task principalId methodId : Nat} {method : Method}
      (stage : db.stages task = .locked principalId) (active : db.active principalId = true)
      (found : db.methods methodId = some method) (owner : method.principalId = principalId)
      (classic : method.kind = .classicPassword) :
      Step db .other ({ db with
        methods := update db.methods methodId (some { method with active := true }) }.finish task)
  /-- `disable_auth_account`. -/
  | disableAccount {db : Db} {task principalId methodId : Nat} {method : Method}
      (stage : db.stages task = .locked principalId) (active : db.active principalId = true)
      (found : db.methods methodId = some method) (owner : method.principalId = principalId)
      (classic : method.kind = .classicPassword) :
      Step db (.disableAccount principalId) ({ db with
        methods := update db.methods methodId (some { method with active := false }) }.finish task)
  /-- `disable_method`: another method is active, and no provider session that it seals has a tombstone. -/
  | disableMethod {db : Db} {task principalId methodId : Nat} {method : Method}
      (stage : db.stages task = .locked principalId) (active : db.active principalId = true)
      (found : db.methods methodId = some method) (owner : method.principalId = principalId)
      (enabled : method.active = true)
      (otherActive : ∃ other ≠ methodId, ∃ method', db.methods other = some method' ∧
        method'.principalId = principalId ∧ method'.active = true)
      (unsealed : ∀ sessionId row, db.providerSessions sessionId = some row → row.active = true →
        row.methodId = methodId → row.principalId = principalId → method.kind = .workos →
        db.sessionTombstones sessionId = none) :
      Step db .other ((db.disableMethod methodId method).finish task)
  /-- `request_member_erasure`. -/
  | requestErasure {db : Db} {task principalId : Nat} (stage : db.stages task = .locked principalId)
      (active : db.active principalId = true) : Step db .other ((db.requestErasure principalId).finish task)
  /-- `finalize_subject_erasure`. -/
  | finaliseErasure {db : Db} {task principalId : Nat} {principal : Principal}
      (stage : db.stages task = .locked principalId) (found : db.principals principalId = some principal)
      (pending : principal.subjectActive = false) :
      Step db .other ((db.finaliseErasure principalId).finish task)
  /-- `logout_auth_session`, of a session of WorkOS. -/
  | logout {db : Db} {task principalId : Nat} {sessionId : String} {row : ProviderSession}
      (stage : db.stages task = .locked principalId) (found : db.providerSessions sessionId = some row)
      (owner : row.principalId = principalId) (active : row.active = true)
      (unsealed : db.sessionTombstones sessionId = none) :
      Step db .other ((db.logout sessionId row).finish task)
  /-- `lock_subject_advisory`. -/
  | assert {db : Db} {task : Nat} (idle : db.stages task = .idle) (verified : VerifiedIdentity)
      (free : db.advisory verified.subject = none) :
      Step db .other ((db.takeSubject task verified.subject).goto task (.asserted verified))
  /-- `reject_tombstoned_identity`. -/
  | screen {db : Db} {task : Nat} {verified : VerifiedIdentity} (stage : db.stages task = .asserted verified)
      (clear : db.tombstoned verified = false) : Step db .other (db.goto task (.screened verified))
  /-- `discover_subject`, of a sign-in. -/
  | discover {db : Db} {task : Nat} {verified : VerifiedIdentity} (stage : db.stages task = .screened verified)
      (row : ExternalIdentity) (found : row ∈ db.identities) (subject : row.subject = verified.subject) :
      Step db .other (db.goto task (.discovered verified row.principalId row.methodId))
  /-- The gate of the member, and what was found is read again. -/
  | resolve {db : Db} {task principalId methodId : Nat} {verified : VerifiedIdentity}
      (stage : db.stages task = .discovered verified principalId methodId) (free : db.gate principalId = none)
      (active : db.active principalId = true) (method : db.signsIn principalId methodId = true)
      (bound : ⟨verified.subject, principalId, methodId⟩ ∈ db.identities) :
      Step db .other ((db.takeGate task principalId).goto task (.resolved verified principalId methodId .signIn))
  /-- A sign-in that is refused goes on to an admission. -/
  | refuse {db : Db} {task principalId methodId : Nat} {verified : VerifiedIdentity}
      (stage : db.stages task = .discovered verified principalId methodId) :
      Step db .other (db.goto task (.asserted verified))
  /-- `discover_subject`, of an admission. -/
  | discoverNone {db : Db} {task : Nat} {verified : VerifiedIdentity}
      (stage : db.stages task = .screened verified) (unbound : db.Unbound verified.subject) :
      Step db .other (db.goto task (.unbound verified))
  /-- `ensure_principal`, `create_method` and the binding, which is looked for again. -/
  | provision {db : Db} {task : Nat} {verified : VerifiedIdentity} (stage : db.stages task = .unbound verified)
      (principalId methodId : Nat) (free : db.gate principalId = none)
      (newPrincipal : db.principals principalId = none) (newMethod : db.methods methodId = none)
      (unbound : db.Unbound verified.subject) :
      Step db .other
        ((db.takeGate task principalId).goto task (.resolved verified principalId methodId .admission))
  /-- `validate_session_for_update`, of a link. -/
  | initiate {db : Db} {task : Nat} {verified : VerifiedIdentity} (stage : db.stages task = .asserted verified)
      (principalId : Nat) (free : db.gate principalId = none) (active : db.active principalId = true) :
      Step db .other ((db.takeGate task principalId).goto task (.initiating verified principalId))
  /-- `completed_workos_link_method`. -/
  | answerAgain {db : Db} {task principalId methodId : Nat} {verified : VerifiedIdentity}
      (stage : db.stages task = .initiating verified principalId)
      (reason : db.sessionTombstones verified.sessionId = some .linkCompleted)
      (row : db.providerSessions verified.sessionId = some ⟨verified.subject, principalId, methodId, false⟩)
      (bound : ⟨verified.subject, principalId, methodId⟩ ∈ db.identities)
      (method : db.signsIn principalId methodId = true) : Step db (.answerAgain verified) (db.finish task)
  /-- `reject_tombstoned_identity`, of a link. -/
  | attach {db : Db} {task principalId : Nat} {verified : VerifiedIdentity}
      (stage : db.stages task = .initiating verified principalId) (clear : db.tombstoned verified = false) :
      Step db .other (db.goto task (.attaching verified principalId))
  /-- `discover_subject`, of a link: the binding is the member's. -/
  | discoverOwn {db : Db} {task principalId : Nat} {verified : VerifiedIdentity}
      (stage : db.stages task = .attaching verified principalId) (row : ExternalIdentity)
      (found : row ∈ db.identities) (subject : row.subject = verified.subject)
      (owner : row.principalId = principalId) :
      Step db .other (db.goto task (.found verified principalId (some row.methodId)))
  | discoverFree {db : Db} {task principalId : Nat} {verified : VerifiedIdentity}
      (stage : db.stages task = .attaching verified principalId) (unbound : db.Unbound verified.subject) :
      Step db .other (db.goto task (.found verified principalId none))
  /-- The disabled method of a binding that is still there is activated. -/
  | relink {db : Db} {task principalId methodId : Nat} {verified : VerifiedIdentity} {method : Method}
      (stage : db.stages task = .found verified principalId (some methodId))
      (active : db.active principalId = true) (found : db.methods methodId = some method)
      (owner : method.principalId = principalId) (workos : method.kind = .workos)
      (disabled : method.active = false) (bound : ⟨verified.subject, principalId, methodId⟩ ∈ db.identities) :
      Step db .other (db.goto task (.resolved verified principalId methodId .relink))
  /-- A method is created for a subject that is still unbound. -/
  | link {db : Db} {task principalId : Nat} {verified : VerifiedIdentity}
      (stage : db.stages task = .found verified principalId none) (active : db.active principalId = true)
      (methodId : Nat) (newMethod : db.methods methodId = none) (unbound : db.Unbound verified.subject) :
      Step db .other (db.goto task (.resolved verified principalId methodId .link))
  /-- `claim_workos_provider_session`. -/
  | claim {db : Db} {task principalId methodId : Nat} {verified : VerifiedIdentity} {flow : Flow}
      (stage : db.stages task = .resolved verified principalId methodId flow)
      (clear : db.tombstoned verified = false) (free : db.claims verified.sessionId = none)
      (row : db.Claimable verified principalId methodId) :
      Step db .other
        ((db.takeClaim task verified.sessionId).goto task (.claimed verified principalId methodId flow))
  /-- The transaction commits; the rows that it inserts are of methods that no other has inserted. -/
  | commit {db : Db} {task principalId methodId : Nat} {verified : VerifiedIdentity} {flow : Flow}
      (stage : db.stages task = .claimed verified principalId methodId flow)
      (newMethod : flow.binds = true → db.methods methodId = none) :
      Step db (.accept verified flow) ((db.commit verified principalId methodId flow).finish task)
  /-- The task is refused, fails or is stopped. -/
  | stop {db : Db} {task : Nat} : Step db .other (db.finish task)

/-- Steps that are each `allowed`, one after another. -/
def RunOf (allowed : Act → Prop) : Db → Db → Prop := ReflTransGen fun db db' => ∃ act, allowed act ∧ Step db act db'

/-- Steps, one after another. -/
abbrev Run : Db → Db → Prop := RunOf fun _ => True

/-! ## The invariant -/

/-- A binding that a task is to write is not there, and one that it relies on is. -/
def Db.Bound (db : Db) (verified : VerifiedIdentity) (principalId methodId : Nat) (flow : Flow) : Prop :=
  if flow.binds then db.Unbound verified.subject else ⟨verified.subject, principalId, methodId⟩ ∈ db.identities

/-- What a task at a stage may rely on: its locks, and what it has read under them. -/
def Db.Bears (db : Db) (task : Nat) : Stage → Prop
  | .idle | .done => True
  | .locked principalId => db.gate principalId = some task
  | .asserted verified | .screened verified | .discovered verified _ _ | .unbound verified =>
    db.advisory verified.subject = some task
  | .initiating verified principalId | .attaching verified principalId | .found verified principalId _ =>
    db.advisory verified.subject = some task ∧ db.gate principalId = some task
  | .resolved verified principalId methodId flow =>
    db.advisory verified.subject = some task ∧ db.gate principalId = some task ∧
      db.Bound verified principalId methodId flow
  | .claimed verified principalId methodId flow =>
    db.advisory verified.subject = some task ∧ db.gate principalId = some task ∧
      db.Bound verified principalId methodId flow ∧ db.claims verified.sessionId = some task ∧
      db.Claimable verified principalId methodId ∧ db.sessionTombstones verified.sessionId = none ∧
      db.subjectTombstones verified.subject = false

/-- The bindings: one of a subject and of a method, of the method's member, and none of a tombstoned subject. -/
structure Tables (db : Db) : Prop where
  subjects : (db.identities.map (·.subject)).Nodup
  methodIds : (db.identities.map (·.methodId)).Nodup
  owned : ∀ row ∈ db.identities, ∃ method, db.methods row.methodId = some method ∧
    method.principalId = row.principalId ∧ method.kind = .workos
  buried : ∀ row ∈ db.identities, db.subjectTombstones row.subject = false

/-- What holds of the tables and the tasks. -/
structure Ok (db : Db) : Prop extends Tables db where
  bears : ∀ task, db.Bears task (db.stages task)

theorem Ok.empty : Ok {} where
  subjects := List.nodup_nil
  methodIds := List.nodup_nil
  owned _ h := absurd h List.not_mem_nil
  buried _ h := absurd h List.not_mem_nil
  bears _ := trivial

variable {db db' : Db} {stage : Stage} {task i principalId methodId : Nat} {sessionId : String}
   {methods : Nat → Option Method} {method : Method} {flow : Flow} {verified : VerifiedIdentity}
   {act : Act}

theorem Tables.unique (h : Tables db) {a b : ExternalIdentity} (ha : a ∈ db.identities)
    (hb : b ∈ db.identities) (hsame : a.subject = b.subject) : a = b :=
  List.inj_on_of_nodup_map h.subjects ha hb hsame

/-- What other tasks do not take from a task: its locks, and what it has read under them. -/
structure Frame (db db' : Db) (task : Nat) : Prop where
  gate : ∀ principalId, db.gate principalId = some task → db'.gate principalId = some task
  advisory : ∀ subject, db.advisory subject = some task → db'.advisory subject = some task
  claims : ∀ sessionId, db.claims sessionId = some task → db'.claims sessionId = some task
  unbound : ∀ subject, db.advisory subject = some task → db.Unbound subject → db'.Unbound subject
  row : ∀ row ∈ db.identities, db.gate row.principalId = some task → row ∈ db'.identities
  session : ∀ verified principalId methodId, db.claims verified.sessionId = some task →
    db.gate principalId = some task → db.Claimable verified principalId methodId →
    db.sessionTombstones verified.sessionId = none →
    db'.Claimable verified principalId methodId ∧ db'.sessionTombstones verified.sessionId = none
  subject : ∀ subject, db.advisory subject = some task → db.subjectTombstones subject = false →
    (db.Unbound subject ∨ ∃ row ∈ db.identities, row.subject = subject ∧ db.gate row.principalId = some task) →
    db'.subjectTombstones subject = false

/-- A task keeps what it relies on. -/
theorem Frame.bears (hframe : Frame db db' task) (h : db.Bears task stage) : db'.Bears task stage := by
  have hbound : ∀ verified principalId methodId flow, db.advisory verified.subject = some task →
      db.gate principalId = some task → db.Bound verified principalId methodId flow →
      db'.Bound verified principalId methodId flow := by
    intro verified principalId methodId flow hadvisory hgate hb
    unfold Db.Bound at hb ⊢
    cases hflow : flow.binds with
    | true =>
      rw [hflow, if_pos rfl] at hb
      exact hframe.unbound _ hadvisory hb
    | false =>
      rw [hflow] at hb
      exact hframe.row _ hb hgate
  cases stage with
  | idle | done => trivial
  | locked principalId => exact hframe.gate _ h
  | asserted | screened | discovered | unbound => exact hframe.advisory _ h
  | initiating | attaching | found => exact ⟨hframe.advisory _ h.1, hframe.gate _ h.2⟩
  | resolved verified principalId methodId flow =>
    obtain ⟨hadvisory, hgate, hb⟩ := h
    exact ⟨hframe.advisory _ hadvisory, hframe.gate _ hgate, hbound _ _ _ _ hadvisory hgate hb⟩
  | claimed verified principalId methodId flow =>
    obtain ⟨hadvisory, hgate, hb, hclaim, hfree, hsession, hsubject⟩ := h
    obtain ⟨hfree', hsession'⟩ := hframe.session _ _ _ hclaim hgate hfree hsession
    refine ⟨hframe.advisory _ hadvisory, hframe.gate _ hgate, hbound _ _ _ _ hadvisory hgate hb,
      hframe.claims _ hclaim, hfree', hsession', hframe.subject _ hadvisory hsubject ?_⟩
    unfold Db.Bound at hb
    cases hflow : flow.binds with
    | true =>
      rw [hflow, if_pos rfl] at hb
      exact .inl hb
    | false =>
      rw [hflow] at hb
      exact .inr ⟨_, hb, rfl, hgate⟩

theorem Frame.refl (db : Db) (task : Nat) : Frame db db task :=
  ⟨fun _ h => h, fun _ h => h, fun _ h => h, fun _ _ h => h, fun _ h _ => h, fun _ _ _ _ _ h h' => ⟨h, h'⟩,
    fun _ _ h _ => h⟩

theorem Frame.goto (h : Frame db db' i) (task : Nat) (stage : Stage) : Frame db (db'.goto task stage) i :=
  ⟨h.gate, h.advisory, h.claims, h.unbound, h.row, h.session, h.subject⟩

theorem Frame.finish (h : Frame db db' i) (hne : i ≠ task) : Frame db (db'.finish task) i := by
  have hkeeps : ∀ holder : Option Nat, holder = some i → (if holder = some task then none else holder) = some i := by
    rintro _ rfl
    rw [if_neg fun he => hne (Option.some.inj he)]
  exact ⟨fun p hp => hkeeps _ (h.gate p hp), fun x hx => hkeeps _ (h.advisory x hx),
    fun s hs => hkeeps _ (h.claims s hs), h.unbound, h.row, h.session, h.subject⟩

theorem Frame.tables (db : Db) (task : Nat) (principals : Nat → Option Principal) (methods : Nat → Option Method) :
    Frame db { db with principals, methods } task :=
  ⟨fun _ h => h, fun _ h => h, fun _ h => h, fun _ _ h => h, fun _ h _ => h, fun _ _ _ _ _ h h' => ⟨h, h'⟩,
    fun _ _ h _ => h⟩

theorem update_taken {α : Type} [DecidableEq α] (locks : α → Option Nat) (key : α) (task : Nat) :
    update locks key (some task) key = some task := update_self key (some task) locks

theorem update_free {α : Type} [DecidableEq α] {locks : α → Option Nat} {key : α}
    (hfree : locks key = none) (task : Nat) (other : α) (h : locks other = some i) :
    update locks key (some task) other = some i := by
  have hother : other ≠ key := by
    rintro rfl
    exact nomatch hfree.symm.trans h
  exact (update_of_ne hother (some task) locks).trans h

theorem Frame.takeGate (hfree : db.gate principalId = none) (task i : Nat) :
    Frame db (db.takeGate task principalId) i :=
  ⟨update_free hfree task, fun _ h => h, fun _ h => h, fun _ _ h => h, fun _ h _ => h,
    fun _ _ _ _ _ h h' => ⟨h, h'⟩, fun _ _ h _ => h⟩

theorem Frame.takeSubject {subject : String} (hfree : db.advisory subject = none) (task i : Nat) :
    Frame db (db.takeSubject task subject) i :=
  ⟨fun _ h => h, update_free hfree task, fun _ h => h, fun _ _ h => h, fun _ h _ => h,
    fun _ _ _ _ _ h h' => ⟨h, h'⟩, fun _ _ h _ => h⟩

theorem Frame.takeClaim (hfree : db.claims sessionId = none) (task i : Nat) :
    Frame db (db.takeClaim task sessionId) i :=
  ⟨fun _ h => h, fun _ h => h, update_free hfree task, fun _ _ h => h, fun _ h _ => h,
    fun _ _ _ _ _ h h' => ⟨h, h'⟩, fun _ _ h _ => h⟩

/-- A task takes a step that the others bear. -/
theorem Ok.goto (h : Ok db) (stage : Stage) (hstages : db'.stages = db.stages)
    (htables : Tables db') (hframe : ∀ i ≠ task, Frame db db' i) (hbears : db'.Bears task stage) :
    Ok (db'.goto task stage) := by
  refine ⟨⟨htables.subjects, htables.methodIds, htables.owned, htables.buried⟩, fun i => ?_⟩
  show (db'.goto task stage).Bears i (update db'.stages task stage i)
  rw [hstages]
  by_cases hi : i = task
  · rw [hi, update_self]
    exact ((Frame.refl db' task).goto task stage).bears hbears
  · rw [update_of_ne hi]
    exact ((hframe i hi).goto task stage).bears (h.bears i)

/-- A task ends with a change that the others bear. -/
theorem Ok.finish (h : Ok db) (hstages : db'.stages = db.stages) (htables : Tables db')
    (hframe : ∀ i ≠ task, Frame db db' i) : Ok (db'.finish task) := by
  refine ⟨⟨htables.subjects, htables.methodIds, htables.owned, htables.buried⟩, fun i => ?_⟩
  show (db'.finish task).Bears i (update db'.stages task .done i)
  rw [hstages]
  by_cases hi : i = task
  · rw [hi, update_self]
    trivial
  · rw [update_of_ne hi]
    exact ((hframe i hi).finish hi).bears (h.bears i)

/-! ## The tables change -/

/-- Each method stays its member's, and of its kind. -/
def KeepsMethods (methods methods' : Nat → Option Method) : Prop :=
  ∀ methodId method, methods methodId = some method → ∃ method', methods' methodId = some method' ∧
    method'.principalId = method.principalId ∧ method'.kind = method.kind

theorem keepsMethods_new (habsent : methods methodId = none) (method : Method) : KeepsMethods methods (update methods methodId (some method)) := by
  intro other method' hother
  have hne : other ≠ methodId := by
    rintro rfl
    exact nomatch habsent.symm.trans hother
  exact ⟨method', (update_of_ne hne _ methods).trans hother, rfl, rfl⟩

theorem keepsMethods_update {method' : Method} (hfound : methods methodId = some method)
    (howner : method'.principalId = method.principalId) (hkind : method'.kind = method.kind) :
    KeepsMethods methods (update methods methodId (some method')) := by
  intro other found hother
  by_cases hne : other = methodId
  · rw [hne] at hother ⊢
    have hsame : found = method := Option.some.inj (hother.symm.trans hfound)
    rw [hsame]
    exact ⟨method', update_self methodId (some method') methods, howner, hkind⟩
  · exact ⟨found, (update_of_ne hne _ methods).trans hother, rfl, rfl⟩

theorem keepsMethods_disable (methods : Nat → Option Method) (principalId : Nat) :
    KeepsMethods methods fun methodId => (methods methodId).map fun method : Method =>
      if method.principalId = principalId then { method with active := false } else method := by
  intro methodId method hfound
  refine ⟨if method.principalId = principalId then { method with active := false } else method,
    congrArg (Option.map _) hfound, ?_⟩
  by_cases howner : method.principalId = principalId
  · rw [if_pos howner]
    exact ⟨rfl, rfl⟩
  · rw [if_neg howner]
    exact ⟨rfl, rfl⟩

/-- The bindings do not change. -/
theorem Tables.keep (h : Tables db) (hidentities : db'.identities = db.identities)
    (hmethods : KeepsMethods db.methods db'.methods)
    (hsubjects : db'.subjectTombstones = db.subjectTombstones) :
    Tables db' := by
  refine ⟨?_, ?_, fun row hrow => ?_, fun row hrow => ?_⟩
  · rw [hidentities]
    exact h.subjects
  · rw [hidentities]
    exact h.methodIds
  · rw [hidentities] at hrow
    obtain ⟨method, hfound, howner, hkind⟩ := h.owned row hrow
    obtain ⟨method', hfound', howner', hkind'⟩ := hmethods _ _ hfound
    exact ⟨method', hfound', howner'.trans howner, hkind'.trans hkind⟩
  · rw [hidentities] at hrow
    rw [hsubjects]
    exact h.buried row hrow

theorem gates_differ {p q : Nat} (hne : i ≠ task) (hp : db.gate p = some task)
    (hq : db.gate q = some i) : q ≠ p := by
  rintro rfl
  exact hne (Option.some.inj (hq.symm.trans hp))

/-- A method is disabled under its member's gate. -/
theorem Frame.disableMethod (hgate : db.gate method.principalId = some task) (hne : i ≠ task) :
    Frame db (db.disableMethod methodId method) i := by
  refine ⟨fun _ h => h, fun _ h => h, fun _ h => h, fun _ _ h => h, fun _ h _ => h, ?_, fun _ _ h _ => h⟩
  intro verified principalId other hclaim hother hfree hnone
  have hp : principalId ≠ method.principalId := gates_differ hne hgate hother
  unfold Db.Claimable Db.disableMethod
  rcases hfree with habsent | hrow
  · simp only [habsent, Option.map_none, Option.any_none, Bool.false_eq_true, if_false, hnone, true_or, and_self]
  · have hsame : ¬ (other = methodId ∧ principalId = method.principalId ∧ method.kind = .workos) := fun hc => hp hc.2.1
    simp only [hrow, Option.map_some, Option.any_some, hsame, if_false, decide_false, Bool.and_false,
      Bool.false_eq_true, hnone, or_true, and_self]

/-- A provider session is ended under its member's gate. -/
theorem Frame.logout {row : ProviderSession} (hfound : db.providerSessions sessionId = some row)
    (hgate : db.gate row.principalId = some task) (hne : i ≠ task) : Frame db (db.logout sessionId row) i := by
  refine ⟨fun _ h => h, fun _ h => h, fun _ h => h, fun _ _ h => h, fun _ h _ => h, ?_, fun _ _ h _ => h⟩
  intro verified principalId other hclaim hother hfree hnone
  have hp : principalId ≠ row.principalId := gates_differ hne hgate hother
  have hsession : verified.sessionId ≠ sessionId := by
    rintro rfl
    rcases hfree with habsent | hrow
    · exact nomatch habsent.symm.trans hfound
    · have hsame : row = ⟨verified.subject, principalId, other, true⟩ := Option.some.inj (hfound.symm.trans hrow)
      rw [hsame] at hp
      exact hp rfl
  unfold Db.Claimable Db.logout
  simp only [update_of_ne hsession]
  exact ⟨hfree, hnone⟩

/-- The erasure of a member is finalised under its gate. -/
theorem Frame.finaliseErasure (h : Tables db) (hgate : db.gate principalId = some task) (hne : i ≠ task) :
    Frame db (db.finaliseErasure principalId) i := by
  refine ⟨fun _ h => h, fun _ h => h, fun _ h => h, ?_, ?_, ?_, ?_⟩
  · intro subject _ hunbound row hrow
    exact hunbound row (List.mem_of_mem_filter hrow)
  · intro row hrow hother
    exact List.mem_filter.mpr ⟨hrow, decide_eq_true (gates_differ hne hgate hother)⟩
  · intro verified other methodId hclaim hother hfree hnone
    have hp : (other == principalId) = false := beq_eq_false_iff_ne.mpr (gates_differ hne hgate hother)
    unfold Db.Claimable Db.finaliseErasure
    rcases hfree with habsent | hrow
    · simp only [habsent, Option.any_none, Bool.false_eq_true, if_false, hnone, true_or, and_self]
    · simp only [hrow, Option.any_some, hp, Bool.false_eq_true, if_false, hnone, or_true, and_self]
  · intro subject _ hclear hbound
    show (db.subjectTombstones subject ||
      db.identities.any fun row => row.subject == subject && row.principalId == principalId) = false
    rw [hclear, Bool.false_or, List.any_eq_false]
    intro row hrow hdoomed
    simp only [Bool.and_eq_true, beq_iff_eq] at hdoomed
    rcases hbound with hunbound | ⟨own, hown, hsubject, hgate'⟩
    · exact hunbound row hrow hdoomed.1
    · have hsame : row = own := h.unique hrow hown (hdoomed.1.trans hsubject.symm)
      rw [← hsame] at hgate'
      exact gates_differ hne hgate hgate' hdoomed.2

theorem Tables.finaliseErasure (h : Tables db) (principalId : Nat) :
    Tables (db.finaliseErasure principalId) := by
  have hsub : (db.identities.filter fun row => row.principalId ≠ principalId).Sublist db.identities :=
    List.filter_sublist
  refine ⟨h.subjects.sublist (hsub.map _), h.methodIds.sublist (hsub.map _), fun row hrow => ?_, fun row hrow => ?_⟩
  · obtain ⟨method, hfound, howner, hkind⟩ := h.owned row (List.mem_of_mem_filter hrow)
    obtain ⟨method', hfound', howner', hkind'⟩ := keepsMethods_disable db.methods principalId _ _ hfound
    exact ⟨method', hfound', howner'.trans howner, hkind'.trans hkind⟩
  · obtain ⟨hmem, hkept⟩ := List.mem_filter.mp hrow
    show (db.subjectTombstones row.subject ||
      db.identities.any fun other => other.subject == row.subject && other.principalId == principalId) = false
    rw [h.buried row hmem, Bool.false_or, List.any_eq_false]
    intro other hother hdoomed
    simp only [Bool.and_eq_true, beq_iff_eq] at hdoomed
    rw [h.unique hother hmem hdoomed.1] at hdoomed
    exact of_decide_eq_true hkept hdoomed.2

/-- A task commits what it has claimed. -/
theorem Frame.commit (hbears : db.Bears task (.claimed verified principalId methodId flow)) (hne : i ≠ task) :
    Frame db (db.commit verified principalId methodId flow) i := by
  obtain ⟨hadvisory, hgate, -, hclaim, -⟩ := hbears
  have hrows : ∀ row ∈ db.identities, row ∈ (db.commit verified principalId methodId flow).identities := by
    intro row hrow
    show row ∈ if flow.binds then _ :: db.identities else db.identities
    cases flow.binds with
    | true => exact List.mem_cons_of_mem _ hrow
    | false => exact hrow
  refine ⟨fun _ h => h, fun _ h => h, fun _ h => h, ?_, fun row hrow _ => hrows row hrow, ?_, fun _ _ h _ => h⟩
  · intro subject hother hunbound row hrow
    have hsubject : verified.subject ≠ subject := by
      rintro rfl
      exact hne (Option.some.inj (hother.symm.trans hadvisory))
    have hrow' : row ∈ if flow.binds then ⟨verified.subject, principalId, methodId⟩ :: db.identities
      else db.identities := hrow
    cases hflow : flow.binds with
    | true =>
      rw [hflow, if_pos rfl] at hrow'
      rcases List.mem_cons.mp hrow' with rfl | hold
      · exact hsubject
      · exact hunbound row hold
    | false =>
      rw [hflow] at hrow'
      exact hunbound row hrow'
  · intro other p m hother _ hfree hnone
    have hsession : other.sessionId ≠ verified.sessionId := by
      intro hsame
      rw [hsame] at hother
      exact hne (Option.some.inj (hother.symm.trans hclaim))
    refine ⟨?_, ?_⟩
    · unfold Db.Claimable Db.commit
      simp only [update_of_ne hsession]
      exact hfree
    · show (if flow.ends then update db.sessionTombstones verified.sessionId (some .linkCompleted)
        else db.sessionTombstones) other.sessionId = none
      cases flow.ends with
      | true => exact (update_of_ne hsession _ db.sessionTombstones).trans hnone
      | false => exact hnone

/-- The methods stay when a binding is written of a new method, or relied on. -/
theorem Tables.commit_methods (h : Tables db)
    (hbears : db.Bears task (.claimed verified principalId methodId flow))
    (hnew : flow.binds = true → db.methods methodId = none) :
    KeepsMethods db.methods (db.commit verified principalId methodId flow).methods := by
  obtain ⟨-, -, hbound, -⟩ := hbears
  cases flow with
  | signIn => exact fun _ method hfound => ⟨method, hfound, rfl, rfl⟩
  | admission | link => exact keepsMethods_new (hnew rfl) _
  | relink =>
    obtain ⟨method, hfound, howner, hkind⟩ := h.owned _ hbound
    exact keepsMethods_update hfound howner.symm hkind.symm

theorem Tables.commit (h : Tables db) (hbears : db.Bears task (.claimed verified principalId methodId flow))
    (hnew : flow.binds = true → db.methods methodId = none) :
    Tables (db.commit verified principalId methodId flow) := by
  have hmethods := h.commit_methods hbears hnew
  obtain ⟨-, -, hbound, -, -, -, hclear⟩ := hbears
  cases hflow : flow.binds with
  | false =>
    refine h.keep ?_ hmethods rfl
    show (if flow.binds then _ else db.identities) = db.identities
    rw [hflow]
    rfl
  | true =>
    have habsent : db.methods methodId = none := hnew hflow
    have hunbound : db.Unbound verified.subject := by
      unfold Db.Bound at hbound
      rw [hflow, if_pos rfl] at hbound
      exact hbound
    have hidentities : (db.commit verified principalId methodId flow).identities =
        ⟨verified.subject, principalId, methodId⟩ :: db.identities := by
      show (if flow.binds then _ else db.identities) = _
      rw [hflow]
      rfl
    have hwritten : (db.commit verified principalId methodId flow).methods methodId =
        some ⟨principalId, .workos, true⟩ := by
      have hsignIn : flow ≠ .signIn := by
        rintro rfl
        exact nomatch hflow
      show (if flow = .signIn then db.methods else _) methodId = _
      rw [if_neg hsignIn]
      exact update_self methodId _ db.methods
    refine ⟨?_, ?_, fun row hrow => ?_, fun row hrow => ?_⟩
    · rw [hidentities, List.map_cons, List.nodup_cons]
      refine ⟨fun hmem => ?_, h.subjects⟩
      obtain ⟨row, hrow, hsame⟩ := List.mem_map.mp hmem
      exact hunbound row hrow hsame
    · rw [hidentities, List.map_cons, List.nodup_cons]
      refine ⟨fun hmem => ?_, h.methodIds⟩
      obtain ⟨row, hrow, hsame⟩ := List.mem_map.mp hmem
      obtain ⟨method, hfound, -⟩ := h.owned row hrow
      rw [hsame] at hfound
      exact nomatch habsent.symm.trans hfound
    · rw [hidentities] at hrow
      rcases List.mem_cons.mp hrow with rfl | hold
      · exact ⟨_, hwritten, rfl, rfl⟩
      · obtain ⟨method, hfound, howner, hkind⟩ := h.owned row hold
        obtain ⟨method', hfound', howner', hkind'⟩ := hmethods _ _ hfound
        exact ⟨method', hfound', howner'.trans howner, hkind'.trans hkind⟩
    · rw [hidentities] at hrow
      rcases List.mem_cons.mp hrow with rfl | hold
      · exact hclear
      · exact h.buried row hold

/-! ## Steps and runs -/

theorem stage_bears (h : Ok db) (hstage : db.stages task = stage) : db.Bears task stage := by
  have hbears : db.Bears task (db.stages task) := h.bears task
  rw [hstage] at hbears
  exact hbears

theorem Ok.change (h : Ok db) (task : Nat) (principals : Nat → Option Principal)
    (hmethods : KeepsMethods db.methods methods) :
    Ok ({ db with principals, methods }.finish task) :=
  h.finish rfl (h.toTables.keep rfl hmethods rfl) fun i _ => Frame.tables db i principals methods

theorem Ok.advance (h : Ok db) (hbears : db.Bears task stage) : Ok (db.goto task stage) :=
  h.goto stage rfl h.toTables (fun i _ => Frame.refl db i) hbears

theorem Ok.gated (h : Ok db) (hfree : db.gate principalId = none)
    (hbears : (db.takeGate task principalId).gate principalId = some task → (db.takeGate task principalId).Bears task stage) :
    Ok ((db.takeGate task principalId).goto task stage) := by
  have hheld : (db.takeGate task principalId).gate principalId = some task :=
    update_taken db.gate principalId task
  exact h.goto stage rfl ⟨h.subjects, h.methodIds, h.owned, h.buried⟩ (fun i _ => Frame.takeGate hfree task i)
    (hbears hheld)

theorem keepsMethods_refl (methods : Nat → Option Method) : KeepsMethods methods methods :=
  fun _ method hfound => ⟨method, hfound, rfl, rfl⟩

/-- Every step keeps the invariant. -/
theorem Step.ok (hstep : Step db act db') (h : Ok db) : Ok db' := by
  cases hstep with
  | lock idle principalId free => exact h.gated free fun hheld => hheld
  | ensurePrincipal stage absent => exact h.change _ _ (keepsMethods_refl db.methods)
  | createMethod stage active methodId kind other absent => exact h.change _ db.principals (keepsMethods_new absent _)
  | enableAccount stage active found owner classic | disableAccount stage active found owner classic =>
    exact h.change _ db.principals (keepsMethods_update found rfl rfl)
  | disableMethod stage active found owner enabled otherActive unsealed =>
    have hgate : db.Bears _ (.locked _) := stage_bears h stage
    rw [← owner] at hgate
    exact h.finish rfl (h.toTables.keep rfl (keepsMethods_update found rfl rfl) rfl)
      fun i hi => Frame.disableMethod hgate hi
  | requestErasure stage active => exact h.change _ _ (keepsMethods_disable db.methods _)
  | finaliseErasure stage found pending =>
    exact h.finish rfl (h.toTables.finaliseErasure _) fun i hi => Frame.finaliseErasure h.toTables (stage_bears h stage) hi
  | logout stage found owner active unsealed =>
    have hgate : db.Bears _ (.locked _) := stage_bears h stage
    rw [← owner] at hgate
    exact h.finish rfl ⟨h.subjects, h.methodIds, h.owned, h.buried⟩ fun i hi => Frame.logout found hgate hi
  | @assert task idle verified free =>
    have hheld : (db.takeSubject task verified.subject).advisory verified.subject = some task :=
      update_taken db.advisory verified.subject task
    exact h.goto _ rfl ⟨h.subjects, h.methodIds, h.owned, h.buried⟩ (fun i _ => Frame.takeSubject free task i) hheld
  | @screen task verified stage clear =>
    exact h.advance (stage_bears h stage : db.Bears task (.asserted verified))
  | @discover task verified stage row found subject | @discoverNone task verified stage unbound =>
    exact h.advance (stage_bears h stage : db.Bears task (.screened verified))
  | @resolve task principalId methodId verified stage free active method bound =>
    have hadvisory : db.Bears task (.discovered verified principalId methodId) := stage_bears h stage
    exact h.gated free fun hheld => ⟨hadvisory, hheld, bound⟩
  | @refuse task principalId methodId verified stage =>
    exact h.advance (stage_bears h stage : db.Bears task (.discovered verified principalId methodId))
  | @provision task verified stage principalId methodId free newPrincipal newMethod unbound =>
    have hadvisory : db.Bears task (.unbound verified) := stage_bears h stage
    exact h.gated free fun hheld => ⟨hadvisory, hheld, unbound⟩
  | @initiate task verified stage principalId free active =>
    have hadvisory : db.Bears task (.asserted verified) := stage_bears h stage
    exact h.gated free fun hheld => ⟨hadvisory, hheld⟩
  | answerAgain stage reason row bound method
  | stop => exact h.change _ db.principals (keepsMethods_refl db.methods)
  | @attach task principalId verified stage clear =>
    exact h.advance (stage_bears h stage : db.Bears task (.initiating verified principalId))
  | @discoverOwn task principalId verified stage row found subject owner
  | @discoverFree task principalId verified stage unbound =>
    exact h.advance (stage_bears h stage : db.Bears task (.attaching verified principalId))
  | @relink task principalId methodId verified method stage active found owner workos disabled bound =>
    obtain ⟨hadvisory, hgate⟩ : db.Bears task (.found verified principalId (some methodId)) := stage_bears h stage
    exact h.advance ⟨hadvisory, hgate, bound⟩
  | @link task principalId verified stage active methodId newMethod unbound =>
    obtain ⟨hadvisory, hgate⟩ : db.Bears task (.found verified principalId none) := stage_bears h stage
    exact h.advance ⟨hadvisory, hgate, unbound⟩
  | @claim task principalId methodId verified flow stage clear free row =>
    obtain ⟨hadvisory, hgate, hbound⟩ : db.Bears task (.resolved verified principalId methodId flow) :=
      stage_bears h stage
    have hheld : (db.takeClaim task verified.sessionId).claims verified.sessionId = some task :=
      update_taken db.claims verified.sessionId task
    unfold Db.tombstoned at clear
    rw [Bool.or_eq_false_iff, Option.isSome_eq_false_iff, Option.isNone_iff_eq_none] at clear
    exact h.goto _ rfl ⟨h.subjects, h.methodIds, h.owned, h.buried⟩ (fun i _ => Frame.takeClaim free task i)
      ⟨hadvisory, hgate, hbound, hheld, row, clear.1, clear.2⟩
  | commit stage newMethod =>
    have hbears := stage_bears h stage
    exact h.finish rfl (h.toTables.commit hbears newMethod) fun i hi => Frame.commit hbears hi

theorem RunOf.ok {allowed : Act → Prop} (hrun : RunOf allowed db db') (h : Ok db) : Ok db' := by
  induction hrun with
  | refl => exact h
  | tail _ hstep ih =>
    obtain ⟨act, -, hact⟩ := hstep
    exact hact.ok ih

/-! ## Tombstones are for good -/

/-- Tombstones stay, and bindings stay or are tombstoned. -/
structure Buries (db db' : Db) : Prop where
  sessions : ∀ sessionId reason, db.sessionTombstones sessionId = some reason →
    db'.sessionTombstones sessionId = some reason
  subjects : ∀ subject, db.subjectTombstones subject = true → db'.subjectTombstones subject = true
  bindings : ∀ row ∈ db.identities, row ∈ db'.identities ∨ db'.subjectTombstones row.subject = true

theorem Buries.refl (db : Db) : Buries db db :=
  ⟨fun _ _ h => h, fun _ h => h, fun _ h => .inl h⟩

theorem Buries.trans {a b c : Db} (hab : Buries a b) (hbc : Buries b c) : Buries a c where
  sessions sessionId reason h := hbc.sessions _ _ (hab.sessions _ _ h)
  subjects subject h := hbc.subjects _ (hab.subjects _ h)
  bindings row hrow := by
    rcases hab.bindings row hrow with hkept | hburied
    · exact hbc.bindings row hkept
    · exact .inr (hbc.subjects _ hburied)

theorem update_tombstone {tombstones : String → Option Reason} (hnone : tombstones sessionId = none)
    (reason : Reason) (other : String) {old : Reason} (hold : tombstones other = some old) : update tombstones sessionId (some reason) other = some old := by
  have hne : other ≠ sessionId := by
    rintro rfl
    exact nomatch hnone.symm.trans hold
  exact (update_of_ne hne _ tombstones).trans hold

theorem Step.buries (hstep : Step db act db') (h : Ok db) : Buries db db' := by
  cases hstep with
  | @disableMethod task principalId methodId method stage active found owner enabled otherActive unsealed =>
    refine ⟨fun sessionId reason hold => ?_, fun _ hs => hs, fun _ hrow => .inl hrow⟩
    show (if (db.providerSessions sessionId).any _ then _ else db.sessionTombstones sessionId) = some reason
    by_cases hsealed : ((db.providerSessions sessionId).any fun row => row.active &&
        decide (row.methodId = methodId ∧ row.principalId = method.principalId ∧ method.kind = .workos)) = true
    · obtain ⟨row, hrow, hcondition⟩ := (Option.any_eq_true _ _).mp hsealed
      simp only [Bool.and_eq_true, decide_eq_true_eq] at hcondition
      obtain ⟨hactive, hmethod, howner, hkind⟩ := hcondition
      exact nomatch (unsealed sessionId row hrow hactive hmethod (howner.trans owner) hkind).symm.trans hold
    · rw [if_neg hsealed]
      exact hold
  | @finaliseErasure task principalId principal stage found pending =>
    refine ⟨fun sessionId reason hold => ?_, fun subject hs => ?_, fun row hrow => ?_⟩
    · show (if _ then db.sessionTombstones sessionId <|> _ else db.sessionTombstones sessionId) = some reason
      rw [hold]
      exact ite_self _
    · show (db.subjectTombstones subject || _) = true
      rw [hs]
      rfl
    · by_cases howner : row.principalId = principalId
      · right
        show (db.subjectTombstones row.subject || db.identities.any _) = true
        rw [Bool.or_eq_true, List.any_eq_true]
        exact .inr ⟨row, hrow, by simp only [howner, beq_self_eq_true, Bool.and_self]⟩
      · exact .inl (List.mem_filter.mpr ⟨hrow, decide_eq_true howner⟩)
  | logout stage found owner active unsealed =>
    exact ⟨fun other reason hold => update_tombstone unsealed _ other hold, fun _ hs => hs, fun _ hrow => .inl hrow⟩
  | @commit task principalId methodId verified flow stage newMethod =>
    obtain ⟨-, -, -, -, -, hnone, -⟩ := stage_bears h stage
    refine ⟨fun other reason hold => ?_, fun _ hs => hs, fun row hrow => .inl ?_⟩
    · show (if flow.ends then update db.sessionTombstones verified.sessionId (some .linkCompleted)
        else db.sessionTombstones) other = some reason
      cases flow.ends with
      | true => exact update_tombstone hnone _ other hold
      | false => exact hold
    · show row ∈ if flow.binds then _ :: db.identities else db.identities
      cases flow.binds with
      | true => exact List.mem_cons_of_mem _ hrow
      | false => exact hrow
  | _ => exact ⟨fun _ _ hold => hold, fun _ hs => hs, fun _ hrow => .inl hrow⟩

theorem RunOf.buries {allowed : Act → Prop} (hrun : RunOf allowed db db') (h : Ok db) : Buries db db' := by
  induction hrun with
  | refl => exact .refl db
  | tail hprefix hstep ih =>
    obtain ⟨act, -, hact⟩ := hstep
    exact ih.trans (hact.buries (RunOf.ok hprefix h))

theorem Step.accepts (h : Ok db) (hstep : Step db (.accept verified flow) db') : db.tombstoned verified = false := by
  cases hstep with
  | commit stage newMethod =>
    obtain ⟨-, -, -, -, -, hnone, hclear⟩ := stage_bears h stage
    unfold Db.tombstoned
    rw [hnone, hclear]
    rfl

theorem Step.answersAgain (h : Ok db) (hstep : Step db (.answerAgain verified) db') :
    db.subjectTombstones verified.subject = false ∧
      db.sessionTombstones verified.sessionId = some .linkCompleted := by
  cases hstep with
  | answerAgain stage reason row bound method => exact ⟨h.buried _ bound, reason⟩

/-! ## Active methods -/

/-- A member has an active method. -/
def Db.HasMethod (db : Db) (principalId : Nat) : Prop :=
  ∃ methodId method, db.methods methodId = some method ∧ method.principalId = principalId ∧ method.active = true

/-- A member's active method stays when one is written that is not the member's, or is active. -/
theorem Db.HasMethod.update (h : db.HasMethod principalId)
    (hmethods : db'.methods = update db.methods methodId (some method))
    (hkeeps : ∀ old, db.methods methodId = some old → old.principalId = principalId → method.principalId = principalId ∧ method.active = true) : db'.HasMethod principalId := by
  obtain ⟨other, found, hfound, howner, hactive⟩ := h
  by_cases hother : other = methodId
  · rw [hother] at hfound
    obtain ⟨howner', hactive'⟩ := hkeeps found hfound howner
    refine ⟨methodId, method, ?_, howner', hactive'⟩
    rw [hmethods, update_self]
  · refine ⟨other, found, ?_, howner, hactive⟩
    rw [hmethods, update_of_ne hother]
    exact hfound

/-- The methods of the other members stay when those of one are disabled. -/
theorem Db.HasMethod.disableOthers {other : Nat} (h : db.HasMethod principalId)
    (hother : principalId ≠ other) (hmethods : db'.methods = (db.requestErasure other).methods) :
    db'.HasMethod principalId := by
  obtain ⟨methodId, method, hfound, howner, hactive⟩ := h
  refine ⟨methodId, method, ?_, howner, hactive⟩
  have hkept : method.principalId ≠ other := fun he => hother (howner.symm.trans he)
  rw [hmethods]
  show (db.methods methodId).map _ = some method
  rw [hfound, Option.map_some, if_neg hkept]

theorem not_active_requestErasure (db : Db) (principalId : Nat) :
    (db.requestErasure principalId).active principalId = false := by
  show (update db.principals principalId (some ⟨false, false⟩) principalId).any (·.requireActive) = false
  rw [update_self]
  rfl

/-- One step keeps an active method of an active member, unless an administrator disables its account. -/
theorem Step.keepsMethod (hstep : Step db act db') (h : Ok db)
    (hact : act ≠ .disableAccount principalId) (hmethod : db.HasMethod principalId)
    (hactive : db'.active principalId = true) : db'.HasMethod principalId := by
  cases hstep with
  | createMethod stage active methodId kind other absent =>
    exact hmethod.update rfl fun old hold _ => nomatch absent.symm.trans hold
  | enableAccount stage active found owner classic =>
    refine hmethod.update rfl fun old hold howner => ⟨?_, rfl⟩
    rw [Option.some.inj (hold.symm.trans found)] at howner
    exact howner
  | disableAccount stage active found owner classic =>
    refine hmethod.update rfl fun old hold howner => absurd ?_ hact
    rw [Option.some.inj (hold.symm.trans found)] at howner
    rw [← owner, howner]
  | @disableMethod task other methodId method stage active found owner enabled otherActive unsealed =>
    by_cases hother : principalId = other
    · obtain ⟨kept, hne, method', hfound', howner', hactive'⟩ := otherActive
      exact ⟨kept, method', (update_of_ne hne _ db.methods).trans hfound', howner'.trans hother.symm, hactive'⟩
    · refine hmethod.update rfl fun old hold howner => absurd ?_ hother
      rw [Option.some.inj (hold.symm.trans found)] at howner
      exact howner.symm.trans owner
  | @requestErasure task other stage active | @finaliseErasure task other principal stage found pending =>
    have hother : principalId ≠ other := by
      rintro rfl
      exact nomatch (not_active_requestErasure db principalId).symm.trans hactive
    exact hmethod.disableOthers hother rfl
  | @commit task other methodId verified flow stage newMethod =>
    have hbears := stage_bears h stage
    cases flow with
    | signIn => exact hmethod
    | admission | link => exact hmethod.update rfl fun old hold _ => nomatch (newMethod rfl).symm.trans hold
    | relink =>
      obtain ⟨-, -, hbound, -⟩ := hbears
      obtain ⟨method, hfound, howner, -⟩ := h.owned _ hbound
      refine hmethod.update rfl fun old hold hold' => ⟨?_, rfl⟩
      rw [Option.some.inj (hold.symm.trans hfound)] at hold'
      exact howner.symm.trans hold'
  | _ => exact hmethod

/-- A member stays in the table. -/
theorem Step.keepsPrincipal (hstep : Step db act db') (h : db.principals principalId ≠ none) : db'.principals principalId ≠ none := by
  have hupdate : ∀ other value, update db.principals other (some value) principalId ≠ none := by
    intro other value
    by_cases hother : principalId = other
    · rw [hother, update_self]
      exact Option.some_ne_none value
    · rw [update_of_ne hother]
      exact h
  cases hstep with
  | ensurePrincipal stage absent => exact hupdate _ _
  | requestErasure stage active => exact hupdate _ _
  | finaliseErasure stage found pending => exact hupdate _ _
  | @commit task other methodId verified flow stage newMethod =>
    show (if flow = .admission then _ else db.principals) principalId ≠ none
    by_cases hflow : flow = .admission
    · rw [if_pos hflow]
      exact hupdate _ _
    · rw [if_neg hflow]
      exact h
  | _ => exact h

theorem active_update {principals : Nat → Option Principal} {other : Nat}
    (hother : principalId ≠ other) (principal : Principal) : (update principals other (some principal) principalId).any (·.requireActive) =
      (principals principalId).any (·.requireActive) := by
  rw [update_of_ne hother]

/-- A member that is active after a step was so before it, or has got a method. -/
theorem Step.wasActive (hstep : Step db act db') (hexists : db.principals principalId ≠ none)
    (hactive : db'.active principalId = true) :
    db.active principalId = true ∨ db'.HasMethod principalId := by
  cases hstep with
  | @ensurePrincipal task other stage absent =>
    have hother : principalId ≠ other := by
      rintro rfl
      exact hexists absent
    exact .inl ((active_update hother ⟨true, true⟩).symm.trans hactive)
  | @requestErasure task other stage active | @finaliseErasure task other principal stage found pending =>
    have hother : principalId ≠ other := by
      rintro rfl
      exact nomatch (not_active_requestErasure db principalId).symm.trans hactive
    exact .inl ((active_update hother ⟨false, false⟩).symm.trans hactive)
  | @commit task other methodId verified flow stage newMethod =>
    cases flow with
    | signIn | link | relink => exact .inl hactive
    | admission =>
      by_cases hother : principalId = other
      · exact .inr ⟨methodId, ⟨other, .workos, true⟩, update_self methodId _ db.methods, hother.symm, rfl⟩
      · exact .inl ((active_update hother ⟨true, true⟩).symm.trans hactive)
  | _ => exact .inl hactive

/-- A run keeps an active method of an active member, unless an administrator disables its account. -/
theorem RunOf.keepsMethod (hrun : RunOf (· ≠ .disableAccount principalId) db db') (h : Ok db)
    (hexists : db.principals principalId ≠ none) (hmethod : db.HasMethod principalId) :
    db'.principals principalId ≠ none ∧ (db'.active principalId = true → db'.HasMethod principalId) := by
  induction hrun with
  | refl => exact ⟨hexists, fun _ => hmethod⟩
  | tail hprefix hstep ih =>
    obtain ⟨act, hact, hlast⟩ := hstep
    obtain ⟨hexists', hkept⟩ := ih
    refine ⟨hlast.keepsPrincipal hexists', fun hactive => ?_⟩
    rcases hlast.wasActive hexists' hactive with hwas | hgot
    · exact hlast.keepsMethod (RunOf.ok hprefix h) hact (hkept hwas) hactive
    · exact hgot

/-! ## The identities are lawful -/

/-- What is lawful of the identities of a store, and of what becomes of them from there on. -/
structure Lawful (db : Db) : Prop where
  /-- A subject has one binding, and a method is of one. -/
  one_binding : ∀ a ∈ db.identities, ∀ b ∈ db.identities, a.subject = b.subject ∨ a.methodId = b.methodId → a = b
  /-- A binding is of a WorkOS method of its member. -/
  owned : ∀ row ∈ db.identities, ∃ method, db.methods row.methodId = some method ∧
    method.principalId = row.principalId ∧ method.kind = .workos
  /-- A binding that there was is the only one that its subject ever has. -/
  never_moves : ∀ {later}, Run db later → ∀ row ∈ db.identities, ∀ row' ∈ later.identities,
    row'.subject = row.subject → row' = row
  /-- What is tombstoned is accepted by no sign-in, admission or link. -/
  tombstoned : ∀ {later after verified flow}, db.tombstoned verified = true → Run db later →
    ¬ Step later (.accept verified flow) after
  /-- Nor is a link answered once more, but one that has itself ended its provider session. -/
  answered : ∀ {later after verified}, db.subjectTombstones verified.subject = true ∨
    (∃ reason ≠ .linkCompleted, db.sessionTombstones verified.sessionId = some reason) → Run db later →
    ¬ Step later (.answerAgain verified) after
  /-- An active member keeps an active method, unless an administrator disables its account. -/
  keeps_method : ∀ {later principalId}, RunOf (· ≠ .disableAccount principalId) db later →
    db.active principalId = true → db.HasMethod principalId → later.active principalId = true →
    later.HasMethod principalId

/-- In every run the identities are lawful. -/
theorem identities_lawful {db : Db} (hrun : Run {} db) : Lawful db := by
  have hok : Ok db := RunOf.ok hrun .empty
  refine ⟨?_, hok.owned, ?_, ?_, ?_, ?_⟩
  · rintro a ha b hb (hsubject | hmethod)
    · exact hok.unique ha hb hsubject
    · exact List.inj_on_of_nodup_map hok.methodIds ha hb hmethod
  · intro later hlater row hrow row' hrow' hsubject
    have hok' : Ok later := RunOf.ok hlater hok
    rcases (RunOf.buries hlater hok).bindings row hrow with hkept | hburied
    · exact hok'.unique hrow' hkept hsubject
    · rw [← hsubject, hok'.buried row' hrow'] at hburied
      exact nomatch hburied
  · intro later after verified flow htombstoned hlater hstep
    have hclear : later.tombstoned verified = false := hstep.accepts (RunOf.ok hlater hok)
    have hburies : Buries db later := RunOf.buries hlater hok
    unfold Db.tombstoned at htombstoned hclear
    rw [Bool.or_eq_false_iff] at hclear
    rcases (Bool.or_eq_true _ _).mp htombstoned with hsession | hsubject
    · obtain ⟨reason, hreason⟩ := Option.isSome_iff_exists.mp hsession
      rw [hburies.sessions _ _ hreason] at hclear
      exact nomatch hclear.1
    · exact nomatch (hburies.subjects _ hsubject).symm.trans hclear.2
  · intro later after verified htombstoned hlater hstep
    obtain ⟨hclear, hended⟩ := hstep.answersAgain (RunOf.ok hlater hok)
    have hburies : Buries db later := RunOf.buries hlater hok
    rcases htombstoned with hsubject | ⟨reason, hreason, hsession⟩
    · exact nomatch (hburies.subjects _ hsubject).symm.trans hclear
    · exact hreason (Option.some.inj ((hburies.sessions _ _ hsession).symm.trans hended))
  · intro later principalId hlater hactive hmethod hactive'
    have hexists : db.principals principalId ≠ none := by
      intro hnone
      unfold Db.active at hactive
      rw [hnone] at hactive
      exact nomatch hactive
    exact (RunOf.keepsMethod hlater hok hexists hmethod).2 hactive'

/-- A new subject is admitted, and the identities are lawful. -/
theorem admitted_lawful : ∃ db, Run {} db ∧ db.identities = [⟨"user", 7, 5⟩] ∧ Lawful db := by
  have hassert : Run {} _ := .single ⟨_, trivial, @Step.assert {} 0 rfl ⟨"user", "session"⟩ rfl⟩
  have hscreen : Run {} _ := hassert.tail ⟨_, trivial, @Step.screen _ 0 ⟨"user", "session"⟩ rfl rfl⟩
  have hdiscover : Run {} _ := hscreen.tail ⟨_, trivial, @Step.discoverNone _ 0 ⟨"user", "session"⟩ rfl
    nofun⟩
  have hprovision : Run {} _ := hdiscover.tail ⟨_, trivial, @Step.provision _ 0 ⟨"user", "session"⟩ rfl 7 5 rfl rfl rfl
    nofun⟩
  have hclaim : Run {} _ := hprovision.tail ⟨_, trivial, @Step.claim _ 0 7 5 ⟨"user", "session"⟩ .admission rfl rfl rfl
    (.inl rfl)⟩
  have hcommit : Run {} _ := hclaim.tail ⟨_, trivial, @Step.commit _ 0 7 5 ⟨"user", "session"⟩ .admission rfl
    fun _ => rfl⟩
  exact ⟨_, hcommit, rfl, identities_lawful hcommit⟩

/-- An administrator disables the account of a member that has no other method: the member stays active, and is
left with none. -/
theorem disabledAccount_leaves_none : ¬ ∀ (db later : Db) (principalId : Nat), Run {} db → Run db later →
    db.active principalId = true → db.HasMethod principalId → later.active principalId = true →
    later.HasMethod principalId := by
  intro hkeeps
  have hlock : Run {} _ := .single ⟨_, trivial, @Step.lock {} 0 rfl 7 rfl⟩
  have hregister : Run {} _ := hlock.tail ⟨_, trivial, @Step.ensurePrincipal _ 0 7 rfl rfl⟩
  have hlock₂ : Run {} _ := hregister.tail ⟨_, trivial, @Step.lock _ 1 rfl 7 rfl⟩
  have hmethod : Run {} _ := hlock₂.tail ⟨_, trivial, @Step.createMethod _ 1 7 rfl rfl 5 .classicPassword
    MethodKind.noConfusion rfl⟩
  obtain ⟨methodId, method, hfound, -, hactive⟩ := hkeeps _ _ 7 hmethod
    (.tail (.single ⟨_, trivial, @Step.lock _ 2 rfl 7 rfl⟩)
      ⟨_, trivial, @Step.disableAccount _ 2 7 5 _ rfl rfl rfl rfl rfl⟩) rfl ⟨5, _, rfl, rfl, rfl⟩ rfl
  by_cases hid : methodId = 5
  · rw [hid] at hfound
    have hsame : method = ⟨7, .classicPassword, false⟩ := (Option.some.inj hfound).symm
    rw [hsame] at hactive
    exact nomatch hactive
  · have hmethods : update (update (fun _ => none) 5 (some ⟨7, .classicPassword, true⟩)) 5
        (some ⟨7, .classicPassword, false⟩) methodId = some method := hfound
    rw [update_of_ne hid, update_of_ne hid] at hmethods
    exact nomatch hmethods

end Fmarch.Identity.ExternalIdentities
