import Mathlib.Algebra.Group.Nat.Defs
import Mathlib.Data.List.Nodup
import Mathlib.Logic.Relation

/-!
# App sessions (`identity/src/session.rs`, `methods.rs`, `member_lifecycle.rs`)

A session authorises while it is not revoked, has expired neither absolutely nor by idleness, its signing key
is not retired, and its member and method are active. It is read without a lock, and a reader may slide its
idle deadline by a compare-and-set of its own later. Issuing and rotating check under the member's cutoff gate
and insert when they commit; disabling a method, deactivating and erasing a member hold the gate too.

**`sessions_lawful`**: in every run, no session that was cut off authorises again; of a rotation chain at most
one session is eligible, and all have the first one's deadline and provenance; and no session authorises when
it has expired, or has not been used for its idle lifetime.

Every clock is read on its own, and may show anything. Where the code takes further locks (the rows of the
sessions, that of a signing key), the steps here may come in any order: a revocation and a retirement need no
gate. What a use of a session is, its creation or an authorisation at a clock, is recorded beside the tables.
-/

namespace Fmarch.Identity.Sessions

open Function (update update_self update_of_ne update_apply)

open Relation

/-! ## Sessions -/

inductive Assurance where
  | password | externalSso | dev | releaseAcceptance
  deriving DecidableEq

inductive MethodKind where
  | classicPassword | workos | releaseAcceptance
  deriving DecidableEq

/-- The assurance that a session of a method has. -/
def MethodKind.assurance : MethodKind → Assurance
  | .classicPassword => .password
  | .workos => .externalSso
  | .releaseAcceptance => .releaseAcceptance

/-- `SessionPolicy`, without the local-proof instance of its process. -/
structure SessionPolicy where
  absoluteTtlSeconds : Nat
  workosAbsoluteTtlSeconds : Nat
  idleTtlSeconds : Nat
  absolute_bounded : 60 ≤ absoluteTtlSeconds ∧ absoluteTtlSeconds ≤ 31536000
  workos_bounded : 60 ≤ workosAbsoluteTtlSeconds ∧ workosAbsoluteTtlSeconds ≤ 86400
  idle_bounded : 60 ≤ idleTtlSeconds ∧ idleTtlSeconds ≤ absoluteTtlSeconds

/-- `i64::saturating_add`, of clocks. -/
def saturatingAdd (a b : Nat) : Nat := min (a + b) (2 ^ 63 - 1)

def SessionPolicy.idleExpiry (policy : SessionPolicy) (now expiresAt : Nat) : Nat :=
  min (saturatingAdd now policy.idleTtlSeconds) expiresAt

/-- `auth_session`, with the session that its rotations began with. -/
structure Session where
  tokenHash : Nat
  principalId : Nat
  createdAt : Nat
  expiresAt : Nat
  revokedAt : Option Nat
  authenticatedViaMethodId : Option Nat
  idleExpiresAt : Nat
  assurance : Assurance
  localProofInstanceId : Option String
  workosSessionId : Option String
  workosSigningKeyId : Option String
  authenticatedAt : Int
  chain : Nat

/-- `authentication_method`. -/
structure Method where
  principalId : Nat
  kind : MethodKind
  active : Bool

/-- `platform_principal.status` and `privacy_subject.lifecycle_state`. -/
structure Principal where
  active : Bool
  subjectActive : Bool

/-- `IdentityMutationOwner::require_active`. -/
def Principal.requireActive (principal : Principal) : Bool := principal.active && principal.subjectActive

/-- The sessions that a statement revokes. -/
inductive Scope where
  /-- The one that logs out. -/
  | session (tokenHash : Nat)
  /-- The one that an administrator revokes. -/
  | unexpired (tokenHash : Nat)
  /-- All of a WorkOS session that logs out. -/
  | providerSession (principalId : Nat) (workosSessionId : String)
  /-- `revoke_sessions_for_principal`. -/
  | principal (principalId : Nat)
  /-- `revoke_sessions_for_method`. -/
  | method (methodId : Nat)
  /-- `revoke_local_proof_sessions_for_startup`. -/
  | localProof

/-- The condition of the statement, but for `revoked_at IS NULL`. -/
def Scope.covers (scope : Scope) (now : Nat) (session : Session) : Bool :=
  match scope with
  | .session tokenHash => session.tokenHash == tokenHash
  | .unexpired tokenHash => session.tokenHash == tokenHash && decide (now < session.expiresAt)
  | .providerSession principalId workosSessionId =>
    session.principalId == principalId && session.workosSessionId == some workosSessionId
  | .principal principalId => session.principalId == principalId && decide (now < session.expiresAt)
  | .method methodId =>
    session.authenticatedViaMethodId == some methodId && decide (now < session.expiresAt)
  | .localProof => session.assurance == .dev

/-- `revoked_at = COALESCE(revoked_at, now)`. -/
def Session.revoke (session : Session) (now : Nat) : Session :=
  { session with revokedAt := session.revokedAt <|> some now }

/-- Revoke the sessions of a scope. -/
def revokeScope (scope : Scope) (now : Nat) (sessions : List Session) : List Session :=
  sessions.map fun session => if scope.covers now session then session.revoke now else session

/-- The compare-and-set of `load_eligible_session`. -/
def slideIdle (tokenHash current next : Nat) (sessions : List Session) : List Session :=
  sessions.map fun session =>
    if session.tokenHash == tokenHash && session.revokedAt.isNone && session.idleExpiresAt == current then
      { session with idleExpiresAt := next }
    else session

/-- `revoke_workos_sessions_for_signing_key`. -/
def revokeSigningKey (signingKeyId : String) (now : Nat) (sessions : List Session) : List Session :=
  sessions.map fun session =>
    if session.assurance == .externalSso && session.workosSigningKeyId == some signingKeyId &&
        decide (now < session.expiresAt) && decide (now < session.idleExpiresAt) then session.revoke now
    else session

/-- What the end of an erasure does to the sessions of its member. -/
def scrubSessions (principalId : Nat) (destroyedAt : Nat) (sessions : List Session) : List Session :=
  sessions.map fun session =>
    if session.principalId == principalId then
      { session.revoke destroyedAt with workosSessionId := none }
    else session

/-! ## The store -/

/-- What a task is at: it holds a member's gate, is about to insert a session, or to slide an idle deadline. -/
inductive Stage where
  | idle
  | locked (principalId : Nat)
  | issuing (session : Session) (revokes : Option Scope) (now : Nat)
  | rotating (previous : Session) (successor : Session) (now : Nat)
  | sliding (tokenHash current next : Nat)
  | done

/-- The tables as they are committed, the gates of the members, the tasks, and the uses of the sessions. -/
structure Db where
  sessions : List Session := []
  methods : Nat → Option Method := fun _ => none
  principals : Nat → Option Principal := fun _ => none
  retiredKeys : String → Bool := fun _ => false
  gate : Nat → Option Nat := fun _ => none
  stages : Nat → Stage := fun _ => .idle
  uses : List (Nat × Nat) := []
  nextToken : Nat := 0

namespace Db

variable (db : Db) (task : Nat)

/-- The task goes on. -/
def goto (stage : Stage) : Db := { db with stages := update db.stages task stage }

/-- The task's transaction ends. -/
def finish : Db :=
  { db with
    gate := fun principalId => if db.gate principalId = some task then none else db.gate principalId
    stages := update db.stages task .done }

/-- A use of a session at a clock. -/
def use (tokenHash now : Nat) : Db := { db with uses := (tokenHash, now) :: db.uses }

/-- Insert a session, which it is a use of. -/
def insert (session : Session) (now : Nat) : Db :=
  { db with sessions := session :: db.sessions, uses := (session.tokenHash, now) :: db.uses }

/-- The method of a session is its member's, active and of its assurance; only a local proof has none. -/
def methodAdmits (session : Session) : Bool :=
  match session.authenticatedViaMethodId with
  | none => session.assurance == .dev
  | some methodId =>
    match db.methods methodId with
    | none => false
    | some method =>
      method.principalId == session.principalId && method.active && session.assurance == method.kind.assurance

end Db

/-- A local proof is of the validating process; a release build has no such instance. -/
def localProofAdmits (instanceId : Option String) (session : Session) : Bool :=
  if session.assurance = .dev then
    match session.localProofInstanceId, instanceId with
    | some stored, some expected => stored == expected
    | _, _ => false
  else session.localProofInstanceId.isNone

/-- Exactly a WorkOS session has a provider session and a signing key. -/
def provenanceOk (session : Session) : Bool :=
  (session.assurance == .externalSso) == session.workosSigningKeyId.isSome &&
    (session.assurance == .externalSso) == session.workosSessionId.isSome

/-- The times that `AuthorizationContext::new` accepts. -/
def validityOk (session : Session) : Bool :=
  decide (session.authenticatedAt ≤ session.createdAt) && decide (session.createdAt < session.expiresAt) &&
    decide (session.idleExpiresAt ≤ session.expiresAt)

/-- `load_eligible_session`, but for the slide. -/
def Db.eligible (db : Db) (instanceId : Option String) (now : Nat) (session : Session) : Bool :=
  session.revokedAt.isNone && decide (now < session.expiresAt) && decide (now < session.idleExpiresAt) &&
    !session.workosSigningKeyId.any db.retiredKeys && (db.principals session.principalId).any (·.active) &&
    localProofAdmits instanceId session && provenanceOk session && db.methodAdmits session && validityOk session

/-- `load_eligible_session` slides a deadline of which more than a quarter has elapsed. -/
def slides (policy : SessionPolicy) (now : Nat) (session : Session) : Bool :=
  decide (policy.idleTtlSeconds / 4 < policy.idleTtlSeconds - (session.idleExpiresAt - now)) &&
    decide (session.idleExpiresAt < policy.idleExpiry now session.expiresAt)

/-- The checks of `issue_session_raw` on a new session, and those of the table. -/
def issuable (session : Session) (now : Nat) : Bool :=
  decide (now < session.expiresAt) && decide (now < session.idleExpiresAt) && provenanceOk session &&
    ((session.assurance == .dev) == session.localProofInstanceId.isSome) && validityOk session

/-- The successor of a rotated session. -/
def Session.successor (session : Session) (policy : SessionPolicy) (instanceId : Option String)
    (tokenHash now : Nat) : Session where
  tokenHash
  principalId := session.principalId
  createdAt := now
  expiresAt := session.expiresAt
  revokedAt := none
  authenticatedViaMethodId := session.authenticatedViaMethodId
  idleExpiresAt := policy.idleExpiry now session.expiresAt
  assurance := session.assurance
  localProofInstanceId := if session.assurance = .dev then instanceId else none
  workosSessionId := session.workosSessionId
  workosSigningKeyId := session.workosSigningKeyId
  authenticatedAt := session.authenticatedAt
  chain := session.chain

/-! ## Steps -/

/-- What a step does to the sessions, for those who watch. -/
inductive Act where
  | other
  | authorise (tokenHash now : Nat)
  | rotate (tokenHash : Nat)
  | revoke (scope : Scope) (now : Nat)
  | disableMethod (methodId now : Nat)
  | deactivate (principalId now : Nat)
  | erase (principalId : Nat)
  | retireKey (signingKeyId : String)

/-- One statement of a reader, or the checks or the commit of a transaction. -/
inductive Step (policy : SessionPolicy) : Db → Act → Db → Prop where
  /-- `lock_identity_mutation`. -/
  | lock {db : Db} {task : Nat} (idle : db.stages task = .idle) (principalId : Nat)
      (free : db.gate principalId = none) :
      Step policy db .other ({ db with gate := update db.gate principalId (some task) }.goto task
        (.locked principalId))
  /-- `ensure_principal`. -/
  | ensurePrincipal {db : Db} {task principalId : Nat} (stage : db.stages task = .locked principalId)
      (absent : db.principals principalId = none) :
      Step policy db .other
        ({ db with principals := update db.principals principalId (some ⟨true, true⟩) }.finish task)
  /-- `create_method`. -/
  | createMethod {db : Db} {task principalId : Nat} (stage : db.stages task = .locked principalId)
      (methodId : Nat) (kind : MethodKind) (absent : db.methods methodId = none) :
      Step policy db .other
        ({ db with methods := update db.methods methodId (some ⟨principalId, kind, true⟩) }.finish task)
  /-- A disabled method is enabled again, or linked again. -/
  | enableMethod {db : Db} {task principalId methodId : Nat} {method : Method}
      (stage : db.stages task = .locked principalId) (found : db.methods methodId = some method)
      (owner : method.principalId = principalId)
      (active : ∃ principal ∈ db.principals principalId, principal.requireActive = true) :
      Step policy db .other ({ db with
        methods := update db.methods methodId (some { method with active := true }) }.finish task)
  /-- The checks of an issuance; some revoke sessions first. -/
  | checkIssue {db : Db} {task principalId : Nat} (stage : db.stages task = .locked principalId)
      (session : Session) (revokes : Option Scope) (now : Nat)
      (active : ∃ principal ∈ db.principals principalId, principal.requireActive = true)
      (owner : session.principalId = principalId) (method : db.methodAdmits session = true)
      (issuable : issuable session now = true) (fresh : session.tokenHash = db.nextToken)
      (root : session.chain = db.nextToken) (created : session.createdAt = now)
      (idle : session.idleExpiresAt = policy.idleExpiry now session.expiresAt)
      (unrevoked : session.revokedAt = none) (key : session.workosSigningKeyId.any db.retiredKeys = false) :
      Step policy db .other
        ({ db with nextToken := db.nextToken + 1 }.goto task (.issuing session revokes now))
  | commitIssue {db : Db} {task : Nat} {session : Session} {revokes : Option Scope} {now : Nat}
      (stage : db.stages task = .issuing session revokes now) :
      Step policy db .other (({ db with
        sessions := revokes.elim db.sessions (revokeScope · now db.sessions) }.insert session now).finish task)
  /-- The checks of `rotate_session`, with its second clock, and those of the table. -/
  | checkRotate {db : Db} {task principalId : Nat} (stage : db.stages task = .locked principalId)
      (session : Session) (instanceId : Option String) (checkedAt now : Nat) (found : session ∈ db.sessions)
      (owner : session.principalId = principalId)
      (active : ∃ principal ∈ db.principals principalId, principal.requireActive = true)
      (eligible : db.eligible instanceId checkedAt session = true)
      (issuable : issuable (session.successor policy instanceId db.nextToken now) now = true) :
      Step policy db (.authorise session.tokenHash checkedAt)
        (({ db with nextToken := db.nextToken + 1 }.use session.tokenHash checkedAt).goto task
          (.rotating session (session.successor policy instanceId db.nextToken now) now))
  /-- The previous session is revoked if it is not yet, or nothing is committed. -/
  | commitRotate {db : Db} {task : Nat} {previous successor : Session} {now : Nat}
      (stage : db.stages task = .rotating previous successor now)
      (unrevoked : ∃ session ∈ db.sessions, session.tokenHash = previous.tokenHash ∧ session.revokedAt = none) :
      Step policy db (.rotate previous.tokenHash) (({ db with
        sessions := revokeScope (.session previous.tokenHash) now db.sessions }.insert successor now).finish task)
  /-- A session authorises, and the reader may be about to slide its idle deadline. -/
  | validate {db : Db} {task : Nat} (stage : db.stages task = .idle) (session : Session)
      (instanceId : Option String) (now : Nat) (found : session ∈ db.sessions)
      (eligible : db.eligible instanceId now session = true) (slideIdle : Bool) :
      Step policy db (.authorise session.tokenHash now) ((db.use session.tokenHash now).goto task
        (if slideIdle && slides policy now session then
          .sliding session.tokenHash session.idleExpiresAt (policy.idleExpiry now session.expiresAt)
        else .done))
  | slide {db : Db} {task tokenHash current next : Nat} (stage : db.stages task = .sliding tokenHash current next) :
      Step policy db .other ({ db with sessions := slideIdle tokenHash current next db.sessions }.goto task .done)
  /-- Sessions log out or are revoked. -/
  | revoke {db : Db} (scope : Scope) (now : Nat) :
      Step policy db (.revoke scope now) { db with sessions := revokeScope scope now db.sessions }
  /-- `disable_method`, or an account is disabled. -/
  | disableMethod {db : Db} {task principalId methodId : Nat} {method : Method}
      (stage : db.stages task = .locked principalId) (found : db.methods methodId = some method)
      (owner : method.principalId = principalId) (now : Nat) :
      Step policy db (.disableMethod methodId now) ({ db with
        methods := update db.methods methodId (some { method with active := false })
        sessions := revokeScope (.method methodId) now db.sessions }.finish task)
  /-- A member is deactivated. -/
  | deactivate {db : Db} {task principalId : Nat} (stage : db.stages task = .locked principalId) (now : Nat) :
      Step policy db (.deactivate principalId now)
        ({ db with sessions := revokeScope (.principal principalId) now db.sessions }.finish task)
  /-- `request_member_erasure`: the member and its methods are disabled. -/
  | erase {db : Db} {task principalId : Nat} (stage : db.stages task = .locked principalId) (now : Nat) :
      Step policy db (.erase principalId) ({ db with
        principals := update db.principals principalId (some ⟨false, false⟩)
        methods := fun methodId => (db.methods methodId).map fun method : Method =>
          if method.principalId = principalId then { method with active := false } else method
        sessions := revokeScope (.principal principalId) now db.sessions }.finish task)
  /-- The erasure is finalised. -/
  | finalise {db : Db} {task principalId : Nat} (stage : db.stages task = .locked principalId)
      (destroyedAt : Nat) :
      Step policy db (.erase principalId) ({ db with
        principals := update db.principals principalId (some ⟨false, false⟩)
        sessions := scrubSessions principalId destroyedAt db.sessions }.finish task)
  /-- `retire_workos_signing_key`. -/
  | retireKey {db : Db} (signingKeyId : String) (now : Nat) :
      Step policy db (.retireKey signingKeyId) { db with
        retiredKeys := update db.retiredKeys signingKeyId true
        sessions := revokeSigningKey signingKeyId now db.sessions }
  /-- The task is refused, fails or is stopped. -/
  | stop {db : Db} {task : Nat} : Step policy db .other (db.finish task)

/-- Steps, one after another. -/
def Run (policy : SessionPolicy) : Db → Db → Prop := ReflTransGen fun db db' => ∃ act, Step policy db act db'

/-! ## What stays of a session -/

/-- A session later on: it may be revoked, its idle deadline moves, and an erasure scrubs its provider's. -/
structure Session.Becomes (session later : Session) : Prop where
  tokenHash : later.tokenHash = session.tokenHash
  principalId : later.principalId = session.principalId
  expiresAt : later.expiresAt = session.expiresAt
  method : later.authenticatedViaMethodId = session.authenticatedViaMethodId
  assurance : later.assurance = session.assurance
  signingKey : later.workosSigningKeyId = session.workosSigningKeyId
  authenticatedAt : later.authenticatedAt = session.authenticatedAt
  chain : later.chain = session.chain
  revoked : session.revokedAt.isSome = true → later.revokedAt.isSome = true

theorem Session.Becomes.refl (session : Session) : session.Becomes session :=
  ⟨rfl, rfl, rfl, rfl, rfl, rfl, rfl, rfl, id⟩

theorem Session.Becomes.trans {a b c : Session} (hab : a.Becomes b) (hbc : b.Becomes c) : a.Becomes c where
  tokenHash := hbc.tokenHash.trans hab.tokenHash
  principalId := hbc.principalId.trans hab.principalId
  expiresAt := hbc.expiresAt.trans hab.expiresAt
  method := hbc.method.trans hab.method
  assurance := hbc.assurance.trans hab.assurance
  signingKey := hbc.signingKey.trans hab.signingKey
  authenticatedAt := hbc.authenticatedAt.trans hab.authenticatedAt
  chain := hbc.chain.trans hab.chain
  revoked h := hbc.revoked (hab.revoked h)

theorem Session.revoke_isSome (session : Session) (now : Nat) : (session.revoke now).revokedAt.isSome = true := by
  unfold Session.revoke
  cases session.revokedAt <;> rfl

/-- A statement that changes the sessions: each stays what it was, and its idle deadline moves to `allowed` ones. -/
structure Revises (f : Session → Session) (allowed : Session → Nat → Prop) : Prop where
  becomes : ∀ session : Session, session.Becomes (f session)
  idle : ∀ session : Session, (f session).idleExpiresAt = session.idleExpiresAt ∨ allowed session (f session).idleExpiresAt

/-- A revocation moves no idle deadline. -/
theorem revises_revoke (condition : Session → Bool) (now : Nat) :
    Revises (fun session => if condition session then session.revoke now else session) fun _ _ => False where
  becomes session := by
    by_cases hcondition : condition session = true
    · simp only [hcondition, if_true]
      exact ⟨rfl, rfl, rfl, rfl, rfl, rfl, rfl, rfl, fun _ => session.revoke_isSome now⟩
    · simp only [hcondition]
      exact .refl session
  idle session := by
    left
    by_cases hcondition : condition session = true
    · simp only [hcondition, if_true, Session.revoke]
    · simp only [hcondition, Bool.false_eq_true, if_false]

/-- Nor does an erasure. -/
theorem revises_scrub (principalId destroyedAt : Nat) :
    Revises (fun session => if session.principalId == principalId then
      { session.revoke destroyedAt with workosSessionId := none } else session) fun _ _ => False where
  becomes session := by
    by_cases howner : (session.principalId == principalId) = true
    · simp only [howner, if_true]
      exact ⟨rfl, rfl, rfl, rfl, rfl, rfl, rfl, rfl, fun _ => session.revoke_isSome destroyedAt⟩
    · simp only [howner]
      exact .refl session
  idle session := by
    left
    by_cases howner : (session.principalId == principalId) = true
    · simp only [howner, if_true, Session.revoke]
    · simp only [howner, Bool.false_eq_true, if_false]

/-- A slide moves the deadline of its session. -/
theorem revises_slide (tokenHash current next : Nat) : Revises (fun session =>
      if session.tokenHash == tokenHash && session.revokedAt.isNone && session.idleExpiresAt == current then
        { session with idleExpiresAt := next } else session)
      fun session deadline => session.tokenHash = tokenHash ∧ deadline = next where
  becomes session := by
    by_cases hsame : (session.tokenHash == tokenHash && session.revokedAt.isNone &&
        session.idleExpiresAt == current) = true
    · simp only [hsame, if_true]
      exact ⟨rfl, rfl, rfl, rfl, rfl, rfl, rfl, rfl, id⟩
    · simp only [hsame]
      exact .refl session
  idle session := by
    by_cases hsame : (session.tokenHash == tokenHash && session.revokedAt.isNone &&
        session.idleExpiresAt == current) = true
    · right
      simp only [hsame, if_true, and_true]
      simp only [Bool.and_eq_true, beq_iff_eq] at hsame
      exact hsame.1.1
    · left
      simp only [hsame, Bool.false_eq_true, if_false]

/-! ## The invariant -/

/-- The session that a task is about to insert. -/
def Stage.pending : Stage → Option (Session × Nat)
  | .issuing session _ now => some (session, now)
  | .rotating _ successor now => some (successor, now)
  | _ => none

/-- What the sessions of a chain have of the first one. -/
structure SameOrigin (first session : Session) : Prop where
  principalId : session.principalId = first.principalId
  expiresAt : session.expiresAt = first.expiresAt
  authenticatedAt : session.authenticatedAt = first.authenticatedAt
  method : session.authenticatedViaMethodId = first.authenticatedViaMethodId
  assurance : session.assurance = first.assurance

/-- The chain of a session begins in the table. -/
def Db.Rooted (db : Db) (session : Session) : Prop :=
  ∃ first ∈ db.sessions, first.tokenHash = session.chain ∧ first.chain = session.chain ∧ SameOrigin first session

/-- An idle deadline counts from a use of the session. -/
def Db.Used (db : Db) (policy : SessionPolicy) (tokenHash deadline : Nat) : Prop :=
  ∃ now, (tokenHash, now) ∈ db.uses ∧ deadline ≤ now + policy.idleTtlSeconds

/-- A session about to be inserted is new and not revoked. -/
structure Db.Awaits (db : Db) (policy : SessionPolicy) (session : Session) (now : Nat) : Prop where
  fresh : session.tokenHash < db.nextToken
  absent : ∀ other ∈ db.sessions, other.tokenHash ≠ session.tokenHash
  unrevoked : session.revokedAt = none
  idle : session.idleExpiresAt ≤ now + policy.idleTtlSeconds

/-- What a task at a stage may rely on: its gate, and what it has read. -/
def Db.Bears (db : Db) (policy : SessionPolicy) (task : Nat) : Stage → Prop
  | .idle | .done => True
  | .locked principalId => db.gate principalId = some task
  | .issuing session _ now =>
    db.gate session.principalId = some task ∧ db.Awaits policy session now ∧ session.chain = session.tokenHash
  | .rotating previous successor now =>
    db.gate successor.principalId = some task ∧ db.Awaits policy successor now ∧ db.Rooted successor ∧
      ∃ session ∈ db.sessions, session.tokenHash = previous.tokenHash ∧ session.chain = successor.chain
  | .sliding tokenHash _ next => db.Used policy tokenHash next

/-- What holds of the tables and the tasks. -/
structure Ok (policy : SessionPolicy) (db : Db) : Prop where
  fresh : ∀ session ∈ db.sessions, session.tokenHash < db.nextToken
  distinct : (db.sessions.map (·.tokenHash)).Nodup
  rooted : ∀ session ∈ db.sessions, db.Rooted session
  once : ∀ a ∈ db.sessions, ∀ b ∈ db.sessions, a.chain = b.chain → a.revokedAt = none → b.revokedAt = none →
    a.tokenHash = b.tokenHash
  used : ∀ session ∈ db.sessions, db.Used policy session.tokenHash session.idleExpiresAt
  bears : ∀ task, db.Bears policy task (db.stages task)
  apart : ∀ i j a b s t, (db.stages i).pending = some (a, s) → (db.stages j).pending = some (b, t) →
    a.tokenHash = b.tokenHash → i = j

theorem Ok.empty (policy : SessionPolicy) : Ok policy {} where
  fresh _ h := absurd h List.not_mem_nil
  distinct := List.nodup_nil
  rooted _ h := absurd h List.not_mem_nil
  once _ h := absurd h List.not_mem_nil
  used _ h := absurd h List.not_mem_nil
  bears _ := trivial
  apart _ _ _ _ _ _ h := nomatch h

/-! ## The tables change -/

/-- The sessions of one table are still in another. -/
def Keeps (sessions sessions' : List Session) : Prop :=
  ∀ session ∈ sessions, ∃ later ∈ sessions', session.Becomes later

theorem Keeps.refl (sessions : List Session) : Keeps sessions sessions :=
  fun session hs => ⟨session, hs, .refl session⟩

theorem Keeps.trans {a b c : List Session} (hab : Keeps a b) (hbc : Keeps b c) : Keeps a c := by
  intro session hs
  obtain ⟨later, hlater, h⟩ := hab session hs
  obtain ⟨last, hlast, h'⟩ := hbc later hlater
  exact ⟨last, hlast, h.trans h'⟩

variable {db db' : Db} {session : Session} {policy : SessionPolicy} {stage : Stage} {task now : Nat}
   {act : Act}

theorem Keeps.rooted (hkeeps : Keeps db.sessions db'.sessions) (h : db.Rooted session) :
    db'.Rooted session := by
  obtain ⟨first, hfirst, htoken, hchain, hsame⟩ := h
  obtain ⟨later, hlater, hb⟩ := hkeeps first hfirst
  exact ⟨later, hlater, hb.tokenHash.trans htoken, hb.chain.trans hchain,
    hsame.principalId.trans hb.principalId.symm, hsame.expiresAt.trans hb.expiresAt.symm,
    hsame.authenticatedAt.trans hb.authenticatedAt.symm, hsame.method.trans hb.method.symm,
    hsame.assurance.trans hb.assurance.symm⟩

theorem Db.Rooted.becomes {later : Session} (h : db.Rooted session) (hb : session.Becomes later) : db.Rooted later := by
  obtain ⟨first, hfirst, htoken, hchain, hsame⟩ := h
  exact ⟨first, hfirst, htoken.trans hb.chain.symm, hchain.trans hb.chain.symm,
    hb.principalId.trans hsame.principalId, hb.expiresAt.trans hsame.expiresAt,
    hb.authenticatedAt.trans hsame.authenticatedAt, hb.method.trans hsame.method,
    hb.assurance.trans hsame.assurance⟩

/-- A task keeps what it relies on when its gate, its token and the uses stay. -/
theorem Db.Bears.mono (h : db.Bears policy task stage) (hkeeps : Keeps db.sessions db'.sessions)
    (htokens : db.nextToken ≤ db'.nextToken)
    (hgate : ∀ principalId, db.gate principalId = some task → db'.gate principalId = some task)
    (huses : ∀ use ∈ db.uses, use ∈ db'.uses)
    (habsent : ∀ session now, stage.pending = some (session, now) → (∀ other ∈ db.sessions, other.tokenHash ≠ session.tokenHash) → ∀ other ∈ db'.sessions, other.tokenHash ≠ session.tokenHash) : db'.Bears policy task stage := by
  have hawaits : ∀ session now, stage.pending = some (session, now) → db.Awaits policy session now →
      db'.Awaits policy session now := fun session now hp ha =>
    ⟨Nat.lt_of_lt_of_le ha.fresh htokens, habsent session now hp ha.absent, ha.unrevoked, ha.idle⟩
  cases stage with
  | idle | done => trivial
  | locked principalId => exact hgate principalId h
  | issuing session revokes now =>
    obtain ⟨hg, ha, hchain⟩ := h
    exact ⟨hgate _ hg, hawaits session now rfl ha, hchain⟩
  | rotating previous successor now =>
    obtain ⟨hg, ha, hrooted, session, hs, htoken, hchain⟩ := h
    obtain ⟨later, hlater, hb⟩ := hkeeps session hs
    exact ⟨hgate _ hg, hawaits successor now rfl ha, hkeeps.rooted hrooted, later, hlater,
      hb.tokenHash.trans htoken, hb.chain.trans hchain⟩
  | sliding tokenHash current next =>
    obtain ⟨now, hmem, hle⟩ := h
    exact ⟨now, huses _ hmem, hle⟩

/-- The members, the methods and the keys do not matter, nor does a gate that was free. -/
theorem Ok.withTables (h : Ok policy db) (methods : Nat → Option Method)
    (principals : Nat → Option Principal) (retiredKeys : String → Bool) (gate : Nat → Option Nat)
    (hgate : ∀ task principalId, db.gate principalId = some task → gate principalId = some task) :
    Ok policy { db with methods, principals, retiredKeys, gate } :=
  { h with
    bears task := (h.bears task).mono (Keeps.refl db.sessions) (Nat.le_refl _) (hgate task) (fun _ hu => hu)
      fun _ _ _ hab => hab }

/-- A token is taken. -/
theorem Ok.takeToken (h : Ok policy db) : Ok policy { db with nextToken := db.nextToken + 1 } :=
  { h with
    fresh session hs := Nat.lt_succ_of_lt (h.fresh session hs)
    bears task := (h.bears task).mono (Keeps.refl db.sessions) (Nat.le_succ _) (fun _ hg => hg) (fun _ hu => hu)
      fun _ _ _ hab => hab }

/-- A session is used. -/
theorem Ok.use (h : Ok policy db) (tokenHash now : Nat) : Ok policy (db.use tokenHash now) :=
  { h with
    used session hs := by
      obtain ⟨at', hmem, hle⟩ := h.used session hs
      exact ⟨at', List.mem_cons_of_mem _ hmem, hle⟩
    bears task := (h.bears task).mono (Keeps.refl db.sessions) (Nat.le_refl _) (fun _ hg => hg)
      (fun _ hu => List.mem_cons_of_mem _ hu) fun _ _ _ hab => hab }

theorem stages_goto (db : Db) (task i : Nat) (stage : Stage) :
    (db.goto task stage).stages i = if i = task then stage else db.stages i :=
  update_apply db.stages task stage i

/-- A task goes on to a stage that the tables bear, and inserts no other's session. -/
theorem Ok.goto (h : Ok policy db) (task : Nat) (hbears : db.Bears policy task stage)
    (hapart : ∀ session now i other t, stage.pending = some (session, now) → (db.stages i).pending = some (other, t) → other.tokenHash ≠ session.tokenHash) :
    Ok policy (db.goto task stage) where
  fresh := h.fresh
  distinct := h.distinct
  rooted := h.rooted
  once := h.once
  used := h.used
  bears i := by
    rw [stages_goto]
    by_cases hi : i = task
    · rw [if_pos hi, hi]
      exact hbears.mono (Keeps.refl db.sessions) (Nat.le_refl _) (fun _ hg => hg) (fun _ hu => hu) fun _ _ _ hab => hab
    · rw [if_neg hi]
      exact (h.bears i).mono (Keeps.refl db.sessions) (Nat.le_refl _) (fun _ hg => hg) (fun _ hu => hu)
        fun _ _ _ hab => hab
  apart i j a b s t ha hb hsame := by
    rw [stages_goto] at ha hb
    by_cases hi : i = task <;> by_cases hj : j = task
    · rw [hi, hj]
    · rw [if_pos hi] at ha
      rw [if_neg hj] at hb
      exact absurd hsame.symm (hapart a s j b t ha hb)
    · rw [if_neg hi] at ha
      rw [if_pos hj] at hb
      exact absurd hsame (hapart b t i a s hb ha)
    · rw [if_neg hi] at ha
      rw [if_neg hj] at hb
      exact h.apart i j a b s t ha hb hsame

theorem stages_finish (db : Db) (task i : Nat) :
    (db.finish task).stages i = if i = task then .done else db.stages i :=
  update_apply db.stages task .done i

theorem Ok.finish (h : Ok policy db) (task : Nat) : Ok policy (db.finish task) :=
  { h with
    bears i := by
      rw [stages_finish]
      by_cases hi : i = task
      · rw [if_pos hi]
        trivial
      · rw [if_neg hi]
        refine (h.bears i).mono (Keeps.refl db.sessions) (Nat.le_refl _) (fun principalId hg => ?_) (fun _ hu => hu)
          fun _ _ _ hab => hab
        show (if db.gate principalId = some task then none else db.gate principalId) = some i
        rw [hg, if_neg fun he => hi (Option.some.inj he)]
    apart i j a b s t ha hb hsame := by
      rw [stages_finish] at ha hb
      by_cases hi : i = task
      · rw [if_pos hi] at ha
        exact nomatch ha
      · by_cases hj : j = task
        · rw [if_pos hj] at hb
          exact nomatch hb
        · rw [if_neg hi] at ha
          rw [if_neg hj] at hb
          exact h.apart i j a b s t ha hb hsame }

/-! ## The sessions change -/

theorem Revises.keeps {f : Session → Session} {allowed : Session → Nat → Prop} (hf : Revises f allowed)
    (sessions : List Session) : Keeps sessions (sessions.map f) :=
  fun session hs => ⟨f session, List.mem_map_of_mem hs, hf.becomes session⟩

theorem Session.Becomes.unrevoked {later : Session} (h : session.Becomes later)
    (hlater : later.revokedAt = none) : session.revokedAt = none := by
  cases hrevoked : session.revokedAt with
  | none => rfl
  | some now =>
    have hsome : later.revokedAt.isSome = true := h.revoked (by rw [hrevoked]; rfl)
    rw [hlater] at hsome
    exact nomatch hsome

/-- A statement that changes the sessions, and moves idle deadlines to those that count from a use. -/
theorem Ok.revise (h : Ok policy db) {f : Session → Session} {allowed : Session → Nat → Prop}
    (hf : Revises f allowed)
    (hallowed : ∀ session deadline, allowed session deadline → db.Used policy session.tokenHash deadline) :
    Ok policy { db with sessions := db.sessions.map f } where
  fresh later hlater := by
    obtain ⟨session, hs, rfl⟩ := List.mem_map.mp hlater
    rw [(hf.becomes session).tokenHash]
    exact h.fresh session hs
  distinct := by
    have htokens : (db.sessions.map f).map (·.tokenHash) = db.sessions.map (·.tokenHash) := by
      rw [List.map_map]
      exact List.map_congr_left fun session _ => (hf.becomes session).tokenHash
    show ((db.sessions.map f).map (·.tokenHash)).Nodup
    rw [htokens]
    exact h.distinct
  rooted later hlater := by
    obtain ⟨session, hs, rfl⟩ := List.mem_map.mp hlater
    exact (Keeps.rooted (hf.keeps db.sessions) (h.rooted session hs)).becomes (hf.becomes session)
  once a' ha' b' hb' hchain hna hnb := by
    obtain ⟨a, hma, rfl⟩ := List.mem_map.mp ha'
    obtain ⟨b, hmb, rfl⟩ := List.mem_map.mp hb'
    rw [(hf.becomes a).chain, (hf.becomes b).chain] at hchain
    rw [(hf.becomes a).tokenHash, (hf.becomes b).tokenHash]
    exact h.once a hma b hmb hchain ((hf.becomes a).unrevoked hna) ((hf.becomes b).unrevoked hnb)
  used later hlater := by
    obtain ⟨session, hs, rfl⟩ := List.mem_map.mp hlater
    rw [(hf.becomes session).tokenHash]
    rcases hf.idle session with hsame | hmoved
    · rw [hsame]
      exact h.used session hs
    · exact hallowed session _ hmoved
  bears task := by
    refine (h.bears task).mono (hf.keeps db.sessions) (Nat.le_refl _) (fun _ hg => hg) (fun _ hu => hu) ?_
    intro session now _ habsent later hlater
    obtain ⟨other, hother, rfl⟩ := List.mem_map.mp hlater
    rw [(hf.becomes other).tokenHash]
    exact habsent other hother
  apart := h.apart

theorem Ok.revoke (h : Ok policy db) (scope : Scope) (now : Nat) :
    Ok policy { db with sessions := revokeScope scope now db.sessions } :=
  h.revise (revises_revoke (scope.covers now) now) fun _ _ hfalse => hfalse.elim

/-- A task inserts its session when no other of the chain is left. -/
theorem Ok.commit (h : Ok policy db) (hpending : (db.stages task).pending = some (session, now))
    (hawaits : db.Awaits policy session now)
    (horigin : session.chain = session.tokenHash ∨ db.Rooted session)
    (hleft : ∀ other ∈ db.sessions, other.chain = session.chain → other.revokedAt ≠ none) :
    Ok policy ((db.insert session now).finish task) := by
  have hkeeps : Keeps db.sessions (db.insert session now).sessions :=
    fun other hother => ⟨other, List.mem_cons_of_mem _ hother, .refl other⟩
  have hdone : Ok policy (db.finish task) := h.finish task
  refine ⟨?_, ?_, ?_, ?_, ?_, ?_, hdone.apart⟩
  · intro other hother
    rcases List.mem_cons.mp hother with rfl | hold
    · exact hawaits.fresh
    · exact h.fresh other hold
  · refine List.nodup_cons.mpr ⟨fun hmem => ?_, h.distinct⟩
    obtain ⟨other, hother, hsame⟩ := List.mem_map.mp hmem
    exact hawaits.absent other hother hsame
  · intro other hother
    rcases List.mem_cons.mp hother with rfl | hold
    · rcases horigin with hself | hrooted
      · exact ⟨other, List.mem_cons_self, hself.symm, rfl, rfl, rfl, rfl, rfl, rfl⟩
      · exact hkeeps.rooted hrooted
    · exact hkeeps.rooted (h.rooted other hold)
  · intro a ha b hb hchain hna hnb
    rcases List.mem_cons.mp ha with rfl | ha' <;> rcases List.mem_cons.mp hb with rfl | hb'
    · rfl
    · exact absurd hnb (hleft b hb' hchain.symm)
    · exact absurd hna (hleft a ha' hchain)
    · exact h.once a ha' b hb' hchain hna hnb
  · intro other hother
    rcases List.mem_cons.mp hother with rfl | hold
    · exact ⟨now, List.mem_cons_self, hawaits.idle⟩
    · obtain ⟨at', hmem, hle⟩ := h.used other hold
      exact ⟨at', List.mem_cons_of_mem _ hmem, hle⟩
  · intro i
    refine (hdone.bears i).mono hkeeps (Nat.le_refl _) (fun _ hg => hg)
      (fun _ hu => List.mem_cons_of_mem _ hu) fun other t hp habsent third hthird => ?_
    rcases List.mem_cons.mp hthird with rfl | hold
    · intro hsame
      have hp' : ((db.finish task).stages i).pending = some (other, t) := hp
      rw [stages_finish] at hp'
      by_cases hi : i = task
      · rw [if_pos hi] at hp'
        exact nomatch hp'
      · rw [if_neg hi] at hp'
        exact hi (h.apart i task other third t now hp' hpending hsame.symm)
    · exact habsent third hold

/-! ## One step -/

theorem idleExpiry_le (policy : SessionPolicy) (now expiresAt : Nat) :
    policy.idleExpiry now expiresAt ≤ now + policy.idleTtlSeconds := by
  unfold SessionPolicy.idleExpiry saturatingAdd
  omega

/-- A token that is taken is no one's. -/
theorem Ok.takenApart (h : Ok policy db) (i : Nat) {other : Session} {t : Nat}
    (hp : (db.stages i).pending = some (other, t)) : other.tokenHash ≠ db.nextToken := by
  have hbears : db.Bears policy i (db.stages i) := h.bears i
  have hlt : other.tokenHash < db.nextToken := by
    cases hstage : db.stages i with
    | idle | done | locked | sliding => rw [hstage] at hp; exact nomatch hp
    | issuing session revokes now | rotating previous successor now =>
      rw [hstage] at hp hbears
      cases hp
      exact hbears.2.1.fresh
  omega

theorem Ok.gotoFree (h : Ok policy db) (task : Nat) (hbears : db.Bears policy task stage)
    (hpending : stage.pending = none) : Ok policy (db.goto task stage) :=
  h.goto task hbears fun _ _ _ _ _ hp => nomatch hpending.symm.trans hp

/-- A task goes on to insert a session of a token that it takes. -/
theorem Ok.gotoTaken (h : Ok policy db) (task : Nat)
    (hpending : stage.pending = some (session, now)) (htoken : session.tokenHash = db.nextToken)
    (hbears : ({ db with nextToken := db.nextToken + 1 } : Db).Bears policy task stage) :
    Ok policy ({ db with nextToken := db.nextToken + 1 }.goto task stage) := by
  refine h.takeToken.goto task hbears fun session' now' i other t hp hother => ?_
  rw [hpending] at hp
  cases hp
  rw [htoken]
  exact h.takenApart i hother

theorem Ok.absent (h : Ok policy db) : ∀ other ∈ db.sessions, other.tokenHash ≠ db.nextToken :=
  fun other hother => Nat.ne_of_lt (h.fresh other hother)

theorem Ok.unique (h : Ok policy db) {a b : Session} (ha : a ∈ db.sessions) (hb : b ∈ db.sessions)
    (hsame : a.tokenHash = b.tokenHash) : a = b :=
  List.inj_on_of_nodup_map h.distinct ha hb hsame

theorem Ok.commitIssue (h : Ok policy db) {revokes : Option Scope}
    (stage : db.stages task = .issuing session revokes now) :
    Ok policy ((db.insert session now).finish task) := by
  obtain ⟨_, hawaits, hself⟩ : db.Bears policy task (.issuing session revokes now) := stage ▸ h.bears task
  refine h.commit (by rw [stage]; rfl) hawaits (.inl hself) fun other hother hchain => ?_
  obtain ⟨first, hfirst, htoken, _⟩ := h.rooted other hother
  exact absurd (htoken.trans (hchain.trans hself)) (hawaits.absent first hfirst)

/-- A session is rotated: the one that was left of its chain is revoked. -/
theorem Ok.commitRotate (h : Ok policy db) {previous successor : Session}
    (stage : db.stages task = .rotating previous successor now)
    (unrevoked : ∃ session ∈ db.sessions, session.tokenHash = previous.tokenHash ∧ session.revokedAt = none) :
    Ok policy (({ db with
      sessions := revokeScope (.session previous.tokenHash) now db.sessions }.insert successor now).finish task) := by
  have hrevoked : Ok policy { db with sessions := revokeScope (.session previous.tokenHash) now db.sessions } :=
    h.revoke _ _
  have hbears : ({ db with sessions := revokeScope (.session previous.tokenHash) now db.sessions } : Db).Bears
      policy task (.rotating previous successor now) := stage ▸ hrevoked.bears task
  obtain ⟨_, hawaits, hrooted, _⟩ := hbears
  refine hrevoked.commit (by show (db.stages task).pending = _; rw [stage]; rfl) hawaits (.inr hrooted) ?_
  intro later hlater hchain hnone
  obtain ⟨other, hother, rfl⟩ := List.mem_map.mp hlater
  have hb := (revises_revoke (Scope.covers (.session previous.tokenHash) now) now).becomes other
  obtain ⟨_, _, _, found, hfound, hfoundToken, hfoundChain⟩ : db.Bears policy task
    (.rotating previous successor now) := stage ▸ h.bears task
  obtain ⟨session, hsession, htoken, hlive⟩ := unrevoked
  have hsame : session = found := h.unique hsession hfound (htoken.trans hfoundToken.symm)
  have hlast : other.tokenHash = session.tokenHash :=
    h.once other hother session hsession (hb.chain.symm.trans (hchain.trans (hsame ▸ hfoundChain.symm)))
      (hb.unrevoked hnone) hlive
  have hcovered : Scope.covers (.session previous.tokenHash) now other = true := beq_iff_eq.mpr (hlast.trans htoken)
  have hsome : (other.revoke now).revokedAt.isSome = true := other.revoke_isSome now
  simp only [hcovered, if_true] at hnone
  rw [hnone] at hsome
  exact nomatch hsome

/-- Every step keeps the invariant. -/
theorem Step.ok (hstep : Step policy db act db') (h : Ok policy db) : Ok policy db' := by
  cases hstep with
  | @lock task idle principalId free =>
    have hgate : update db.gate principalId (some task) principalId = some task :=
      update_self principalId (some task) db.gate
    refine (h.withTables db.methods db.principals db.retiredKeys _ fun other p hg => ?_).gotoFree task hgate rfl
    by_cases hp : p = principalId
    · rw [hp, free] at hg
      exact nomatch hg
    · rw [update_of_ne hp]
      exact hg
  | ensurePrincipal stage absent
  | createMethod stage methodId kind absent
  | enableMethod stage found owner active => exact (h.withTables _ _ _ _ fun _ _ hg => hg).finish _
  | @checkIssue task principalId stage session revokes now active owner method issuable fresh root created idle
      unrevoked key =>
    have hgate : db.Bears policy task (.locked principalId) := stage ▸ h.bears task
    refine h.gotoTaken task rfl fresh ⟨?_, ⟨?_, ?_, unrevoked, ?_⟩, root.trans fresh.symm⟩
    · rw [owner]
      exact hgate
    · rw [fresh]
      exact Nat.lt_succ_self _
    · rw [fresh]
      exact h.absent
    · rw [idle]
      exact idleExpiry_le policy now session.expiresAt
  | @commitIssue task session revokes now stage =>
    cases revokes with
    | none => exact h.commitIssue stage
    | some scope => exact (h.revoke scope now).commitIssue stage
  | @checkRotate task principalId stage session instanceId checkedAt now found owner active eligible issuable =>
    have hgate : db.Bears policy task (.locked principalId) := stage ▸ h.bears task
    refine (h.use session.tokenHash checkedAt).gotoTaken task rfl rfl ⟨?_, ⟨Nat.lt_succ_self _, h.absent, rfl, ?_⟩, ?_, ?_⟩
    · show db.gate session.principalId = some task
      rw [owner]
      exact hgate
    · exact idleExpiry_le policy now session.expiresAt
    · obtain ⟨first, hfirst, htoken, hchain, hsame⟩ := h.rooted session found
      exact ⟨first, hfirst, htoken, hchain, hsame.principalId, hsame.expiresAt, hsame.authenticatedAt,
        hsame.method, hsame.assurance⟩
    · exact ⟨session, found, rfl, rfl⟩
  | commitRotate stage unrevoked => exact h.commitRotate stage unrevoked
  | @validate task stage session instanceId now found eligible slideIdle =>
    have hused : Ok policy (db.use session.tokenHash now) := h.use session.tokenHash now
    by_cases hslides : (slideIdle && slides policy now session) = true
    · rw [if_pos hslides]
      refine hused.gotoFree task ⟨now, List.mem_cons_self, idleExpiry_le policy now session.expiresAt⟩ rfl
    · rw [if_neg hslides]
      exact hused.gotoFree task trivial rfl
  | @slide task tokenHash current next stage =>
    have hused : db.Bears policy task (.sliding tokenHash current next) := stage ▸ h.bears task
    refine Ok.gotoFree (h.revise (revises_slide tokenHash current next) fun session deadline hmoved => ?_) task
      trivial rfl
    rw [hmoved.1, hmoved.2]
    exact hused
  | revoke scope now => exact h.revoke scope now
  | disableMethod stage found owner now =>
    exact ((h.revoke _ now).withTables _ _ _ _ fun _ _ hg => hg).finish _
  | deactivate stage now => exact (h.revoke _ now).finish _
  | erase stage now => exact ((h.revoke _ now).withTables _ _ _ _ fun _ _ hg => hg).finish _
  | finalise stage destroyedAt =>
    exact ((h.revise (revises_scrub _ destroyedAt) fun _ _ hfalse => hfalse.elim).withTables _ _ _ _
      fun _ _ hg => hg).finish _
  | retireKey signingKeyId now =>
    exact (h.revise (revises_revoke _ now) fun _ _ hfalse => hfalse.elim).withTables _ _ _ _ fun _ _ hg => hg
  | stop => exact h.finish _

theorem Run.ok (hrun : Run policy db db') (h : Ok policy db) : Ok policy db' := by
  induction hrun with
  | refl => exact h
  | tail _ hstep ih =>
    obtain ⟨act, hact⟩ := hstep
    exact hact.ok ih

/-! ## What a run does not undo -/

/-- A session that authorises nothing any more. -/
def Db.Dead (db : Db) (session : Session) : Prop :=
  session.revokedAt.isSome = true ∨ session.workosSigningKeyId.any db.retiredKeys = true ∨
    ∃ principal, db.principals session.principalId = some principal ∧ principal.active = false

/-- Sessions stay, disabled members stay disabled, and retired keys stay retired. -/
structure Goes (db db' : Db) : Prop where
  keeps : Keeps db.sessions db'.sessions
  disabled : ∀ principalId principal, db.principals principalId = some principal → principal.active = false →
    ∃ later, db'.principals principalId = some later ∧ later.active = false
  retired : ∀ signingKeyId, db.retiredKeys signingKeyId = true → db'.retiredKeys signingKeyId = true

theorem Goes.refl (db : Db) : Goes db db :=
  ⟨Keeps.refl db.sessions, fun _ principal hfound hdisabled => ⟨principal, hfound, hdisabled⟩, fun _ h => h⟩

theorem Goes.trans {a b c : Db} (hab : Goes a b) (hbc : Goes b c) : Goes a c where
  keeps := hab.keeps.trans hbc.keeps
  disabled principalId principal hfound hdisabled := by
    obtain ⟨later, hlater, h⟩ := hab.disabled principalId principal hfound hdisabled
    exact hbc.disabled principalId later hlater h
  retired signingKeyId h := hbc.retired signingKeyId (hab.retired signingKeyId h)

theorem Keeps.goes (h : Keeps db.sessions db'.sessions)
    (hprincipals : db'.principals = db.principals) (hkeys : db'.retiredKeys = db.retiredKeys) : Goes db db' := by
  refine ⟨h, fun principalId principal hfound hdisabled => ⟨principal, ?_, hdisabled⟩, fun _ hretired => ?_⟩
  · rw [hprincipals]
    exact hfound
  · rw [hkeys]
    exact hretired

/-- A member is disabled. -/
theorem Keeps.goesDisabled (h : Keeps db.sessions db'.sessions)
    (hkeys : db'.retiredKeys = db.retiredKeys) (principalId : Nat)
    (hprincipals : db'.principals = update db.principals principalId (some ⟨false, false⟩)) :
    Goes db db' := by
  refine ⟨h, fun other principal hfound hdisabled => ?_, fun _ hretired => ?_⟩
  · rw [hprincipals]
    by_cases hother : other = principalId
    · rw [hother]
      exact ⟨_, update_self principalId _ db.principals, rfl⟩
    · rw [update_of_ne hother]
      exact ⟨principal, hfound, hdisabled⟩
  · rw [hkeys]
    exact hretired

theorem keeps_cons (sessions : List Session) (session : Session) : Keeps sessions (session :: sessions) :=
  fun other hother => ⟨other, List.mem_cons_of_mem _ hother, .refl other⟩

theorem keeps_revoke (sessions : List Session) (scope : Scope) (now : Nat) :
    Keeps sessions (revokeScope scope now sessions) :=
  (revises_revoke (scope.covers now) now).keeps sessions

/-- No step brings a session back. -/
theorem Step.goes (hstep : Step policy db act db') : Goes db db' := by
  cases hstep with
  | lock idle principalId free
  | createMethod stage methodId kind absent
  | enableMethod stage found owner active
  | validate stage session instanceId now found eligible slideIdle
  | stop => exact Keeps.goes (Keeps.refl _) rfl rfl
  | @ensurePrincipal task principalId stage absent =>
    refine ⟨Keeps.refl db.sessions, fun other principal hfound hdisabled => ⟨principal, ?_, hdisabled⟩, fun _ h => h⟩
    have hother : other ≠ principalId := by
      rintro rfl
      exact nomatch absent.symm.trans hfound
    exact (update_of_ne hother _ db.principals).trans hfound
  | checkIssue stage session revokes now active owner method issuable fresh root created idle unrevoked key =>
    exact Keeps.goes (Keeps.refl _) rfl rfl
  | @commitIssue task session revokes now stage =>
    cases revokes with
    | none => exact (keeps_cons db.sessions session).goes rfl rfl
    | some scope => exact ((keeps_revoke db.sessions scope now).trans (keeps_cons _ session)).goes rfl rfl
  | checkRotate stage session instanceId checkedAt now found owner active eligible issuable =>
    exact Keeps.goes (Keeps.refl _) rfl rfl
  | @commitRotate task previous successor now stage unrevoked =>
    exact ((keeps_revoke db.sessions _ now).trans (keeps_cons _ successor)).goes rfl rfl
  | @slide task tokenHash current next stage => exact ((revises_slide tokenHash current next).keeps db.sessions).goes rfl rfl
  | revoke scope now => exact (keeps_revoke db.sessions scope now).goes rfl rfl
  | disableMethod stage found owner now
  | deactivate stage now => exact (keeps_revoke db.sessions _ now).goes rfl rfl
  | @erase task principalId stage now => exact (keeps_revoke db.sessions _ now).goesDisabled rfl principalId rfl
  | @finalise task principalId stage destroyedAt =>
    exact ((revises_scrub principalId destroyedAt).keeps db.sessions).goesDisabled rfl principalId rfl
  | retireKey signingKeyId now =>
    refine ⟨(revises_revoke _ now).keeps db.sessions, fun _ principal hfound hdisabled => ⟨principal, hfound, hdisabled⟩,
      fun other hretired => ?_⟩
    by_cases hother : other = signingKeyId
    · rw [hother]
      exact update_self signingKeyId true db.retiredKeys
    · exact (update_of_ne hother true db.retiredKeys).trans hretired

theorem Run.goes (hrun : Run policy db db') : Goes db db' := by
  induction hrun with
  | refl => exact .refl db
  | tail _ hstep ih =>
    obtain ⟨act, hact⟩ := hstep
    exact ih.trans hact.goes

/-- A dead session stays dead. -/
theorem Goes.dead (h : Goes db db') (hs : session ∈ db.sessions) (hdead : db.Dead session) : ∃ later ∈ db'.sessions, session.Becomes later ∧ db'.Dead later := by
  obtain ⟨later, hlater, hb⟩ := h.keeps session hs
  refine ⟨later, hlater, hb, ?_⟩
  rcases hdead with hrevoked | hretired | ⟨principal, hfound, hdisabled⟩
  · exact .inl (hb.revoked hrevoked)
  · refine .inr (.inl ?_)
    rw [hb.signingKey]
    obtain ⟨key, hkey, hr⟩ := Option.any_eq_true _ _ |>.mp hretired
    exact (Option.any_eq_true _ _).mpr ⟨key, hkey, h.retired key hr⟩
  · refine .inr (.inr ?_)
    rw [hb.principalId]
    exact h.disabled _ principal hfound hdisabled

/-- A dead session is not eligible. -/
theorem Db.Dead.not_eligible (h : db.Dead session) (instanceId : Option String) (now : Nat) : db.eligible instanceId now session ≠ true := by
  intro heligible
  simp only [Db.eligible, Bool.and_eq_true, Bool.not_eq_true'] at heligible
  obtain ⟨⟨⟨⟨⟨⟨⟨⟨hnone, _⟩, _⟩, hkey⟩, hprincipal⟩, _⟩, _⟩, _⟩, _⟩ := heligible
  rcases h with hrevoked | hretired | ⟨principal, hfound, hdisabled⟩
  · rw [Option.isNone_iff_eq_none] at hnone
    rw [hnone] at hrevoked
    exact nomatch hrevoked
  · rw [hretired] at hkey
    exact nomatch hkey
  · rw [hfound] at hprincipal
    exact nomatch hdisabled.symm.trans hprincipal

/-- What authorises is in the table, and eligible. -/
theorem Step.authorises {after : Db} {tokenHash : Nat}
    (hstep : Step policy db (.authorise tokenHash now) after) :
    ∃ session ∈ db.sessions, session.tokenHash = tokenHash ∧
      ∃ instanceId, db.eligible instanceId now session = true := by
  cases hstep with
  | checkRotate stage session instanceId checkedAt now found owner active eligible issuable
  | validate stage session instanceId now found eligible slideIdle =>
    exact ⟨session, found, rfl, instanceId, eligible⟩

/-- A dead session authorises nothing in any run. -/
theorem Ok.never {later after : Db} (h : Ok policy db) (hs : session ∈ db.sessions)
    (hdead : db.Dead session) (hrun : Run policy db later) :
    ¬ Step policy later (.authorise session.tokenHash now) after := by
  intro hstep
  obtain ⟨found, hfound, htoken, instanceId, heligible⟩ := hstep.authorises
  obtain ⟨last, hlast, hb, hlastDead⟩ := hrun.goes.dead hs hdead
  have hsame : found = last := (hrun.ok h).unique hfound hlast (htoken.trans hb.tokenHash.symm)
  rw [hsame] at heligible
  exact hlastDead.not_eligible instanceId now heligible

/-! ## The sessions are lawful -/

/-- The sessions that a step cuts off. What has expired at the clock of a revocation is left as it is, and
authorises nothing from then on (`Lawful.expiry`). -/
def Act.CutsOff (act : Act) (session : Session) : Prop :=
  match act with
  | .other | .authorise _ _ => False
  | .rotate tokenHash => session.tokenHash = tokenHash
  | .revoke scope now => scope.covers now session = true
  | .disableMethod methodId now => session.authenticatedViaMethodId = some methodId ∧ now < session.expiresAt
  | .deactivate principalId now => session.principalId = principalId ∧ now < session.expiresAt
  | .erase principalId => session.principalId = principalId
  | .retireKey signingKeyId => session.workosSigningKeyId = some signingKeyId

theorem revokeScope_dead {scope : Scope} (hs : session ∈ db.sessions)
    (hcovers : scope.covers now session = true)
    (hsub : ∀ later ∈ revokeScope scope now db.sessions, later ∈ db'.sessions) :
    ∃ later ∈ db'.sessions, session.Becomes later ∧ db'.Dead later := by
  refine ⟨session.revoke now, hsub _ (List.mem_map.mpr ⟨session, hs, if_pos hcovers⟩), ?_, ?_⟩
  · exact ⟨rfl, rfl, rfl, rfl, rfl, rfl, rfl, rfl, fun _ => session.revoke_isSome now⟩
  · exact .inl (session.revoke_isSome now)

/-- A session that a step cuts off is dead after it. -/
theorem Step.cuts (hstep : Step policy db act db') (hs : session ∈ db.sessions)
    (hcuts : act.CutsOff session) :
    ∃ later ∈ db'.sessions, session.Becomes later ∧ db'.Dead later := by
  have hgoes : Goes db db' := hstep.goes
  cases hstep with
  | @commitRotate task previous successor now stage unrevoked =>
    have hcovers : (Scope.session previous.tokenHash).covers now session = true := beq_iff_eq.mpr hcuts
    exact revokeScope_dead hs hcovers fun _ hlater => List.mem_cons_of_mem _ hlater
  | revoke scope now => exact revokeScope_dead hs hcuts fun _ hlater => hlater
  | @disableMethod task principalId methodId method stage found owner now =>
    have hcovers : (Scope.method methodId).covers now session = true := by
      simp only [Scope.covers, hcuts.1, hcuts.2, beq_self_eq_true, decide_true, Bool.and_self]
    exact revokeScope_dead hs hcovers fun _ hlater => hlater
  | @deactivate task principalId stage now =>
    have hcovers : (Scope.principal principalId).covers now session = true := by
      simp only [Scope.covers, hcuts.1, hcuts.2, beq_self_eq_true, decide_true, Bool.and_self]
    exact revokeScope_dead hs hcovers fun _ hlater => hlater
  | @erase task principalId stage now | @finalise task principalId stage destroyedAt =>
    obtain ⟨later, hlater, hb⟩ := hgoes.keeps session hs
    have howner : later.principalId = principalId := hb.principalId.trans hcuts
    exact ⟨later, hlater, hb, .inr (.inr ⟨⟨false, false⟩, by
      rw [howner]
      exact update_self principalId _ db.principals, rfl⟩)⟩
  | retireKey signingKeyId now =>
    obtain ⟨later, hlater, hb⟩ := hgoes.keeps session hs
    have hkey : later.workosSigningKeyId = some signingKeyId := hb.signingKey.trans hcuts
    refine ⟨later, hlater, hb, .inr (.inl ?_)⟩
    rw [hkey]
    exact update_self signingKeyId true db.retiredKeys
  | _ => exact hcuts.elim

/-- What is lawful of the sessions of a store, and of what they do from there on. -/
structure Lawful (policy : SessionPolicy) (db : Db) : Prop where
  /-- A session that a step cuts off never authorises again. -/
  cut_off : ∀ {act cut later after} {session : Session} {now}, session ∈ db.sessions →
    Step policy db act cut → act.CutsOff session → Run policy cut later →
    ¬ Step policy later (.authorise session.tokenHash now) after
  /-- Nor does one that is revoked. -/
  revoked : ∀ {later after} {session : Session} {now}, session ∈ db.sessions → session.revokedAt.isSome = true →
    Run policy db later → ¬ Step policy later (.authorise session.tokenHash now) after
  /-- None of a member is about to be issued or rotated while its gate is taken for a cut-off. -/
  in_flight : ∀ {task other principalId : Nat} {session : Session} {now},
    db.stages task = .locked principalId → (db.stages other).pending = some (session, now) →
    session.principalId ≠ principalId
  /-- One session of a chain is eligible at a time, whatever the clocks and the processes. -/
  chain_once : ∀ {a b : Session} {i j s t}, a ∈ db.sessions → b ∈ db.sessions → a.chain = b.chain →
    db.eligible i s a = true → db.eligible j t b = true → a = b
  /-- The first session of a chain is in the table, and the others are of its deadline and provenance. -/
  chain_same : ∀ session ∈ db.sessions, ∃ first ∈ db.sessions, first.tokenHash = session.chain ∧
    first.chain = session.chain ∧ SameOrigin first session
  /-- A session authorises only before its expiry, which never changes. -/
  expiry : ∀ {later after} {session : Session} {now}, session ∈ db.sessions → Run policy db later →
    Step policy later (.authorise session.tokenHash now) after → now < session.expiresAt
  /-- It authorises within the idle lifetime of a use. -/
  idle : ∀ {after tokenHash now}, Step policy db (.authorise tokenHash now) after →
    ∃ used, (tokenHash, used) ∈ db.uses ∧ now < used + policy.idleTtlSeconds

theorem eligible_before {instanceId : Option String} (h : db.eligible instanceId now session = true) :
    session.revokedAt = none ∧ now < session.expiresAt ∧ now < session.idleExpiresAt := by
  simp only [Db.eligible, Bool.and_eq_true, decide_eq_true_eq, Option.isNone_iff_eq_none] at h
  obtain ⟨⟨⟨⟨⟨⟨⟨⟨hnone, habsolute⟩, hidle⟩, _⟩, _⟩, _⟩, _⟩, _⟩, _⟩ := h
  exact ⟨hnone, habsolute, hidle⟩

/-- A task that is about to insert a session holds the gate of its member. -/
theorem Ok.gated (h : Ok policy db) (hp : (db.stages task).pending = some (session, now)) : db.gate session.principalId = some task := by
  have hbears : db.Bears policy task (db.stages task) := h.bears task
  cases hstage : db.stages task with
  | idle | done | locked | sliding => rw [hstage] at hp; exact nomatch hp
  | issuing session' revokes now' | rotating previous successor now' =>
    rw [hstage] at hp hbears
    cases hp
    exact hbears.1

/-- In every run the sessions are lawful. -/
theorem sessions_lawful {policy : SessionPolicy} {db : Db} (hrun : Run policy {} db) : Lawful policy db := by
  have hok : Ok policy db := hrun.ok (.empty policy)
  refine ⟨?_, ?_, ?_, ?_, hok.rooted, ?_, ?_⟩
  · intro act cut later after session now hs hstep hcuts hlater hauthorise
    obtain ⟨dead, hdead, hb, hd⟩ := hstep.cuts hs hcuts
    rw [← hb.tokenHash] at hauthorise
    exact (hstep.ok hok).never hdead hd hlater hauthorise
  · intro later after session now hs hrevoked hlater
    exact hok.never hs (.inl hrevoked) hlater
  · rintro task other principalId session now hlocked hpending rfl
    have hlockedGate : db.Bears policy task (.locked session.principalId) := hlocked ▸ hok.bears task
    have hgate : db.gate session.principalId = some task := hlockedGate
    have hsame : task = other := Option.some.inj (hgate.symm.trans (hok.gated hpending))
    rw [← hsame, hlocked] at hpending
    exact nomatch hpending
  · intro a b i j s t ha hb hchain hea heb
    have htoken : a.tokenHash = b.tokenHash :=
      hok.once a ha b hb hchain (eligible_before hea).1 (eligible_before heb).1
    exact hok.unique ha hb htoken
  · intro later after session now hs hlater hauthorise
    obtain ⟨found, hfound, htoken, instanceId, heligible⟩ := hauthorise.authorises
    obtain ⟨last, hlast, hb⟩ := hlater.goes.keeps session hs
    have hsame : found = last := (hlater.ok hok).unique hfound hlast (htoken.trans hb.tokenHash.symm)
    have hbefore : now < found.expiresAt := (eligible_before heligible).2.1
    rw [hsame, hb.expiresAt] at hbefore
    exact hbefore
  · intro after tokenHash now hauthorise
    obtain ⟨found, hfound, rfl, instanceId, heligible⟩ := hauthorise.authorises
    obtain ⟨used, hmem, hle⟩ := hok.used found hfound
    exact ⟨used, hmem, Nat.lt_of_lt_of_le (eligible_before heligible).2.2 hle⟩

/-- A policy of a day. -/
def dayPolicy : SessionPolicy where
  absoluteTtlSeconds := 86400
  workosAbsoluteTtlSeconds := 86400
  idleTtlSeconds := 3600
  absolute_bounded := by decide
  workos_bounded := by decide
  idle_bounded := by decide

/-- A session of the first member, by a password. -/
def firstSession : Session where
  tokenHash := 0
  principalId := 7
  createdAt := 100
  expiresAt := 86500
  revokedAt := none
  authenticatedViaMethodId := some 5
  idleExpiresAt := 3700
  assurance := .password
  localProofInstanceId := none
  workosSessionId := none
  workosSigningKeyId := none
  authenticatedAt := 100
  chain := 0

/-- A member registers, sets a password and logs in, and its session is lawful. -/
theorem registered_lawful : ∃ db, Run dayPolicy {} db ∧ db.sessions = [firstSession] ∧ Lawful dayPolicy db := by
  have hlock : Run dayPolicy {} _ := .single ⟨_, @Step.lock dayPolicy {} 0 rfl 7 rfl⟩
  have hregister : Run dayPolicy {} _ := hlock.tail ⟨_, @Step.ensurePrincipal dayPolicy _ 0 7 rfl rfl⟩
  have hlock₂ : Run dayPolicy {} _ := hregister.tail ⟨_, @Step.lock dayPolicy _ 1 rfl 7 rfl⟩
  have hmethod : Run dayPolicy {} _ := hlock₂.tail ⟨_, @Step.createMethod dayPolicy _ 1 7 rfl 5 .classicPassword rfl⟩
  have hlock₃ : Run dayPolicy {} _ := hmethod.tail ⟨_, @Step.lock dayPolicy _ 2 rfl 7 rfl⟩
  have hcheck : Run dayPolicy {} _ := hlock₃.tail ⟨_, @Step.checkIssue dayPolicy _ 2 7 rfl firstSession none 100
    ⟨⟨true, true⟩, rfl, rfl⟩ rfl rfl rfl rfl rfl rfl rfl rfl rfl⟩
  have hcommit : Run dayPolicy {} _ := hcheck.tail ⟨_, @Step.commitIssue dayPolicy _ 2 firstSession none 100 rfl⟩
  exact ⟨_, hcommit, rfl, sessions_lawful hcommit⟩

end Fmarch.Identity.Sessions
