import Mathlib.Data.List.Dedup

/-!
# The projection store (`projection-store.mjs`)

The page holds the server's projections in one store. Each key has a latest owner: a refresh that is
fetching it, or whatever wrote or invalidated it last. A refresh fetches all its keys, follows the owners
that have overtaken it, and publishes the keys it still owns. Revoking and invalidating advance the
authority epoch, and a refresh of an earlier epoch fails.

The code runs on one thread, so it is cut where somebody else can run: at an await, and where subscribers
are told, since they may call the store again. Between two cuts anything may happen here, in any order,
which allows more than nested calls do. What a read brings is arbitrary, and so are the functions a cold
load is configured with; one that throws gives `none`.

`writer` is not in the code: it is the attempt that wrote a key's value, 0 for the initial one.
-/

namespace Fmarch.Client

variable {J V : Type}

/-! ## Live envelopes -/

/-- The kinds of a live delta. -/
inductive DeltaKind where
  | voteCountChanged | voteCountCleared
  | threadPostsChanged | threadPostRemoved | postCitationsChanged
  | hostConsoleStateChanged | hostConsoleHeaderChanged | hostConsoleSlotsChanged
  | hostConsoleRosterChanged | hostConsoleThreadPostsChanged | hostConsoleThreadPostRemoved
  | hostConsoleDayEventsChanged | hostConsoleSchedulerChanged | hostConsoleTasksChanged
  | hostPromptsChanged | playerNotificationsChanged | playerInvestigationResultsChanged
  | slotMentionsChanged | dayVoteOutcomeApplied
  deriving DecidableEq

/-- A delta, with its body. -/
structure LiveDelta (J : Type) where
  kind : DeltaKind
  body : J

/-- What `normalizeServerEnvelopeMessage` makes of an envelope it accepts. -/
inductive Message (J : Type) where
  | hello
  | resyncRequired
  | delta (delta : LiveDelta J)

def hostConsoleLiveDeltaKinds : List DeltaKind :=
  [.hostConsoleStateChanged, .hostConsoleHeaderChanged, .hostConsoleSlotsChanged,
    .hostConsoleRosterChanged, .hostConsoleThreadPostsChanged, .hostConsoleThreadPostRemoved,
    .hostConsoleDayEventsChanged, .hostConsoleSchedulerChanged, .hostConsoleTasksChanged]

def projectionKeyForLiveDelta : DeltaKind → Option String
  | .threadPostsChanged | .threadPostRemoved | .postCitationsChanged => some "thread"
  | .voteCountChanged | .voteCountCleared => some "votecount"
  | _ => none

/-- The key a delta with a whole payload is for, and the field of its body that holds the payload. -/
def payloadKeyForLiveDelta : DeltaKind → Option (String × Option String)
  | .hostPromptsChanged => some ("hostPrompts", some "prompts")
  | .playerNotificationsChanged => some ("notifications", some "notifications")
  | .playerInvestigationResultsChanged => some ("investigationResults", some "results")
  | .slotMentionsChanged => some ("slotMentions", some "mentions")
  | .dayVoteOutcomeApplied => some ("dayVoteOutcomes", none)
  | _ => none

/-! ## Configuration -/

/-- How a key is loaded, written and revoked. -/
structure ColdLoad (J V : Type) where
  /-- `normalizeProjectionPayload`, from the previous value. -/
  normalize : J → Option V → Option V
  /-- `validateNormalizedProjection`. -/
  validateNormalized : V → Option V → Bool := fun _ _ => true
  validateLiveDelta : Option (LiveDelta J → Option V → Bool) := none
  /-- The revoked value, if one is configured, from the previous one and the snapshot. -/
  revoke : Option (Option V → (String → Option V) → Option V) := none

/-- What the store is created with, and the functions it calls. -/
structure Config (J V : Type) where
  coldLoads : List (String × ColdLoad J V)
  /-- A property of a body, where it is not null. -/
  field : String → J → Option J
  applyHostConsoleLiveDelta : Option V → LiveDelta J → Option V
  /-- What `projectionPatchForLiveEnvelope` has for the delta's key. -/
  livePatch : LiveDelta J → Option V → Option (Option V)

namespace Config

def registeredKeys (config : Config J V) : List String := config.coldLoads.map (·.1)

/-- The cold load of a key. -/
def coldLoad? (config : Config J V) (key : String) : Option (ColdLoad J V) :=
  (config.coldLoads.find? (·.1 = key)).map (·.2)

end Config

/-! ## State -/

/-- `refreshFailure`, less its detail. -/
structure Failure where
  key : String
  reason : String
  deriving DecidableEq

/-- What reading a projection gives. -/
inductive ReadResult (V : Type) where
  | success (value : V)
  | failure (reason : String)

/-- An owner of keys, known by its attempt. -/
structure Owner where
  settled : Bool := true
  error : Option (List Failure) := none
  deriving DecidableEq

/-- The state of a key. -/
inductive KeyState where
  | ready
  | refreshing
  | unavailable
  deriving DecidableEq

/-- `projectionKeyHealth`. -/
structure KeyHealth where
  state : KeyState
  attempt : Nat

/-- Where a refresh is cut. -/
inductive Stage where
  /-- Its keys are reported as refreshing. -/
  | started
  | reading
  /-- At the head of the loop. -/
  | looping
  | waiting
  /-- The snapshot's subscribers are told; `observedOwners`. -/
  | committed (observed : List Nat)
  /-- The health's subscribers are told. -/
  | published (observed : List Nat)
  /-- Its keys are reported as unavailable. -/
  | failing
  | resolved
  | rejected
  deriving DecidableEq

/-- A call of `refresh`. -/
structure Refresh (V : Type) where
  keys : List String
  epoch : Nat
  restoreReadiness : Bool
  aborted : Bool := false
  stage : Stage := .started
  results : List (String × ReadResult V) := []
  publishedKeys : List String := []

/-- What is left to do once the snapshot's subscribers are told. -/
inductive Continuation where
  /-- `publishAppliedHealth`. -/
  | applied (keys : List String) (epoch attempt : Nat)
  /-- The health of a revocation. -/
  | revoked (attempt : Nat)
  deriving DecidableEq

/-- The variables of `createProjectionStore`, with the calls that are under way. -/
structure Store (V : Type) where
  snapshot : String → Option V
  refreshAttempt : Nat := 0
  authorityEpoch : Nat := 0
  latestOwnerByKey : String → Nat := fun _ => 0
  owners : Nat → Owner := fun _ => {}
  health : String → KeyHealth := fun _ => ⟨.ready, 0⟩
  refreshes : Nat → Option (Refresh V) := fun _ => none
  continuations : List Continuation := []
  writer : String → Nat := fun _ => 0

namespace Store

variable (config : Config J V) (store : Store V)

/-! ## Ownership, snapshot and health -/

/-- `supersedeProjectionKeys`: the new owner is attempt `refreshAttempt`. -/
def supersedeProjectionKeys (keys : List String) : Store V :=
  let attempt := store.refreshAttempt + 1
  { store with
    refreshAttempt := attempt
    latestOwnerByKey := fun key =>
      if key ∈ keys ∧ key ∈ config.registeredKeys then attempt else store.latestOwnerByKey key
    owners := Function.update store.owners attempt {} }

/-- `commitSnapshot`, by an owner. -/
def commitSnapshot (attempt : Nat) (patch : List (String × Option V)) : Store V :=
  { store with
    snapshot := fun key =>
      match patch.find? (·.1 = key) with
      | some entry => entry.2
      | none => store.snapshot key
    writer := fun key => if key ∈ patch.map (·.1) then attempt else store.writer key }

/-- `publishHealth`, with one state for some keys. -/
def publishHealth (keys : List String) (state : KeyState) (attempt : Nat) : Store V :=
  { store with health := fun key => if key ∈ keys then ⟨state, attempt⟩ else store.health key }

def isReady : Bool := config.registeredKeys.all fun key => (store.health key).state = .ready

def invalidate (keys : List String) : Store V :=
  let next := { store with authorityEpoch := store.authorityEpoch + 1 }.supersedeProjectionKeys config keys
  next.publishHealth keys .unavailable next.refreshAttempt

/-- The `revocationPatch` of `revokeAuthority`. -/
def revocationPatch : Option (List (String × Option V)) :=
  (config.coldLoads.filter (·.2.revoke.isSome)).mapM fun entry =>
    (entry.2.revoke.bind fun revoke => revoke (store.snapshot entry.1) store.snapshot).map fun value =>
      (entry.1, some value)

def revokeAuthority : Store V :=
  match store.revocationPatch config with
  | none => store
  | some patch =>
    let next := { store with authorityEpoch := store.authorityEpoch + 1 }.supersedeProjectionKeys config
      config.registeredKeys
    if patch = [] then
      next.publishHealth config.registeredKeys .unavailable next.refreshAttempt
    else
      let next := next.commitSnapshot next.refreshAttempt patch
      { next with continuations := .revoked next.refreshAttempt :: next.continuations }

/-! ## Applied payloads -/

/-- Writes for keys that are superseded: the snapshot, then the health. -/
def apply (keys : List String) (patch : List (String × Option V)) : Store V :=
  let next := store.commitSnapshot store.refreshAttempt patch
  { next with
    continuations := .applied keys store.authorityEpoch store.refreshAttempt :: next.continuations }

def applyPayload (key : String) (payload : J) : Store V :=
  match config.coldLoad? key with
  | none => store
  | some coldLoad =>
    let next := store.supersedeProjectionKeys config [key]
    match coldLoad.normalize payload (store.snapshot key) with
    | some value => next.apply [key] [(key, some value)]
    | none => next.invalidate config [key]

def applyNormalizedPayload (key : String) (value : V) : Store V :=
  match config.coldLoad? key with
  | none => store
  | some coldLoad =>
    let next := store.supersedeProjectionKeys config [key]
    if coldLoad.validateNormalized value (store.snapshot key) then
      next.apply [key] [(key, some value)]
    else next.invalidate config [key]

def applySnapshot (patch : List (String × Option V)) : Store V :=
  (store.supersedeProjectionKeys config (patch.map (·.1))).apply (patch.map (·.1)) patch

/-- The check of `validateLiveProjectionDelta`. -/
def liveDeltaValid (key : String) (delta : LiveDelta J) (hasScope : Bool) : Bool :=
  match (config.coldLoad? key).bind (·.validateLiveDelta) with
  | some validate => validate delta (store.snapshot key)
  | none => hasScope

/-- `validateLiveProjectionDelta`, then the rest. -/
def validateLiveProjectionDelta (key : String) (delta : LiveDelta J) (hasScope : Bool)
    (rest : Store V → Store V) : Store V :=
  if store.liveDeltaValid config key delta hasScope then
    rest (store.supersedeProjectionKeys config [key])
  else if key ∈ config.registeredKeys then store.invalidate config [key]
  else store

/-- `applyLiveEnvelope`; `scope` is the check of a delta against the expected scope, if there is one. -/
def applyLiveEnvelope (scope : Option (LiveDelta J → Bool)) : Option (Message J) → Store V
  | none => store.invalidate config config.registeredKeys
  | some .hello | some .resyncRequired => store
  | some (.delta delta) =>
    if scope.any fun inScope => !inScope delta then store
    else if delta.kind ∈ hostConsoleLiveDeltaKinds then
      store.validateLiveProjectionDelta config "host" delta scope.isSome fun store =>
        if delta.kind = .hostConsoleStateChanged then store.applyPayload config "host" delta.body
        else
          match config.applyHostConsoleLiveDelta (store.snapshot "host") delta with
          | some value => store.applyNormalizedPayload config "host" value
          | none => store
    else
      match (payloadKeyForLiveDelta delta.kind).filter (·.1 ∈ config.registeredKeys) with
      | some (key, field) =>
        store.validateLiveProjectionDelta config key delta scope.isSome fun store =>
          store.applyPayload config key
            ((field.bind fun field => config.field field delta.body).getD delta.body)
      | none =>
        match projectionKeyForLiveDelta delta.kind with
        | none => store
        | some key =>
          store.validateLiveProjectionDelta config key delta scope.isSome fun store =>
            match config.livePatch delta (store.snapshot key) with
            | some value => store.applySnapshot config [(key, value)]
            | none => store

/-! ## Refreshes -/

/-- A refresh goes on. -/
def put (attempt : Nat) (refresh : Refresh V) : Store V :=
  { store with refreshes := Function.update store.refreshes attempt (some refresh) }

/-- `refresh`, up to the health's subscribers. -/
def refresh (keys : List String) (restoreReadiness : Bool) : Store V :=
  let attempt := store.refreshAttempt + 1
  { store with
    refreshAttempt := attempt
    latestOwnerByKey := fun key => if key ∈ keys then attempt else store.latestOwnerByKey key
    owners := Function.update store.owners attempt { settled := false }
    health := fun key => if key ∈ keys then ⟨.refreshing, attempt⟩ else store.health key
    refreshes := Function.update store.refreshes attempt
      (some { keys, epoch := store.authorityEpoch, restoreReadiness }) }

/-- `assertRefreshEpoch` passes. -/
def inEpoch (refresh : Refresh V) : Bool :=
  refresh.epoch = store.authorityEpoch && !refresh.aborted

/-- The keys a refresh still owns. -/
def ownedKeys (attempt : Nat) (refresh : Refresh V) : List String :=
  refresh.keys.filter (store.latestOwnerByKey · = attempt)

/-- The `catch` of `refresh`. -/
def fail (attempt : Nat) (refresh : Refresh V) (failures : List Failure) : Store V :=
  let next := { store with
    owners := Function.update store.owners attempt
      { store.owners attempt with error := some failures } }
  (next.publishHealth (store.ownedKeys attempt refresh) .unavailable attempt).put attempt
    { refresh with stage := .failing }

/-- The failure of `assertRefreshEpoch`. -/
def epochFailure (refresh : Refresh V) : List Failure :=
  [⟨"*", if refresh.epoch ≠ store.authorityEpoch then "invalidated_refresh" else "aborted_refresh"⟩]

/-- The `finally` of a refresh that returns. -/
def resolve (attempt : Nat) (refresh : Refresh V) : Store V :=
  let next := { store with
    owners := Function.update store.owners attempt { store.owners attempt with settled := true } }
  next.put attempt { refresh with stage := .resolved }

/-- The `finally` of a refresh that throws. -/
def reject (attempt : Nat) (refresh : Refresh V) : Store V :=
  let next := { store with
    owners := Function.update store.owners attempt { store.owners attempt with settled := true } }
  next.put attempt { refresh with stage := .rejected }

/-- The failures of results. -/
def resultFailures (results : List (String × ReadResult V)) : List Failure :=
  results.filterMap fun
    | (key, .failure reason) => some ⟨key, reason⟩
    | (_, .success _) => none

/-- The values of results, as a patch. -/
def resultPatch (results : List (String × ReadResult V)) : List (String × Option V) :=
  results.filterMap fun
    | (key, .success value) => some (key, some value)
    | (_, .failure _) => none

/-- `currentResults`: those whose key is still the refresh's. -/
def currentResults (attempt : Nat) (refresh : Refresh V) : List (String × ReadResult V) :=
  refresh.results.filter (store.latestOwnerByKey ·.1 = attempt)

def unpublishedResults (attempt : Nat) (refresh : Refresh V) : List (String × ReadResult V) :=
  (store.currentResults attempt refresh).filter (·.1 ∉ refresh.publishedKeys)

/-- `replacements`: the owners that have overtaken the refresh. -/
def replacements (attempt : Nat) (refresh : Refresh V) : List Nat :=
  ((refresh.keys.map store.latestOwnerByKey).filter (· ≠ attempt)).dedup

/-- The failures of a round. -/
def roundFailures (attempt : Nat) (refresh : Refresh V) : List Failure :=
  resultFailures (store.currentResults attempt refresh) ++
    ((store.replacements attempt refresh).filter fun owner => (store.owners owner).settled).flatMap
      fun owner => (store.owners owner).error.getD []

/-- The snapshot of a round. -/
def publishRound (attempt : Nat) (refresh : Refresh V) : Store V :=
  let unpublished := store.unpublishedResults attempt refresh
  (store.commitSnapshot attempt (resultPatch unpublished)).put attempt
    { refresh with
      stage := .committed (refresh.keys.map store.latestOwnerByKey)
      publishedKeys := refresh.publishedKeys ++ unpublished.map (·.1) }

/-- One round of the loop, up to the snapshot's subscribers. -/
def iterate (attempt : Nat) (refresh : Refresh V) : Store V :=
  if !store.inEpoch refresh then store.fail attempt refresh (store.epochFailure refresh)
  else if store.roundFailures attempt refresh ≠ [] then
    store.fail attempt refresh (store.roundFailures attempt refresh)
  else if (store.replacements attempt refresh).any fun owner => !(store.owners owner).settled then
    store.put attempt { refresh with stage := .waiting }
  else if store.unpublishedResults attempt refresh = [] then store.resolve attempt refresh
  else store.publishRound attempt refresh

/-- The round goes on with the health. -/
def publishResults (attempt : Nat) (refresh : Refresh V) (observed : List Nat) : Store V :=
  if !store.inEpoch refresh then store.fail attempt refresh (store.epochFailure refresh)
  else
    (store.publishHealth (store.ownedKeys attempt refresh)
      (if refresh.restoreReadiness then .ready else .unavailable) attempt).put attempt
        { refresh with stage := .published observed }

/-- The end of the round. -/
def finishRound (attempt : Nat) (refresh : Refresh V) (observed : List Nat) : Store V :=
  if !store.inEpoch refresh then store.fail attempt refresh (store.epochFailure refresh)
  else if refresh.keys.map store.latestOwnerByKey ≠ observed then
    store.put attempt { refresh with stage := .looping }
  else store.resolve attempt refresh

/-- The next cut of a refresh; what its reads give is only looked at where it is reading. -/
def advance (attempt : Nat) (refresh : Refresh V) (results : List (String × ReadResult V)) :
    Option (Store V) :=
  match refresh.stage with
  | .started =>
    some (if store.inEpoch refresh then store.put attempt { refresh with stage := .reading }
      else store.fail attempt refresh (store.epochFailure refresh))
  | .reading =>
    if results.map (·.1) = refresh.keys then
      some (store.put attempt { refresh with stage := .looping, results })
    else none
  | .looping => some (store.iterate attempt refresh)
  | .waiting => some (store.put attempt { refresh with stage := .looping })
  | .committed observed => some (store.publishResults attempt refresh observed)
  | .published observed => some (store.finishRound attempt refresh observed)
  | .failing => some (store.reject attempt refresh)
  | .resolved | .rejected => none

/-- `withinRefreshEpoch` is interrupted. -/
def interrupt (attempt : Nat) (refresh : Refresh V) : Option (Store V) :=
  if (refresh.stage = .reading ∨ refresh.stage = .waiting) ∧ store.inEpoch refresh = false then
    some (store.fail attempt refresh (store.epochFailure refresh))
  else none

/-- A call goes on, now that the snapshot's subscribers are told. -/
def resume : Continuation → Store V
  | .applied keys epoch attempt =>
    if epoch ≠ store.authorityEpoch then store
    else
      store.publishHealth
        (keys.filter fun key => key ∈ config.registeredKeys ∧ store.latestOwnerByKey key = attempt)
        .ready attempt
  | .revoked attempt => store.publishHealth config.registeredKeys .unavailable attempt

end Store

/-! ## Steps -/

/-- What happens between two cuts. -/
inductive Action (J V : Type) where
  | refresh (keys : List String) (restoreReadiness : Bool)
  | advance (attempt : Nat) (results : List (String × ReadResult V))
  | interrupt (attempt : Nat)
  | abort (attempt : Nat)
  | invalidate (keys : List String)
  | revokeAuthority
  | applyPayload (key : String) (payload : J)
  | applySnapshot (patch : List (String × Option V))
  | applyLiveEnvelope (scope : Option (LiveDelta J → Bool)) (envelope : Option (Message J))
  | resume (continuation : Continuation)

/-- One step of the store; `none` where the action cannot happen. -/
def step (config : Config J V) (store : Store V) : Action J V → Option (Store V)
  | .refresh keys restoreReadiness =>
    if ∀ key ∈ keys, key ∈ config.registeredKeys then
      some (store.refresh keys.dedup restoreReadiness)
    else none
  | .advance attempt results =>
    (store.refreshes attempt).bind fun refresh => store.advance attempt refresh results
  | .interrupt attempt => (store.refreshes attempt).bind fun refresh => store.interrupt attempt refresh
  | .abort attempt =>
    (store.refreshes attempt).map fun refresh => store.put attempt { refresh with aborted := true }
  | .invalidate keys =>
    if ∀ key ∈ keys, key ∈ config.registeredKeys then some (store.invalidate config keys) else none
  | .revokeAuthority => some (store.revokeAuthority config)
  | .applyPayload key payload => some (store.applyPayload config key payload)
  | .applySnapshot patch => some (store.applySnapshot config patch)
  | .applyLiveEnvelope scope envelope => some (store.applyLiveEnvelope config scope envelope)
  | .resume continuation =>
    if continuation ∈ store.continuations then
      some { store.resume config continuation with
        continuations := store.continuations.erase continuation }
    else none

end Fmarch.Client
