import Fmarch.Client.ProjectionStore
import Mathlib.Data.List.Perm.Basic

/-!
# The live connection (`live-transport.mjs`)

The page asks for a ticket, opens a socket with it, and reads frames: a `Hello`, after which it refreshes
all projections, and then deltas, which it applies to the store. Every callback belongs to one socket (or
one request for a ticket), and may fire when another has long taken its place. The frames of a socket are
handled one after another, and a frame's handling waits three times: for its bytes, for the refresh after
the `Hello`, and for the refresh of what depends on a delta.

**`applied_only_live`**: an envelope is applied only when its socket is the current one, is not retired and
has not had an invalid frame, has sent a `Hello` of exactly the connection's scope after which the refresh
succeeded, and when the `Hello` entitles to the envelope's audience; the envelopes of one socket are applied
with the ids 1, 2, 3, …; and of a socket that is retired or has had an invalid frame none is applied ever
after, whatever is queued. A frame is invalid or not when its turn comes.

The code is cut where somebody else can run; between two cuts anything may happen in any order: reconnects
are not tied to their timers, deadlines may fire at any time, and a new request for a ticket may begin while
a socket is there. The shapes of the deltas' bodies are left open (`canonicalBody`), as is what applying one
does.
-/

namespace Fmarch.Client.LiveTransport

open Relation

/-! ## Frames -/

/-- `LiveScope`: what a connection is for. -/
structure LiveScope where
  game : String
  channel : String
  slotId : Option String
  deriving DecidableEq

inductive CapabilityGrant where
  | globalAdmin | globalMod
  | hostOf (game : String)
  | cohostOf (game : String)
  | deadViewer (game : String)
  | spectatorOf (game : String)
  | slotOccupant (game slot : String)
  | channelMember (game channel : String)
  deriving DecidableEq

/-- The body of a `Hello`. -/
structure Hello where
  protocolV : Nat
  server : String
  caps : List CapabilityGrant
  scope : LiveScope

inductive LiveAudience where
  | game (game : String)
  | thread (game channel : String)
  | host (game : String)
  | playerSlot (game slotId : String)
  deriving DecidableEq

/-- The kinds of an audience. -/
inductive AudienceKind where
  | game | thread | host | playerSlot
  deriving DecidableEq

/-- A delta, as far as it is compared with its audience and the scope: the game and the channel its body
names, the games and channels of its posts and the slots of its rows. -/
structure LiveDelta (J : Type) where
  kind : DeltaKind
  game : String
  channel : String
  posts : List (String × String)
  audienceSlots : List String
  body : J

/-- The body of an envelope. -/
inductive EnvelopeBody (J : Type) where
  | hello (hello : Hello)
  | delta (audience : LiveAudience) (delta : LiveDelta J)
  | resyncRequired (scope : LiveScope) (audiences : List LiveAudience) (fromEventSeq : Nat)

/-- A decoded frame. -/
structure Envelope (J : Type) where
  v : Nat
  id : Nat
  body : EnvelopeBody J

section Validation

variable {J : Type} (canonicalBody : LiveDelta J → Bool)

def liveProtocolVersion : Nat := 3

namespace LiveAudience

/-- `audience.kind`. -/
def kind : LiveAudience → AudienceKind
  | .game _ => .game
  | .thread .. => .thread
  | .host _ => .host
  | .playerSlot .. => .playerSlot

/-- `audience.game`. -/
def gameOf : LiveAudience → String
  | .game gameId | .thread gameId _ | .host gameId | .playerSlot gameId _ => gameId

end LiveAudience

def liveAudienceDeltaKinds : AudienceKind → List DeltaKind
  | .game => [.voteCountChanged, .voteCountCleared, .dayVoteOutcomeApplied]
  | .thread => [.threadPostsChanged, .threadPostRemoved, .postCitationsChanged]
  | .host => hostConsoleLiveDeltaKinds ++ [.hostPromptsChanged]
  | .playerSlot => [.playerNotificationsChanged, .playerInvestigationResultsChanged, .slotMentionsChanged]

/-- `validateLiveAudienceForScope`, without the kind of a delta. -/
def validAudienceForScope (scope : LiveScope) (audience : LiveAudience) : Bool :=
  decide (audience.gameOf = scope.game) &&
    match audience with
    | .thread _ channel => decide (channel = scope.channel)
    | .playerSlot _ slotId => decide (scope.slotId = some slotId)
    | _ => true

/-- `validateLiveAudienceDeltaPayload`. -/
def validAudienceDeltaPayload (audience : LiveAudience) (delta : LiveDelta J) : Bool :=
  decide (delta.kind ∈ liveAudienceDeltaKinds audience.kind) && decide (delta.game = audience.gameOf) &&
    match audience with
    | .thread _ channel =>
      if delta.kind = .threadPostsChanged then delta.posts.all (·.2 == channel)
      else decide (delta.channel = channel)
    | .playerSlot _ slotId => delta.audienceSlots.all (· == slotId)
    | _ => true

/-- `normalizeServerEnvelopeMessage`: an envelope it accepts. -/
def normalizesServerEnvelope (envelope : Envelope J) : Bool :=
  decide (envelope.v = liveProtocolVersion) &&
    match envelope.body with
    | .hello hello => decide (envelope.id = 0) && decide (hello.protocolV = liveProtocolVersion)
    | .delta audience delta =>
      decide (1 ≤ envelope.id) && canonicalBody delta && validAudienceDeltaPayload audience delta
    | .resyncRequired scope audiences _ =>
      decide (1 ≤ envelope.id) && !audiences.isEmpty && audiences.all (validAudienceForScope scope) &&
        decide audiences.Nodup

/-- `validateHelloCapabilities`. -/
def validHelloCapabilities (caps : List CapabilityGrant) (scope : LiveScope) : Bool :=
  (caps.isEmpty && decide (scope.channel = "main") && scope.slotId.isNone) ||
    caps.any fun
      | .globalAdmin | .globalMod => true
      | .hostOf game | .cohostOf game | .deadViewer game | .spectatorOf game => decide (game = scope.game)
      | .slotOccupant game slot => decide (game = scope.game) &&
          match scope.slotId with
          | none => decide (scope.channel = "main")
          | some slotId => decide (slot = slotId)
      | .channelMember game channel => decide (game = scope.game) && decide (channel = scope.channel)

/-- `validateLiveProjectionMessageScope`. -/
def validMessageScope (scope : LiveScope) : EnvelopeBody J → Bool
  | .hello hello => decide (hello.scope = scope) && validHelloCapabilities hello.caps scope
  | .resyncRequired from_ audiences _ =>
    decide (from_ = scope) && !audiences.isEmpty && audiences.all (validAudienceForScope scope) &&
      decide audiences.Nodup
  | .delta audience delta =>
    validAudienceForScope scope audience && decide (delta.kind ∈ liveAudienceDeltaKinds audience.kind) &&
      decide (delta.game = scope.game) &&
      (decide (delta.kind ≠ .threadPostsChanged) ||
        delta.posts.all fun (game, channel) => game == scope.game && channel == scope.channel) &&
      match scope.slotId with
      | none => true
      | some slotId => decide (delta.kind ∉ liveAudienceDeltaKinds .playerSlot) ||
          delta.audienceSlots.all (· == slotId)

/-- `deriveLiveAudienceEntitlements`. -/
def liveAudienceEntitlements (caps : List CapabilityGrant) (scope : LiveScope) : List AudienceKind :=
  let host := caps.any fun
    | .globalAdmin | .globalMod => true
    | .hostOf game | .cohostOf game => decide (game = scope.game)
    | _ => false
  let player := scope.slotId.any fun slotId =>
    decide (CapabilityGrant.slotOccupant scope.game slotId ∈ caps)
  [.game, .thread] ++ (if host && scope.slotId.isNone then [.host] else []) ++
    (if player then [.playerSlot] else [])

/-- `validateMessageAudienceEntitlement`, of the audiences a message is for. -/
def entitledAudience (hello : Hello) (scope : LiveScope) (audience : LiveAudience) : Bool :=
  decide (audience.kind ∈ liveAudienceEntitlements hello.caps hello.scope) &&
    !(decide (audience.kind = .host) && scope.slotId.isSome)

/-- The audiences of a message; a `Hello` has none. -/
def EnvelopeBody.audiences : EnvelopeBody J → List LiveAudience
  | .hello _ => []
  | .delta audience _ => [audience]
  | .resyncRequired _ audiences _ => audiences

/-- Two `Hello`s have the same `canonicalHelloFingerprint`: the order of the capabilities does not
matter. -/
def sameFingerprint (first second : Hello) : Bool :=
  decide (first.protocolV = second.protocolV) && decide (first.server = second.server) &&
    decide (first.scope = second.scope) && first.caps.isPerm second.caps

end Validation

/-! ## Sockets -/

/-- What the handling of a frame waits for. -/
inductive Handling (J : Type) where
  | idle
  | decoding (frame : Option (Envelope J))
  | recovering
  | refreshing

/-- What the callbacks of one socket share. A frame that does not decode is `none`. `recovered` and
`invalid` are not in the code: the refresh after the `Hello` has succeeded, and a frame was found
invalid. -/
structure Socket (J : Type) where
  socketOpened : Bool := false
  socketReady : Bool := false
  acceptedHello : Option Hello := none
  lastDataEnvelopeId : Nat := 0
  queued : List (Option (Envelope J)) := []
  handling : Handling J := .idle
  recovered : Bool := false
  invalid : Bool := false

/-- What comes of a frame once it is decoded. -/
inductive Outcome (J : Type) where
  | invalid
  | accept (hello : Hello)
  | heartbeat
  | resync
  | apply (envelope : Envelope J)

section Handle

variable {J : Type} (canonicalBody : LiveDelta J → Bool) (liveScope : LiveScope)

/-- The body of `handleSocketMessage` once a frame is decoded and its socket is the current one, without
the counting of ids. -/
def Socket.outcome (socket : Socket J) (envelope : Envelope J) : Outcome J :=
  match socket.socketReady, envelope.body with
  | false, .hello hello =>
    if socket.socketOpened && validMessageScope liveScope envelope.body then .accept hello else .invalid
  | false, _ => .invalid
  | true, body =>
    if validMessageScope liveScope body && (body.audiences.all fun audience =>
          socket.acceptedHello.any fun hello => entitledAudience hello liveScope audience) then
      match body with
      | .hello hello => if socket.acceptedHello.any (sameFingerprint hello) then .heartbeat else .invalid
      | .resyncRequired .. => .resync
      | .delta .. => .apply envelope
    else .invalid

/-- The data frame is the next one; a `Hello` is not counted. -/
def Socket.contiguous (socket : Socket J) (envelope : Envelope J) : Bool :=
  match envelope.body with
  | .hello _ => true
  | _ => decide (envelope.id = socket.lastDataEnvelopeId + 1)

/-- The last id, with a data frame counted. -/
def Socket.counted (socket : Socket J) (envelope : Envelope J) : Nat :=
  match envelope.body with
  | .hello _ => socket.lastDataEnvelopeId
  | _ => envelope.id

/-- What comes of a frame. -/
def Socket.handle (socket : Socket J) : Option (Envelope J) → Outcome J
  | none => .invalid
  | some envelope =>
    if normalizesServerEnvelope canonicalBody envelope && socket.contiguous envelope then
      socket.outcome liveScope envelope
    else .invalid

end Handle

/-! ## The connection -/

/-- The variables of `connectLiveProjection`, and the sockets it has made. `retired` and `applied` are not
in the code: the sockets that have lost their place, and the envelopes that were applied, with their
socket. -/
structure Connection (J : Type) where
  sockets : Nat → Socket J := fun _ => {}
  created : Nat := 0
  socket : Option Nat := none
  stopped : Bool := false
  establishment : Option Nat := none
  nextEstablishmentGeneration : Nat := 0
  retired : Nat → Bool := fun _ => false
  applied : List (Nat × Envelope J) := []

namespace Connection

variable {J : Type} (connection : Connection J) (id : Nat)

/-- The socket with other variables. -/
def set (socket : Socket J) : Connection J :=
  { connection with sockets := Function.update connection.sockets id socket }

/-- The socket that has the place loses it. -/
def giveUp : Connection J :=
  { connection with
    socket := none
    retired := fun other => connection.retired other || decide (connection.socket = some other) }

/-- `retireCurrentSocket`, with `expectedSocket`. -/
def retire : Connection J := if connection.socket = some id then connection.giveUp else connection

/-- `invalidateSocketAfterRecoveryFailure`. -/
def invalidate : Connection J :=
  if connection.socket = some id ∧ connection.stopped = false then
    (connection.set id { connection.sockets id with socketReady := false }).giveUp
  else connection

/-- `new WebSocketCtor(…)` takes the place of the socket there is. -/
def construct : Connection J :=
  { connection.giveUp with
    created := connection.created + 1
    socket := some connection.created
    establishment := none }

/-- The envelope is applied to the store. -/
def applyLiveEnvelope (envelope : Envelope J) : Connection J :=
  { connection with applied := connection.applied ++ [(id, envelope)] }

/-- The frame's handling ends, or goes on elsewhere. -/
def wait (handling : Handling J) : Connection J :=
  connection.set id { connection.sockets id with handling }

/-- The catch of `handleSocketMessage`, for a frame that is invalid. -/
def reject : Connection J :=
  (connection.set id { connection.sockets id with handling := .idle, invalid := true }).invalidate id

/-- What `handleSocketMessage` does with a frame that comes to something. -/
def perform (envelope : Envelope J) (lastDataEnvelopeId : Nat) : Outcome J → Connection J
  | .invalid => (connection.set id { connection.sockets id with lastDataEnvelopeId }).reject id
  | .accept hello =>
    connection.set id { connection.sockets id with acceptedHello := some hello, handling := .recovering }
  | .heartbeat => connection.wait id .idle
  | .resync =>
    (connection.set id { connection.sockets id with handling := .idle, lastDataEnvelopeId }).retire id
  | .apply _ =>
    (connection.set id { connection.sockets id with handling := .refreshing, lastDataEnvelopeId }).applyLiveEnvelope
      id envelope

end Connection

def liveProjectionMaxQueuedFrames : Nat := 64

/-- `queuedFrameCount`: the frames that wait, and the one that is handled. -/
def Socket.queuedFrameCount {J : Type} (socket : Socket J) : Nat :=
  socket.queued.length +
    match socket.handling with
    | .idle => 0
    | _ => 1

section Steps

variable {J : Type} (canonicalBody : LiveDelta J → Bool) (liveScope : LiveScope)

/-- One callback, or the part of one up to where it waits. -/
inductive Step : Connection J → Connection J → Prop where
  /-- `openSocket`, at first or by a reconnect. -/
  | beginEstablishment {connection : Connection J} (none_ : connection.establishment = none)
      (running : connection.stopped = false) :
      Step connection
        { connection with
          establishment := some connection.nextEstablishmentGeneration
          nextEstablishmentGeneration := connection.nextEstablishmentGeneration + 1 }
  /-- The request fails, or its deadline passes. -/
  | endEstablishment {connection : Connection J} :
      Step connection { connection with establishment := none }
  /-- The response to a request that is the current one, with a ticket. -/
  | ticket {connection : Connection J} {generation : Nat}
      (current : connection.establishment = some generation) (running : connection.stopped = false) :
      Step connection connection.construct
  /-- The `open` event. -/
  | opened {connection : Connection J} {id : Nat} (current : connection.socket = some id)
      (running : connection.stopped = false) :
      Step connection (connection.set id { connection.sockets id with socketOpened := true })
  /-- The `message` event, of any socket. -/
  | message {connection : Connection J} {id : Nat} (frame : Option (Envelope J)) (made : id < connection.created)
      (room : (connection.sockets id).queuedFrameCount < liveProjectionMaxQueuedFrames) :
      Step connection (connection.set id
        { connection.sockets id with queued := (connection.sockets id).queued ++ [frame] })
  | overflow {connection : Connection J} {id : Nat}
      (full : liveProjectionMaxQueuedFrames ≤ (connection.sockets id).queuedFrameCount) :
      Step connection (connection.invalidate id)
  /-- The turn of the next frame. -/
  | handleSocketMessage {connection : Connection J} {id : Nat} {frame : Option (Envelope J)}
      {rest : List (Option (Envelope J))} (idle : (connection.sockets id).handling = .idle)
      (queued : (connection.sockets id).queued = frame :: rest) :
      Step connection (connection.set id { connection.sockets id with
          queued := rest
          handling := if connection.socket = some id then .decoding frame else .idle })
  /-- The frame does not decode. -/
  | undecoded {connection : Connection J} {id : Nat}
      (decoding : (connection.sockets id).handling = .decoding none) :
      Step connection (connection.reject id)
  /-- The frame is decoded when its socket has lost its place. -/
  | staleFrame {connection : Connection J} {id : Nat} {envelope : Envelope J}
      (decoding : (connection.sockets id).handling = .decoding (some envelope))
      (stale : connection.socket ≠ some id ∨ connection.stopped = true) :
      Step connection (connection.wait id .idle)
  | decoded {connection : Connection J} {id : Nat} {envelope : Envelope J}
      (decoding : (connection.sockets id).handling = .decoding (some envelope))
      (current : connection.socket = some id) (running : connection.stopped = false) :
      Step connection (connection.perform id envelope
        (if normalizesServerEnvelope canonicalBody envelope && (connection.sockets id).contiguous envelope then
          (connection.sockets id).counted envelope
        else (connection.sockets id).lastDataEnvelopeId)
        ((connection.sockets id).handle canonicalBody liveScope (some envelope)))
  /-- The refresh after the `Hello` succeeds. -/
  | recovered {connection : Connection J} {id : Nat}
      (recovering : (connection.sockets id).handling = .recovering) :
      Step connection (connection.set id { connection.sockets id with
          handling := .idle
          recovered := true
          socketReady := (connection.sockets id).socketReady ||
            (decide (connection.socket = some id) && !connection.stopped) })
  /-- It fails. -/
  | recoveryFailed {connection : Connection J} {id : Nat}
      (recovering : (connection.sockets id).handling = .recovering) :
      Step connection ((connection.wait id .idle).invalidate id)
  /-- The refresh of what depends on a delta succeeds, or there is nothing to refresh. -/
  | refreshed {connection : Connection J} {id : Nat}
      (refreshing : (connection.sockets id).handling = .refreshing) :
      Step connection (connection.wait id .idle)
  /-- The store throws, or the refresh fails. -/
  | refreshFailed {connection : Connection J} {id : Nat}
      (refreshing : (connection.sockets id).handling = .refreshing) :
      Step connection ((connection.wait id .idle).invalidate id)
  /-- The `error` event, the deadline of the handshake or of the freshness lease. -/
  | failed {connection : Connection J} {id : Nat} : Step connection (connection.invalidate id)
  /-- The `close` event. -/
  | closed {connection : Connection J} {id : Nat} (current : connection.socket = some id) :
      Step connection ((connection.set id { connection.sockets id with socketReady := false }).retire id)
  /-- `reconnectNow`. -/
  | reconnectNow {connection : Connection J} (running : connection.stopped = false) :
      Step connection { connection.giveUp with establishment := none }
  /-- `drop`. -/
  | drop {connection : Connection J} : Step connection connection.giveUp
  /-- `close`. -/
  | close {connection : Connection J} :
      Step connection { connection.giveUp with stopped := true, establishment := none }

end Steps

/-! ## What every state keeps -/

section Laws

variable {J : Type} {canonicalBody : LiveDelta J → Bool} {liveScope : LiveScope}
  {connection connection' : Connection J} {id other : Nat} {socket : Socket J}

/-- The envelopes that were applied from a socket. -/
def Connection.appliedFrom (connection : Connection J) (id : Nat) : List (Envelope J) :=
  (connection.applied.filter (·.1 = id)).map (·.2)

/-- A socket that is ready, or about to be, has had a `Hello` of the connection's scope, and one that is
ready has been refreshed. -/
structure SocketKept (liveScope : LiveScope) (socket : Socket J) : Prop where
  scope : ∀ hello, socket.acceptedHello = some hello → hello.scope = liveScope
  accepted : socket.socketReady = true ∨ socket.handling = .recovering →
    ∃ hello, socket.acceptedHello = some hello
  ready : socket.socketReady = true → socket.recovered = true

/-- What every state keeps: of the current socket all data frames have been applied. -/
structure Kept (liveScope : LiveScope) (connection : Connection J) : Prop where
  sockets : ∀ id, SocketKept liveScope (connection.sockets id)
  current : ∀ id, connection.socket = some id → id < connection.created ∧ connection.retired id = false ∧
    (connection.sockets id).invalid = false ∧
    (connection.appliedFrom id).length = (connection.sockets id).lastDataEnvelopeId
  unmade : ∀ id, connection.created ≤ id →
    connection.sockets id = {} ∧ connection.retired id = false ∧ connection.appliedFrom id = []
  ids : ∀ id, (connection.appliedFrom id).map (·.id) = List.range' 1 (connection.appliedFrom id).length
  stopped : connection.stopped = true → connection.socket = none

theorem sockets_set : (connection.set id socket).sockets id = socket := Function.update_self _ _ _

theorem sockets_set_ne (h : other ≠ id) :
    (connection.set id socket).sockets other = connection.sockets other := Function.update_of_ne h _ _

theorem Kept.made (h : Kept liveScope connection) (hsocket : connection.sockets id ≠ {}) :
    id < connection.created := by
  by_contra hunmade
  exact hsocket (h.unmade id (by omega)).1

/-- New variables of a socket that has been made. -/
theorem Kept.set (h : Kept liveScope connection) (hmade : id < connection.created)
    (hsocket : SocketKept liveScope socket)
    (hcurrent : connection.socket = some id → socket.invalid = (connection.sockets id).invalid ∧
      socket.lastDataEnvelopeId = (connection.sockets id).lastDataEnvelopeId) :
    Kept liveScope (connection.set id socket) where
  sockets other := by
    by_cases hother : other = id
    · subst hother
      rw [sockets_set]
      exact hsocket
    · rw [sockets_set_ne hother]
      exact h.sockets other
  current other hcur := by
    obtain ⟨hlt, hretired, hinvalid, hlength⟩ := h.current other hcur
    by_cases hother : other = id
    · subst hother
      obtain ⟨hsame, hlast⟩ := hcurrent hcur
      rw [sockets_set, hsame, hlast]
      exact ⟨hlt, hretired, hinvalid, hlength⟩
    · rw [sockets_set_ne hother]
      exact ⟨hlt, hretired, hinvalid, hlength⟩
  unmade other hunmade := by
    have hunmade : connection.created ≤ other := hunmade
    rw [sockets_set_ne (by omega)]
    exact h.unmade other hunmade
  ids := h.ids
  stopped := h.stopped

/-- The place is given up, whatever the variables of the socket that had it. -/
theorem Kept.set_giveUp (h : Kept liveScope connection) (hmade : id < connection.created)
    (hsocket : SocketKept liveScope socket) : Kept liveScope (connection.set id socket).giveUp where
  sockets other := by
    by_cases hother : other = id
    · subst hother
      rw [show ((connection.set other socket).giveUp.sockets other) = socket from sockets_set]
      exact hsocket
    · rw [show ((connection.set id socket).giveUp.sockets other) = _ from sockets_set_ne hother]
      exact h.sockets other
  current other hcur := absurd hcur (by simp [Connection.giveUp])
  unmade other hunmade := by
    have hunmade : connection.created ≤ other := hunmade
    obtain ⟨hsocket, hretired, happlied⟩ := h.unmade other hunmade
    refine ⟨(sockets_set_ne (by omega)).trans hsocket, ?_, happlied⟩
    have hnot : connection.socket ≠ some other := by
      intro hcur
      have hlt := (h.current other hcur).1
      omega
    simp [Connection.giveUp, Connection.set, hretired, hnot]
  ids := h.ids
  stopped _ := rfl

theorem Kept.giveUp (h : Kept liveScope connection) : Kept liveScope connection.giveUp where
  sockets := h.sockets
  current other hcur := absurd hcur (by simp [Connection.giveUp])
  unmade other hunmade := by
    have hunmade : connection.created ≤ other := hunmade
    obtain ⟨hsocket, hretired, happlied⟩ := h.unmade other hunmade
    refine ⟨hsocket, ?_, happlied⟩
    have hnot : connection.socket ≠ some other := by
      intro hcur
      have hlt := (h.current other hcur).1
      omega
    simp [Connection.giveUp, hretired, hnot]
  ids := h.ids
  stopped _ := rfl

theorem set_set (first second : Socket J) :
    (connection.set id first).set id second = connection.set id second := by
  unfold Connection.set
  rw [Function.update_idem]

theorem Kept.invalidate (h : Kept liveScope connection) (id : Nat) :
    Kept liveScope (connection.invalidate id) := by
  unfold Connection.invalidate
  split
  case isTrue hcurrent =>
    obtain ⟨hscope, haccepted, -⟩ := h.sockets id
    exact h.set_giveUp (h.current id hcurrent.1).1
      ⟨hscope, fun hwaits => haccepted (.inr (hwaits.resolve_left (by simp))), by simp⟩
  case isFalse => exact h

theorem Kept.construct (h : Kept liveScope connection) (hrunning : connection.stopped = false) :
    Kept liveScope connection.construct where
  sockets := h.sockets
  current other hcur := by
    obtain rfl : connection.created = other := Option.some.inj hcur
    obtain ⟨hsocket, hretired, happlied⟩ := h.unmade connection.created (Nat.le_refl _)
    have hretired' : connection.giveUp.retired connection.created = false :=
      (h.giveUp.unmade connection.created (Nat.le_refl _)).2.1
    refine ⟨Nat.lt_succ_self _, hretired', ?_, ?_⟩
    · exact congrArg Socket.invalid hsocket
    · have hnone : connection.construct.appliedFrom connection.created = [] := happlied
      rw [hnone]
      exact (congrArg Socket.lastDataEnvelopeId hsocket).symm
  unmade other hunmade := by
    have hunmade : connection.created + 1 ≤ other := hunmade
    exact h.giveUp.unmade other (show connection.created ≤ other by omega)
  ids := h.ids
  stopped hstopped := absurd (show connection.stopped = true from hstopped) (by simp [hrunning])

/-! ### A frame -/

variable {envelope : Envelope J} {outcome : Outcome J}

theorem handle_some (h : socket.handle canonicalBody liveScope (some envelope) = outcome)
    (houtcome : outcome ≠ .invalid) :
    (normalizesServerEnvelope canonicalBody envelope && socket.contiguous envelope) = true ∧
      socket.outcome liveScope envelope = outcome := by
  unfold Socket.handle at h
  dsimp only at h
  by_cases hvalid : (normalizesServerEnvelope canonicalBody envelope && socket.contiguous envelope) = true
  · rw [if_pos hvalid] at h
    exact ⟨hvalid, h⟩
  · rw [if_neg hvalid] at h
    exact absurd h.symm houtcome

/-- A `Hello` is accepted of the connection's scope alone, and by a socket that is not ready. -/
theorem outcome_accept {hello : Hello} (h : socket.outcome liveScope envelope = .accept hello) :
    socket.socketReady = false ∧ hello.scope = liveScope := by
  obtain ⟨v, id, body⟩ := envelope
  unfold Socket.outcome at h
  cases hready : socket.socketReady with
  | false =>
    cases body with
    | hello hello' =>
      simp only [hready] at h
      split at h
      case isTrue hvalid =>
        obtain rfl := Outcome.accept.inj h
        simp only [validMessageScope, Bool.and_eq_true, decide_eq_true_iff] at hvalid
        exact ⟨rfl, hvalid.2.1⟩
      case isFalse => simp at h
    | delta audience delta => simp [hready] at h
    | resyncRequired scope audiences fromEventSeq => simp [hready] at h
  | true =>
    simp only [hready] at h
    split at h
    · cases body with
      | hello hello' =>
        dsimp only at h
        split at h <;> simp at h
      | delta audience delta => simp at h
      | resyncRequired scope audiences fromEventSeq => simp at h
    · simp at h

/-- An envelope that is applied is a delta whose audience the accepted `Hello` entitles to. -/
theorem outcome_apply {applied : Envelope J} (h : socket.outcome liveScope envelope = .apply applied) :
    applied = envelope ∧ socket.socketReady = true ∧ ∃ hello audience delta,
      socket.acceptedHello = some hello ∧ envelope.body = .delta audience delta ∧
        entitledAudience hello liveScope audience = true := by
  obtain ⟨v, id, body⟩ := envelope
  unfold Socket.outcome at h
  cases hready : socket.socketReady with
  | false =>
    cases body with
    | hello hello' =>
      simp only [hready] at h
      split at h <;> simp at h
    | delta audience delta => simp [hready] at h
    | resyncRequired scope audiences fromEventSeq => simp [hready] at h
  | true =>
    simp only [hready] at h
    split at h
    case isTrue hvalid =>
      cases body with
      | hello hello' =>
        dsimp only at h
        split at h <;> simp at h
      | delta audience delta =>
        obtain rfl := Outcome.apply.inj h
        simp only [EnvelopeBody.audiences, List.all_cons, List.all_nil, Bool.and_true, Bool.and_eq_true] at hvalid
        obtain ⟨hello, haccepted, hentitled⟩ := (Option.any_eq_true _ _).1 hvalid.2
        exact ⟨rfl, rfl, hello, audience, delta, haccepted, rfl, hentitled⟩
      | resyncRequired scope audiences fromEventSeq => simp at h
    case isFalse => simp at h

theorem counted_of_contiguous {audience : LiveAudience} {delta : LiveDelta J}
    (hbody : envelope.body = .delta audience delta) (h : socket.contiguous envelope = true) :
    envelope.id = socket.lastDataEnvelopeId + 1 ∧ socket.counted envelope = envelope.id := by
  unfold Socket.contiguous at h
  unfold Socket.counted
  rw [hbody] at h ⊢
  exact ⟨by simpa using h, rfl⟩

/-! ### Steps -/

theorem appliedFrom_apply (connection : Connection J) (id : Nat) (envelope : Envelope J) :
    (connection.applyLiveEnvelope id envelope).appliedFrom id = connection.appliedFrom id ++ [envelope] := by
  simp [Connection.appliedFrom, Connection.applyLiveEnvelope]

theorem appliedFrom_apply_ne (envelope : Envelope J) (h : other ≠ id) :
    (connection.applyLiveEnvelope id envelope).appliedFrom other = connection.appliedFrom other := by
  simp [Connection.appliedFrom, Connection.applyLiveEnvelope, h.symm]

/-- The current socket's next envelope is applied. -/
theorem Kept.apply (h : Kept liveScope connection) (hcurrent : connection.socket = some id)
    (hsocket : SocketKept liveScope socket)
    (hinvalid : socket.invalid = (connection.sockets id).invalid)
    (hid : envelope.id = (connection.sockets id).lastDataEnvelopeId + 1)
    (hlast : socket.lastDataEnvelopeId = envelope.id) :
    Kept liveScope ((connection.set id socket).applyLiveEnvelope id envelope) := by
  obtain ⟨hmade, hretired, hvalid, hlength⟩ := h.current id hcurrent
  have hfrom : ((connection.set id socket).applyLiveEnvelope id envelope).appliedFrom id =
      connection.appliedFrom id ++ [envelope] := appliedFrom_apply _ id envelope
  have hothers : ∀ other, other ≠ id →
      ((connection.set id socket).applyLiveEnvelope id envelope).appliedFrom other =
        connection.appliedFrom other := fun other hother => appliedFrom_apply_ne envelope hother
  refine ⟨fun other => ?_, fun other hcur => ?_, fun other hunmade => ?_, fun other => ?_, h.stopped⟩
  · by_cases hother : other = id
    · subst hother
      rw [show ((connection.set other socket).applyLiveEnvelope other envelope).sockets other = socket from
        sockets_set]
      exact hsocket
    · rw [show ((connection.set id socket).applyLiveEnvelope id envelope).sockets other = _ from
        sockets_set_ne hother]
      exact h.sockets other
  · obtain rfl : id = other := Option.some.inj (hcurrent.symm.trans hcur)
    rw [hfrom, show ((connection.set id socket).applyLiveEnvelope id envelope).sockets id = socket from
      sockets_set, List.length_append, hlength, hlast, hid, hinvalid]
    exact ⟨hmade, hretired, hvalid, rfl⟩
  · have hunmade : connection.created ≤ other := hunmade
    have hother : other ≠ id := by omega
    rw [hothers other hother]
    exact ⟨(sockets_set_ne hother).trans (h.unmade other hunmade).1, (h.unmade other hunmade).2⟩
  · by_cases hother : other = id
    · subst hother
      rw [hfrom, List.map_append, h.ids, List.length_append, hlength, List.map_singleton, hid,
        List.length_singleton, List.range'_concat]
      simp [Nat.add_comm]
    · rw [hothers other hother]
      exact h.ids other

/-- The frame's socket stops waiting, or waits for something that no `Hello` is needed for. -/
theorem SocketKept.wait (h : SocketKept liveScope socket) {handling : Handling J}
    (hhandling : handling ≠ .recovering) : SocketKept liveScope { socket with handling } :=
  ⟨h.scope, fun hwaits => h.accepted (.inl (hwaits.resolve_right hhandling)), h.ready⟩

/-- Variables that the laws do not speak of. -/
theorem SocketKept.congr (h : SocketKept liveScope socket) {socket' : Socket J}
    (haccepted : socket'.acceptedHello = socket.acceptedHello) (hready : socket'.socketReady = socket.socketReady)
    (hhandling : socket'.handling = .recovering → socket.handling = .recovering)
    (hrecovered : socket'.recovered = socket.recovered) : SocketKept liveScope socket' := by
  refine ⟨fun hello hsome => h.scope hello (haccepted ▸ hsome), fun hwaits => ?_, fun hisReady => ?_⟩
  · rw [haccepted]
    exact h.accepted (hwaits.imp (fun hisReady => hready ▸ hisReady) hhandling)
  · rw [hrecovered]
    exact h.ready (hready ▸ hisReady)

theorem SocketKept.unready (h : SocketKept liveScope socket) :
    SocketKept liveScope { socket with socketReady := false } :=
  ⟨h.scope, fun hwaits => h.accepted (.inr (hwaits.resolve_left (by simp))), by simp⟩

theorem Kept.busy (h : Kept liveScope connection) (hbusy : (connection.sockets id).handling ≠ .idle) :
    id < connection.created :=
  h.made fun hempty => hbusy (by rw [hempty])

theorem Kept.wait (h : Kept liveScope connection) (hmade : id < connection.created) {handling : Handling J}
    (hhandling : handling ≠ .recovering) : Kept liveScope (connection.wait id handling) :=
  h.set hmade ((h.sockets id).wait hhandling) fun _ => ⟨rfl, rfl⟩

/-- A socket that is current is so while the connection is not closed, so it loses its place. -/
theorem Kept.set_invalidate (h : Kept liveScope connection) (hmade : id < connection.created)
    (hsocket : SocketKept liveScope socket) : Kept liveScope ((connection.set id socket).invalidate id) := by
  unfold Connection.invalidate
  split
  case isTrue hcurrent =>
    rw [sockets_set, set_set]
    exact h.set_giveUp hmade hsocket.unready
  case isFalse hnot =>
    refine h.set hmade hsocket fun hcurrent => absurd ⟨hcurrent, ?_⟩ hnot
    by_contra hstopped
    have hnone := h.stopped (Bool.not_eq_false _ ▸ hstopped)
    rw [hnone] at hcurrent
    cases hcurrent

theorem Kept.set_retire (h : Kept liveScope connection) (hcurrent : connection.socket = some id)
    (hsocket : SocketKept liveScope socket) : Kept liveScope ((connection.set id socket).retire id) := by
  unfold Connection.retire
  rw [if_pos (show (connection.set id socket).socket = some id from hcurrent)]
  exact h.set_giveUp (h.current id hcurrent).1 hsocket

theorem reject_set : (connection.set id socket).reject id =
    (connection.set id { socket with handling := .idle, invalid := true }).invalidate id := by
  unfold Connection.reject
  rw [sockets_set, set_set]

theorem Kept.reject (h : Kept liveScope connection) (hmade : id < connection.created)
    (hsocket : SocketKept liveScope socket) : Kept liveScope ((connection.set id socket).reject id) := by
  rw [reject_set]
  exact h.set_invalidate hmade (hsocket.congr rfl rfl (by simp) rfl)

/-- What is kept when a frame that is decoded is the current socket's. -/
theorem Kept.perform (h : Kept liveScope connection) (hcurrent : connection.socket = some id) {last : Nat}
    (houtcome : (connection.sockets id).handle canonicalBody liveScope (some envelope) = outcome)
    (hlast : last = if normalizesServerEnvelope canonicalBody envelope && (connection.sockets id).contiguous envelope then (connection.sockets id).counted envelope else (connection.sockets id).lastDataEnvelopeId) :
    Kept liveScope (connection.perform id envelope last outcome) := by
  have hmade := (h.current id hcurrent).1
  cases outcome with
  | invalid => exact h.reject hmade ((h.sockets id).congr rfl rfl (fun hhandling => hhandling) rfl)
  | accept hello =>
    obtain ⟨-, haccept⟩ := handle_some houtcome (by simp)
    obtain ⟨hready, hscope⟩ := outcome_accept haccept
    refine h.set hmade ⟨fun hello' hsome => ?_, fun _ => ⟨hello, rfl⟩, fun hisReady => ?_⟩ fun _ => ⟨rfl, rfl⟩
    · obtain rfl := Option.some.inj hsome
      exact hscope
    · cases hready.symm.trans hisReady
  | heartbeat => exact h.wait hmade (by simp)
  | resync => exact h.set_retire hcurrent ((h.sockets id).congr rfl rfl (by simp) rfl)
  | apply applied =>
    obtain ⟨hvalid, happly⟩ := handle_some houtcome (by simp)
    obtain ⟨-, -, -, audience, delta, -, hbody, -⟩ := outcome_apply happly
    rw [if_pos hvalid] at hlast
    obtain ⟨hid, hcounted⟩ := counted_of_contiguous hbody (Bool.and_eq_true_iff.1 hvalid).2
    have hsocket : SocketKept liveScope
        { connection.sockets id with handling := .refreshing, lastDataEnvelopeId := last } :=
      (h.sockets id).congr rfl rfl (by simp) rfl
    exact h.apply hcurrent hsocket rfl hid (hlast.trans hcounted)

theorem Kept.start : Kept liveScope ({} : Connection J) where
  sockets _ := ⟨by simp, by simp, by simp⟩
  current _ hcurrent := by cases hcurrent
  unmade _ _ := ⟨rfl, rfl, rfl⟩
  ids _ := rfl
  stopped _ := rfl

/-- Every step keeps it. -/
theorem Kept.step (h : Kept liveScope connection) (hstep : Step canonicalBody liveScope connection connection') :
    Kept liveScope connection' := by
  cases hstep with
  | beginEstablishment | endEstablishment => exact ⟨h.sockets, h.current, h.unmade, h.ids, h.stopped⟩
  | ticket _ running => exact h.construct running
  | @opened id current =>
    exact h.set (h.current id current).1 ((h.sockets id).congr rfl rfl (fun hhandling => hhandling) rfl)
      fun _ => ⟨rfl, rfl⟩
  | @message id frame made =>
    exact h.set made ((h.sockets id).congr rfl rfl (fun hhandling => hhandling) rfl) fun _ => ⟨rfl, rfl⟩
  | overflow | failed => exact h.invalidate _
  | @handleSocketMessage id frame rest idle queued =>
    refine h.set (h.made fun hempty => ?_) ((h.sockets id).congr rfl rfl (fun hhandling => ?_) rfl)
      fun _ => ⟨rfl, rfl⟩
    · rw [hempty] at queued
      cases queued
    · dsimp only at hhandling
      split at hhandling <;> cases hhandling
  | @undecoded id decoding =>
    have hself : connection.set id (connection.sockets id) = connection := by
      unfold Connection.set
      rw [Function.update_eq_self]
    rw [← hself]
    exact h.reject (h.busy (by simp [decoding])) (h.sockets id)
  | staleFrame decoding => exact h.wait (h.busy (by simp [decoding])) (by simp)
  | decoded decoding current => exact h.perform current rfl rfl
  | @recovered id recovering =>
    obtain ⟨hscope, haccepted, -⟩ := h.sockets id
    exact h.set (h.busy (by simp [recovering]))
      ⟨hscope, fun _ => haccepted (.inr recovering), fun _ => rfl⟩ fun _ => ⟨rfl, rfl⟩
  | recoveryFailed handling | refreshFailed handling =>
    exact (h.wait (h.busy (by simp [handling])) (by simp)).invalidate _
  | refreshed refreshing => exact h.wait (h.busy (by simp [refreshing])) (by simp)
  | @closed id current => exact h.set_retire current (h.sockets id).unready
  | reconnectNow =>
    obtain ⟨hsockets, hcurrent, hunmade, hids, hstopped⟩ := h.giveUp
    exact ⟨hsockets, hcurrent, hunmade, hids, hstopped⟩
  | drop => exact h.giveUp
  | close =>
    obtain ⟨hsockets, hcurrent, hunmade, hids, -⟩ := h.giveUp
    exact ⟨hsockets, hcurrent, hunmade, hids, fun _ => rfl⟩

theorem kept_run (hrun : ReflTransGen (Step canonicalBody liveScope) {} connection) :
    Kept liveScope connection := by
  induction hrun with
  | refl => exact Kept.start
  | tail _ hstep ih => exact ih.step hstep

/-! ### What is over stays over -/

/-- The socket has lost its place, or has had an invalid frame. -/
def Connection.Gone (connection : Connection J) (id : Nat) : Prop :=
  connection.retired id = true ∨ (connection.sockets id).invalid = true

/-- No socket comes back. -/
def Fades (connection connection' : Connection J) : Prop :=
  ∀ id, connection.Gone id → connection'.Gone id

theorem Fades.of_eq (hretired : connection'.retired = connection.retired)
    (hsockets : connection'.sockets = connection.sockets) : Fades connection connection' := by
  intro id hgone
  rw [Connection.Gone, hretired, hsockets]
  exact hgone

theorem Fades.after {between : Connection J} (h' : Fades between connection') (h : Fades connection between) :
    Fades connection connection' := fun id hgone => h' id (h id hgone)

theorem Fades.set (h : (connection.sockets id).invalid = true → socket.invalid = true) :
    Fades connection (connection.set id socket) := by
  intro other hgone
  refine hgone.imp_right fun hinvalid => ?_
  by_cases hother : other = id
  · subst hother
    rw [sockets_set]
    exact h hinvalid
  · rw [sockets_set_ne hother]
    exact hinvalid

theorem Fades.giveUp : Fades connection connection.giveUp := by
  intro id hgone
  refine hgone.imp_left fun hretired => ?_
  simp [Connection.giveUp, hretired]

theorem Fades.retire (id : Nat) : Fades connection (connection.retire id) := by
  unfold Connection.retire
  split
  · exact Fades.giveUp
  · exact fun _ hgone => hgone

theorem Fades.invalidate (id : Nat) : Fades connection (connection.invalidate id) := by
  unfold Connection.invalidate
  split
  · exact Fades.giveUp.after (Fades.set fun hinvalid => hinvalid)
  · exact fun _ hgone => hgone

theorem Fades.reject (id : Nat) : Fades connection (connection.reject id) :=
  (Fades.invalidate id).after (Fades.set fun _ => rfl)

theorem Fades.perform (id : Nat) (envelope : Envelope J) (last : Nat) (outcome : Outcome J) :
    Fades connection (connection.perform id envelope last outcome) := by
  cases outcome with
  | invalid => exact (Fades.reject id).after (Fades.set fun hinvalid => hinvalid)
  | accept | heartbeat => exact Fades.set fun hinvalid => hinvalid
  | resync => exact (Fades.retire id).after (Fades.set fun hinvalid => hinvalid)
  | apply => exact (Fades.of_eq rfl rfl).after (Fades.set fun hinvalid => hinvalid)

theorem Fades.step (hstep : Step canonicalBody liveScope connection connection') :
    Fades connection connection' := by
  cases hstep with
  | beginEstablishment | endEstablishment => exact Fades.of_eq rfl rfl
  | ticket | reconnectNow | close => exact (Fades.of_eq rfl rfl).after Fades.giveUp
  | opened | message | handleSocketMessage | recovered | staleFrame | refreshed =>
    exact Fades.set fun hinvalid => hinvalid
  | overflow | failed => exact Fades.invalidate _
  | undecoded => exact Fades.reject _
  | decoded => exact Fades.perform _ _ _ _
  | recoveryFailed | refreshFailed => exact (Fades.invalidate _).after (Fades.set fun hinvalid => hinvalid)
  | closed => exact (Fades.retire _).after (Fades.set fun hinvalid => hinvalid)
  | drop => exact Fades.giveUp

/-! ### What is applied -/

theorem applied_invalidate (id : Nat) : (connection.invalidate id).applied = connection.applied := by
  unfold Connection.invalidate
  split <;> rfl

theorem applied_retire (id : Nat) : (connection.retire id).applied = connection.applied := by
  unfold Connection.retire
  split <;> rfl

theorem applied_perform {last : Nat} (houtcome : ∀ applied, outcome ≠ .apply applied) :
    (connection.perform id envelope last outcome).applied = connection.applied := by
  cases outcome with
  | invalid => exact applied_invalidate id
  | accept | heartbeat => rfl
  | resync => exact applied_retire id
  | apply applied => exact absurd rfl (houtcome applied)

/-- A step applies nothing, or what has come of a frame of the current socket. -/
theorem step_applied (hstep : Step canonicalBody liveScope connection connection') :
    connection'.applied = connection.applied ∨ ∃ id envelope applied, connection.socket = some id ∧
      connection.stopped = false ∧
      (connection.sockets id).handle canonicalBody liveScope (some envelope) = .apply applied ∧
      connection'.applied = connection.applied ++ [(id, envelope)] := by
  cases hstep with
  | beginEstablishment | endEstablishment | ticket | opened | message | handleSocketMessage | staleFrame
  | recovered | refreshed | reconnectNow | drop | close => exact .inl rfl
  | overflow | failed | undecoded | recoveryFailed | refreshFailed => exact .inl (applied_invalidate _)
  | closed => exact .inl (applied_retire _)
  | @decoded id envelope _ current running =>
    by_cases happly : ∃ applied, (connection.sockets id).handle canonicalBody liveScope (some envelope) =
        .apply applied
    · obtain ⟨applied, happly⟩ := happly
      refine .inr ⟨id, envelope, applied, current, running, happly, ?_⟩
      rw [happly]
      rfl
    · exact .inl (applied_perform fun applied houtcome => happly ⟨applied, houtcome⟩)

/-- What it takes to apply an envelope of a socket. -/
structure Applicable (liveScope : LiveScope) (connection : Connection J) (id : Nat) (envelope : Envelope J) :
    Prop where
  current : connection.socket = some id
  running : connection.stopped = false
  live : ¬ connection.Gone id
  ready : (connection.sockets id).socketReady = true
  recovered : (connection.sockets id).recovered = true
  entitled : ∃ hello audience delta, (connection.sockets id).acceptedHello = some hello ∧
    hello.scope = liveScope ∧ envelope.body = .delta audience delta ∧
    entitledAudience hello liveScope audience = true
  next : envelope.id = (connection.appliedFrom id).length + 1

theorem Kept.applicable (h : Kept liveScope connection) (hcurrent : connection.socket = some id)
    (hrunning : connection.stopped = false) {applied : Envelope J}
    (happly : (connection.sockets id).handle canonicalBody liveScope (some envelope) = .apply applied) :
    Applicable liveScope connection id envelope := by
  obtain ⟨-, hretired, hvalid, hlength⟩ := h.current id hcurrent
  obtain ⟨haccepted, houtcome⟩ := handle_some happly (by simp)
  obtain ⟨-, hready, hello, audience, delta, hhello, hbody, hentitled⟩ := outcome_apply houtcome
  have hnext := (counted_of_contiguous hbody (Bool.and_eq_true_iff.1 haccepted).2).1
  exact {
    current := hcurrent
    running := hrunning
    live := by rintro (hgone | hgone) <;> simp_all
    ready := hready
    recovered := (h.sockets id).ready hready
    entitled := ⟨hello, audience, delta, hhello, (h.sockets id).scope hello hhello, hbody, hentitled⟩
    next := by rw [hnext, hlength] }

theorem Kept.step_applied (h : Kept liveScope connection)
    (hstep : Step canonicalBody liveScope connection connection') :
    connection'.applied = connection.applied ∨ ∃ id envelope, Applicable liveScope connection id envelope ∧
      connection'.applied = connection.applied ++ [(id, envelope)] := by
  rcases LiveTransport.step_applied hstep with hsame | ⟨id, envelope, applied, hcurrent, hrunning, happly, happlied⟩
  · exact .inl hsame
  · exact .inr ⟨id, envelope, h.applicable hcurrent hrunning happly, happlied⟩

/-- Nothing more comes of a socket that is gone. -/
theorem Kept.gone_run (h : Kept liveScope connection) (hgone : connection.Gone id)
    (hlater : ReflTransGen (Step canonicalBody liveScope) connection connection') :
    connection'.appliedFrom id = connection.appliedFrom id := by
  suffices hrun : Kept liveScope connection' ∧ connection'.Gone id ∧
      connection'.appliedFrom id = connection.appliedFrom id from hrun.2.2
  induction hlater with
  | refl => exact ⟨h, hgone, rfl⟩
  | tail _ hstep ih =>
    obtain ⟨hkept, hgone', hsame⟩ := ih
    refine ⟨hkept.step hstep, Fades.step hstep id hgone', ?_⟩
    rcases hkept.step_applied hstep with happlied | ⟨other, envelope, happlicable, happlied⟩
    · rw [← hsame, Connection.appliedFrom, Connection.appliedFrom, happlied]
    · have hother : other ≠ id := by
        rintro rfl
        exact happlicable.live hgone'
      rw [← hsame, Connection.appliedFrom, Connection.appliedFrom, happlied]
      simp [hother]

/-- **An envelope is applied only from the current socket, after its `Hello` and the refresh, in order, and
for an audience the `Hello` entitles to; from a socket that is gone nothing is.** -/
theorem applied_only_live (hrun : ReflTransGen (Step canonicalBody liveScope) {} connection) :
    (∀ connection', Step canonicalBody liveScope connection connection' →
      connection'.applied = connection.applied ∨ ∃ id envelope, Applicable liveScope connection id envelope ∧
          connection'.applied = connection.applied ++ [(id, envelope)]) ∧
    (∀ id, (connection.appliedFrom id).map (·.id) = List.range' 1 (connection.appliedFrom id).length) ∧
    ∀ id, connection.Gone id → ∀ later, ReflTransGen (Step canonicalBody liveScope) connection later →
      later.appliedFrom id = connection.appliedFrom id :=
  ⟨fun _ hstep => (kept_run hrun).step_applied hstep, (kept_run hrun).ids,
    fun _ hgone _ hlater => (kept_run hrun).gone_run hgone hlater⟩

/-- The current socket is live, and every data frame counted of it is applied. -/
theorem current_applied {id : Nat} (hrun : ReflTransGen (Step canonicalBody liveScope) {} connection)
    (hcurrent : connection.socket = some id) : connection.retired id = false ∧
      (connection.sockets id).invalid = false ∧ (connection.appliedFrom id).map (·.id) =
        List.range' 1 (connection.sockets id).lastDataEnvelopeId := by
  obtain ⟨-, hretired, hinvalid, hlength⟩ := (kept_run hrun).current id hcurrent
  exact ⟨hretired, hinvalid, hlength ▸ (kept_run hrun).ids id⟩

end Laws

/-! ## A delta is applied -/

/-- A spectator's connection. -/
def mainScope : LiveScope := ⟨"g", "main", none⟩

def mainHello : Envelope Unit := ⟨3, 0, .hello ⟨3, "fmarch", [], mainScope⟩⟩

def firstVote : Envelope Unit := ⟨3, 1, .delta (.game "g") ⟨.voteCountChanged, "g", "main", [], [], ()⟩⟩

/-- The ticket comes, the socket opens, its `Hello` is accepted, the refresh succeeds, and a delta comes. -/
theorem firstVote_run : ∃ connection : Connection Unit,
    ReflTransGen (Step (fun _ => true) mainScope) {} connection ∧
      connection.applied = [(0, firstVote)] ∧ connection.socket = some 0 := by
  have hmade : ReflTransGen (Step (fun _ => true) mainScope) ({} : Connection Unit) _ :=
    ((ReflTransGen.single (.beginEstablishment rfl rfl)).tail (.ticket rfl rfl)).tail
      (@Step.opened Unit _ _ _ 0 rfl rfl)
  have hhello := ((hmade.tail (@Step.message Unit _ _ _ 0 (some mainHello) (by decide) (by decide))).tail
    (@Step.handleSocketMessage Unit _ _ _ 0 _ _ rfl rfl)).tail (@Step.decoded Unit _ _ _ 0 _ rfl rfl rfl)
  have hrecovered := hhello.tail (@Step.recovered Unit _ _ _ 0 rfl)
  have hvote := ((hrecovered.tail (@Step.message Unit _ _ _ 0 (some firstVote) (by decide) (by decide))).tail
    (@Step.handleSocketMessage Unit _ _ _ 0 _ _ rfl rfl)).tail (@Step.decoded Unit _ _ _ 0 _ rfl rfl rfl)
  exact ⟨_, hvote, rfl, rfl⟩

theorem firstVote_in_order : ∃ connection : Connection Unit, connection.applied = [(0, firstVote)] ∧
    (connection.appliedFrom 0).map (·.id) = List.range' 1 1 := by
  obtain ⟨connection, hrun, happlied, -⟩ := firstVote_run
  have hone : (connection.appliedFrom 0).length = 1 := by
    rw [Connection.appliedFrom, happlied]
    rfl
  have hids := (applied_only_live hrun).2.1 0
  rw [hone] at hids
  exact ⟨connection, happlied, hids⟩

theorem current_applied_vote : ∃ connection : Connection Unit, connection.applied = [(0, firstVote)] ∧
    connection.retired 0 = false :=
  have ⟨_, hrun, happlied, hcurrent⟩ := firstVote_run
  ⟨_, happlied, (current_applied hrun hcurrent).1⟩

end Fmarch.Client.LiveTransport
