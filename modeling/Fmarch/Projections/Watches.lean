import Fmarch.Lib.Steps
import Fmarch.Projections.Attention
import Mathlib.Data.List.Basic

/-!
# Watching a surface (`attention::decide_watch`, `attention_writes`)

Members watch discussions and stop watching them while others post there and start games from them.
Each transaction appends its event, which gets its position at once, and folds it into the tables
some time later, behind the gate of the surface. In between, other transactions append and fold. So
events of different streams are folded in any order: a post can be folded after the end of a period
it lies in, or before.

A transaction commits when its event is folded. The model also lets an event be committed first and
folded by a later pass, and it leaves out the member's own lock: the version that a command expects
and the unique index do what the lock does.

**`Told`** and **`Announced`** say of the log alone which items there should be, by the periods
between which a member watched. **`Tracks`** is what the folded events make of the tables, and
**`Tracks.watched_iff`** has the periods in the table be those of the log.
-/

namespace Fmarch.Projections.Watches

open Relational Fallible Platform Attention

/-! ## Decisions -/

structure WatchState where
  watchId : Uuid
  principalId : Uuid
  target : Uuid
  active : Bool
  readThroughSeq : Int
  version : Int

inductive WatchCommand where
  | subscribe (target : Uuid) (initialReadThroughSeq : Int)
  | unsubscribe
  | advanceRead (readThroughSeq : Int)

inductive AttentionReject where
  | alreadySubscribed
  | notSubscribed
  | subscriptionNotFound
  | readCursorMustAdvance
  | targetChanged

/-- `decide_watch`, with the payloads of the events. -/
def decideWatch : Option WatchState → WatchCommand → Except AttentionReject (List Payload)
  | none, .subscribe target initialReadThroughSeq =>
    .ok [.publicWatchEnabled target initialReadThroughSeq]
  | some state, .subscribe target initialReadThroughSeq =>
    if state.active then .error .alreadySubscribed
    else if state.target ≠ target then .error .targetChanged
    else .ok [.publicWatchEnabled target (max initialReadThroughSeq state.readThroughSeq)]
  | none, _ => .error .subscriptionNotFound
  | some state, .unsubscribe =>
    if state.active then .ok [.publicWatchDisabled] else .error .notSubscribed
  | some state, .advanceRead readThroughSeq =>
    if state.active then
      if readThroughSeq ≤ state.readThroughSeq then .error .readCursorMustAdvance
      else .ok [.publicWatchReadAdvanced readThroughSeq]
    else .error .notSubscribed

/-! ## The log and the transactions -/

/-- An event that is not folded yet, and whether it is committed. -/
structure Pending where
  event : StoredEvent
  committed : Bool

/-- The events in the order they were folded, those still to be folded, and the tables. `lastSeq` is
the last position given out. -/
structure State where
  lastSeq : Int := 0
  folded : List StoredEvent := []
  pending : List Pending := []
  tables : Db := {}

/-- `TopicCreated`. -/
def isTopic : Payload → Bool
  | .discussionTopicCreated => true
  | _ => false

/-- `GameCreated`. -/
def isGame : Payload → Bool
  | .gameCreated _ _ => true
  | _ => false

namespace State

/-- The events of all streams. -/
def log (s : State) : List StoredEvent := s.folded ++ s.pending.map (·.event)

/-- The events that other transactions see. -/
def visible (s : State) : List StoredEvent :=
  s.folded ++ (s.pending.filter (·.committed)).map (·.event)

/-- `current_stream_seq`: `COALESCE(MAX(stream_seq), 0)`. -/
def currentStreamSeq (s : State) (stream : Uuid) : Int :=
  ((s.log.filter fun event => event.streamId = stream).map (·.streamSeq)).max?.getD 0

/-- `INSERT INTO events`, of one event. -/
def insertEvent (stream : Uuid) (actor : Option Uuid) (occurredAt : Int) (s : State)
    (payload : Payload) : State :=
  { s with
    lastSeq := s.lastSeq + 1
    pending := s.pending ++ [{
      event := ⟨s.lastSeq + 1, stream, s.currentStreamSeq stream + 1, actor, occurredAt, payload⟩
      committed := false }] }

/-- `ProjectionError`, as far as these commands return it. -/
inductive ProjectionError where
  | subscriptionTargetNotPublic
  | alreadySubscribed
  | notSubscribed
  | invalidSubscriptionReadCursor
  | payload
  | conflict
  /-- The stream's lock is another transaction's: the call goes on after that one's next step. -/
  | waiting

/-- `append_in_tx_checked`. -/
def append (s : State) (stream : Uuid) (expected : Option Int) (actor : Option Uuid)
    (occurredAt : Int) (payloads : List Payload) : Except ProjectionError State := do
  refuseIf (s.pending.any fun entry => entry.event.streamId = stream ∧ ¬ entry.committed) .waiting
  refuseIf (expected.any (· ≠ s.currentStreamSeq stream)) .conflict
  return payloads.foldl (insertEvent stream actor occurredAt) s

/-! ## Commands -/

def subscriptionDomainState (s : State) (principal target : Uuid) : Option WatchState :=
  (s.tables.publicWatch.find? fun watch =>
    watch.principalId = principal ∧ watch.surfaceId = target).map fun watch =>
      ⟨watch.subscriptionId, principal, target, watch.active, watch.readThroughSeq, watch.version⟩

def subscriptionDomainError : AttentionReject → ProjectionError
  | .alreadySubscribed => .alreadySubscribed
  | .notSubscribed | .subscriptionNotFound => .notSubscribed
  | .readCursorMustAdvance => .invalidSubscriptionReadCursor
  | .targetChanged => .payload

/-- `decide_watch(..).map_err(subscription_domain_error)`. -/
def decideOr (state : Option WatchState) (command : WatchCommand) : Except ProjectionError (List Payload) :=
  (decideWatch state command).mapError subscriptionDomainError

/-- `subscribe_to_public_target`, with the id it would draw and what
`public_subscription_target_latest_delivery_seq` found. -/
def subscribeToPublicTarget (s : State) (target principal : Uuid) (occurredAt : Int) (drawn : Uuid)
    (latestDeliverySeq : Option Int) : Except ProjectionError State := do
  let some latest := latestDeliverySeq | .error .subscriptionTargetNotPublic
  let existing := s.subscriptionDomainState principal target
  let events ← decideOr existing (.subscribe target latest)
  s.append ((existing.map (·.watchId)).getD drawn) (some ((existing.map (·.version)).getD 0))
    (some principal) occurredAt events

def unsubscribeFromPublicTarget (s : State) (target principal : Uuid) (occurredAt : Int) :
    Except ProjectionError State := do
  let some state := s.subscriptionDomainState principal target | .error .notSubscribed
  let events ← decideOr (some state) .unsubscribe
  s.append state.watchId (some state.version) (some principal) occurredAt events

def advanceSubscriptionReadCursor (s : State) (target principal : Uuid) (readThroughSeq : Int)
    (occurredAt : Int) (latestDeliverySeq : Option Int) : Except ProjectionError State := do
  let some latest := latestDeliverySeq | .error .subscriptionTargetNotPublic
  refuseIf (readThroughSeq ≤ 0 ∨ readThroughSeq > latest) .invalidSubscriptionReadCursor
  let some state := s.subscriptionDomainState principal target | .error .notSubscribed
  let events ← decideOr (some state) (.advanceRead readThroughSeq)
  s.append state.watchId (some state.version) (some principal) occurredAt events

/-! ## Steps -/

/-- The fold of an event and the commit of its transaction. The events of a stream are folded in
order. `activePrincipal` is `member_profile` at that time. -/
def fold (s : State) (seq : Int) (activePrincipal : Uuid → Option Uuid) : Option State := do
  let entry ← s.pending.find? fun entry => entry.event.seq = seq
  if s.pending.any fun other => other.event.streamId = entry.event.streamId ∧ other.event.seq < seq
  then none
  else do
    let tables ← project s.tables s.visible activePrincipal entry.event
    return { s with
      folded := s.folded ++ [entry.event]
      pending := s.pending.filter fun other => other.event.seq ≠ seq
      tables := tables }

/-- There is such an event on the stream. -/
def has (s : State) (stream : Uuid) (isIt : Payload → Bool) : Bool :=
  s.visible.any fun event => event.streamId = stream ∧ isIt event.payload

/-- What a transaction does next. A post or an edit needs its topic, and a start its game; what else
those commands check only keeps more of them away. -/
inductive Action where
  | createTopic (topic : Uuid) (actor : Option Uuid) (occurredAt : Int)
  | submitPost (topic : Uuid) (actor : Option Uuid) (occurredAt : Int) (authorProfile : Option Uuid)
      (mentions : List Uuid)
  | editPost (topic : Uuid) (actor : Option Uuid) (occurredAt : Int) (sourceSeq : Int)
      (mentions : List Uuid)
  | subscribe (target principal : Uuid) (occurredAt : Int) (drawn : Uuid)
      (latestDeliverySeq : Option Int)
  | unsubscribe (target principal : Uuid) (occurredAt : Int)
  | advanceRead (target principal : Uuid) (readThroughSeq : Int) (occurredAt : Int)
      (latestDeliverySeq : Option Int)
  | createGame (game : Uuid) (actor : Option Uuid) (occurredAt : Int) (host : Uuid)
      (origin : Option Uuid)
  | startGame (game : Uuid) (actor : Option Uuid) (occurredAt : Int)
  | appendOther (stream : Uuid) (actor : Option Uuid) (occurredAt : Int)
  /-- An event is committed before it is folded. -/
  | commit (seq : Int)
  | rollback (seq : Int)
  | fold (seq : Int) (activePrincipal : Uuid → Option Uuid)

/-- One step. A refused command changes nothing, so it is none. -/
def step (s : State) : Action → Option State
  | .createTopic topic actor occurredAt =>
    (s.append topic (some 0) actor occurredAt [.discussionTopicCreated]).toOption
  | .submitPost topic actor occurredAt authorProfile mentions =>
    if s.has topic isTopic then
      (s.append topic none actor occurredAt [.discussionPostSubmitted authorProfile mentions]).toOption
    else none
  | .editPost topic actor occurredAt sourceSeq mentions =>
    if s.has topic isTopic then
      (s.append topic none actor occurredAt [.discussionPostEdited sourceSeq mentions]).toOption
    else none
  | .subscribe target principal occurredAt drawn latestDeliverySeq =>
    (s.subscribeToPublicTarget target principal occurredAt drawn latestDeliverySeq).toOption
  | .unsubscribe target principal occurredAt =>
    (s.unsubscribeFromPublicTarget target principal occurredAt).toOption
  | .advanceRead target principal readThroughSeq occurredAt latestDeliverySeq =>
    (s.advanceSubscriptionReadCursor target principal readThroughSeq occurredAt latestDeliverySeq).toOption
  | .createGame game actor occurredAt host origin =>
    (s.append game (some 0) actor occurredAt [.gameCreated host origin]).toOption
  | .startGame game actor occurredAt =>
    if s.has game isGame then
      (s.append game none actor occurredAt [.gameStarted]).toOption
    else none
  | .appendOther stream actor occurredAt =>
    (s.append stream none actor occurredAt [.other]).toOption
  | .commit seq =>
    some { s with
      pending := s.pending.map fun entry =>
        if entry.event.seq = seq then { entry with committed := true } else entry }
  | .rollback seq =>
    some { s with
      pending := s.pending.filter fun entry => ¬ (entry.event.seq = seq ∧ ¬ entry.committed) }
  | .fold seq activePrincipal => s.fold seq activePrincipal

/-- A run. -/
def run (s : State) (actions : List Action) : Option State := actions.foldlM step s

/-- The mentions that a step delivers. -/
def addressed (s : State) : Action → List InboxItem
  | .fold seq activePrincipal =>
    match s.pending.find? fun entry => entry.event.seq = seq with
    | some entry => mentionsOf s.tables activePrincipal entry.event
    | none => []
  | _ => []

end State

/-! ## What the log says -/

/-- The event has the principal watch the surface. -/
def Enables (principal surface : Uuid) (event : StoredEvent) : Prop :=
  event.actor = some principal ∧ ∃ readThroughSeq, event.payload = .publicWatchEnabled surface readThroughSeq

/-- The position is strictly inside one of the principal's periods on the surface: past an event
that has the principal watch, and before every later end of that subscription. -/
def Inside (log : List StoredEvent) (principal surface : Uuid) (seq : Int) : Prop :=
  ∃ enabled ∈ log, Enables principal surface enabled ∧ enabled.seq < seq ∧
    ∀ ended ∈ log, ended.streamId = enabled.streamId → ended.payload = .publicWatchDisabled →
      enabled.seq < ended.seq → seq < ended.seq

/-- The item tells of a post by someone else, inside one of the member's periods. -/
def Told (log : List StoredEvent) (item : InboxItem) : Prop :=
  ∃ post ∈ log, post.isPost = true ∧ Inside log item.principalId post.streamId post.seq ∧
    post.actor ≠ some item.principalId ∧
    item = watchItem post.streamId post.forumWatchDelivery item.principalId

/-- The event is the game's first start. -/
def FirstStart (log : List StoredEvent) (game : Uuid) (start : StoredEvent) : Prop :=
  start ∈ log ∧ start.streamId = game ∧ start.payload = .gameStarted ∧
    ∀ other ∈ log, other.streamId = game → other.payload = .gameStarted → start.seq ≤ other.seq

/-- The item tells of the first start of a game that came from the surface, inside one of the
member's periods. The host is not told. -/
def Announced (log : List StoredEvent) (item : InboxItem) : Prop :=
  ∃ created ∈ log, ∃ host, created.payload = .gameCreated host (some item.surfaceId) ∧
    ∃ start, FirstStart log created.streamId start ∧
      Inside log item.principalId item.surfaceId start.seq ∧ item.principalId ≠ host ∧
      item.sourceSeq = created.seq ∧ item.deliverySeq = start.seq ∧
      item.occurredAt = start.occurredAt

/-! ## What the folded events make of the tables -/

/-- An event that opens a period. -/
def isEnabled (event : StoredEvent) : Bool :=
  match event.payload with
  | .publicWatchEnabled _ _ => true
  | _ => false

/-- The end of the period that started here. -/
def endOf (log : List StoredEvent) (subscription : Uuid) (started : Int) : Option Int :=
  (log.find? fun event => event.streamId = subscription ∧ event.payload = .publicWatchDisabled ∧
    started < event.seq).map (·.seq)

/-- The period that an event opened. -/
def periodOf (log : List StoredEvent) (event : StoredEvent) : PublicWatchPeriod :=
  ⟨event.streamId, event.seq, endOf log event.streamId event.seq⟩

/-- The position and the time of a game's start. -/
def startOf (log : List StoredEvent) (game : Uuid) : Option (Int × Int) :=
  (log.find? fun event => event.streamId = game ∧ event.payload = .gameStarted).map fun event =>
    (event.seq, event.occurredAt)

/-- The origin that an event records. -/
def originOf (log : List StoredEvent) (event : StoredEvent) : Option SpawnedGame :=
  match event.payload with
  | .gameCreated host (some topic) =>
    some ⟨event.streamId, topic, event.seq, host, startOf log event.streamId⟩
  | _ => none

/-- The watches and the periods are those of the folded events. -/
structure TracksWatches (folded : List StoredEvent) (watches : List PublicWatch)
    (periods : List PublicWatchPeriod) : Prop where
  opened : ∀ watch ∈ watches, ∃ event ∈ folded, event.streamId = watch.subscriptionId ∧
    Enables watch.principalId watch.surfaceId event
  found : ∀ event ∈ folded, ∀ principal surface, Enables principal surface event →
    ∃ watch ∈ watches, watch.subscriptionId = event.streamId ∧ watch.principalId = principal ∧
      watch.surfaceId = surface
  distinct : Distinct watchClash watches
  periods : periods = (folded.filter isEnabled).map (periodOf folded)

/-- The origins are those of the folded events. -/
structure TracksGames (folded : List StoredEvent) (games : List SpawnedGame) : Prop where
  distinct : Distinct sameGame games
  games : games = folded.filterMap (originOf folded)

/-- The tables hold what the folded events say. -/
structure Tracks (folded : List StoredEvent) (db : Db) : Prop where
  watches : TracksWatches folded db.publicWatch db.publicWatchPeriod
  topics : ∀ event ∈ folded, event.payload = .discussionTopicCreated → event.streamId ∈ db.discussionTopic
  games : TracksGames folded db.spawnedGame

/-- The events of a stream are in the order of their positions. -/
def InOrder (folded : List StoredEvent) : Prop :=
  folded.Pairwise fun a b => a.streamId = b.streamId → a.seq < b.seq

/-- A subscription is one member's, on one surface. -/
def OneMember (log : List StoredEvent) : Prop :=
  ∀ a ∈ log, ∀ b ∈ log, a.streamId = b.streamId → ∀ principal surface,
    Enables principal surface a → isEnabled b = true → Enables principal surface b

section Log

variable {log folded : List StoredEvent} {db : Db} {event : StoredEvent} {principal surface : Uuid}
  {seq : Int}

theorem isEnabled_iff : isEnabled event = true ↔
    ∃ surface readThroughSeq, event.payload = .publicWatchEnabled surface readThroughSeq := by
  unfold isEnabled
  split <;> simp_all

theorem Enables.isEnabled (h : Enables principal surface event) : isEnabled event = true := by
  obtain ⟨-, readThroughSeq, hpayload⟩ := h
  exact isEnabled_iff.2 ⟨surface, readThroughSeq, hpayload⟩

theorem Enables.unique {principal' surface' : Uuid} (h : Enables principal surface event)
    (h' : Enables principal' surface' event) : principal = principal' ∧ surface = surface' := by
  obtain ⟨hactor, readThroughSeq, hpayload⟩ := h
  obtain ⟨hactor', readThroughSeq', hpayload'⟩ := h'
  have htarget := hpayload.symm.trans hpayload'
  injection htarget with hsurface
  exact ⟨Option.some.inj (hactor.symm.trans hactor'), hsurface⟩

/-- What is found first on a stream has the least position there. -/
theorem InOrder.le_of_find? {stream : Uuid} {isIt : StoredEvent → Bool} {first : StoredEvent}
    (h : InOrder folded) (hstream : ∀ event, isIt event = true → event.streamId = stream)
    (hfind : folded.find? isIt = some first) :
    ∀ event ∈ folded, isIt event = true → first.seq ≤ event.seq := by
  intro event hevent hit
  obtain ⟨hfirst, before, after, rfl, hbefore⟩ := List.find?_eq_some_iff_append.1 hfind
  rcases List.mem_append.1 hevent with hmem | hmem
  · have hnot := hbefore event hmem
    rw [hit] at hnot
    cases hnot
  · rcases List.mem_cons.1 hmem with rfl | hmem
    · exact Int.le_refl _
    · have hafter := List.rel_of_pairwise_cons (List.pairwise_append.1 h).2.1 hmem
      exact Int.le_of_lt (hafter ((hstream _ hfirst).trans (hstream _ hit).symm))

theorem periodOf_contains (h : InOrder folded) : (periodOf folded event).contains seq = true ↔
      event.seq < seq ∧ ∀ ended ∈ folded, ended.streamId = event.streamId →
        ended.payload = .publicWatchDisabled → event.seq < ended.seq → seq < ended.seq := by
  unfold PublicWatchPeriod.contains periodOf endOf
  rw [decide_eq_true_iff]
  refine and_congr_right fun _ => ?_
  cases hfind : folded.find? fun ended => ended.streamId = event.streamId ∧
      ended.payload = .publicWatchDisabled ∧ event.seq < ended.seq with
  | none =>
    refine iff_of_true (.inl rfl) fun ended hended hstream hpayload hlater => ?_
    have hnot := List.find?_eq_none.1 hfind ended hended
    exact absurd (decide_eq_true ⟨hstream, hpayload, hlater⟩) hnot
  | some first =>
    have hleast := h.le_of_find? (fun _ hit => (of_decide_eq_true hit).1) hfind
    have hfirst := List.find?_some hfind
    obtain ⟨hstream, hpayload, hlater⟩ := of_decide_eq_true hfirst
    constructor
    · intro hends ended hended hstream' hpayload' hlater'
      have hlt : seq < first.seq := by simpa using hends
      have hle := hleast ended hended (decide_eq_true ⟨hstream', hpayload', hlater'⟩)
      omega
    · intro hall
      have hlt := hall first (List.mem_of_find?_eq_some hfind) hstream hpayload hlater
      exact .inr (decide_eq_true hlt)

/-- Who watches by the tables is who watches by the log. -/
theorem Tracks.watched_iff (h : Tracks folded db) (horder : InOrder folded) (hmember : OneMember folded) :
    Watched db none principal surface seq ↔ Inside folded principal surface seq := by
  unfold Watched Inside
  rw [h.watches.periods]
  constructor
  · rintro ⟨watch, hwatch, period, hperiod, hsame, hcontains, rfl, rfl, -⟩
    obtain ⟨enabled, henabled, rfl⟩ := List.mem_map.1 hperiod
    obtain ⟨hmem, hkind⟩ := List.mem_filter.1 henabled
    obtain ⟨event, hevent, hstream, henables⟩ := h.watches.opened watch hwatch
    have henabled := hmember event hevent enabled hmem (hstream.trans hsame.symm) _ _ henables hkind
    exact ⟨enabled, hmem, henabled, (periodOf_contains horder).1 hcontains⟩
  · rintro ⟨enabled, hmem, henables, hlater, hends⟩
    obtain ⟨watch, hwatch, hid, hprincipal, hsurface⟩ :=
      h.watches.found enabled hmem _ _ henables
    exact ⟨watch, hwatch, periodOf folded enabled,
      List.mem_map.2 ⟨enabled, List.mem_filter.2 ⟨hmem, henables.isEnabled⟩, rfl⟩, hid.symm,
      (periodOf_contains horder).2 ⟨hlater, hends⟩, hprincipal, hsurface, .inl rfl⟩

/-! ## One more folded event -/

theorem endOf_append (subscription : Uuid) (started : Int) :
    endOf (folded ++ [event]) subscription started = (endOf folded subscription started).or
      (if event.streamId = subscription ∧ event.payload = .publicWatchDisabled ∧ started < event.seq
        then some event.seq else none) := by
  unfold endOf
  rw [List.find?_append, Option.map_or, List.find?_singleton]
  congr 1
  split <;> split <;> simp_all

theorem startOf_append (game : Uuid) : startOf (folded ++ [event]) game = (startOf folded game).or
      (if event.streamId = game ∧ event.payload = .gameStarted
        then some (event.seq, event.occurredAt) else none) := by
  unfold startOf
  rw [List.find?_append, Option.map_or, List.find?_singleton]
  congr 1
  split <;> split <;> simp_all

theorem periodOf_append (h : event.payload ≠ .publicWatchDisabled) :
    periodOf (folded ++ [event]) = periodOf folded := by
  funext opened
  unfold periodOf
  rw [endOf_append, if_neg fun hends => h hends.2.1, Option.or_none]

theorem originOf_append (h : event.payload ≠ .gameStarted) :
    originOf (folded ++ [event]) = originOf folded := by
  funext created
  unfold originOf
  split
  · rw [startOf_append, if_neg fun hstart => h hstart.2, Option.or_none]
  · rfl

theorem filter_isEnabled_append (h : isEnabled event = false) :
    (folded ++ [event]).filter isEnabled = folded.filter isEnabled := by
  rw [List.filter_append]
  simp [h]

theorem filterMap_originOf_append (h : event.payload ≠ .gameStarted)
    (horigin : originOf folded event = none) :
    (folded ++ [event]).filterMap (originOf (folded ++ [event])) = folded.filterMap (originOf folded) := by
  rw [originOf_append h, List.filterMap_append]
  simp [horigin]

namespace TracksWatches

variable {watches watches' : List PublicWatch} {periods periods' : List PublicWatchPeriod}

section

variable (h : TracksWatches folded watches periods)
include h

/-- An update that keeps the keys. -/
theorem map {f : PublicWatch → PublicWatch} (hid : ∀ watch, (f watch).subscriptionId = watch.subscriptionId)
    (hprincipal : ∀ watch, (f watch).principalId = watch.principalId)
    (hsurface : ∀ watch, (f watch).surfaceId = watch.surfaceId) :
    TracksWatches folded (watches.map f) periods where
  opened := by
    intro watch hwatch
    obtain ⟨old, hold, rfl⟩ := List.mem_map.1 hwatch
    rw [hid, hprincipal, hsurface]
    exact h.opened old hold
  found := by
    intro event hevent principal surface henables
    obtain ⟨watch, hwatch, hkeys⟩ := h.found event hevent principal surface henables
    refine ⟨f watch, List.mem_map_of_mem hwatch, ?_⟩
    rwa [hid, hprincipal, hsurface]
  distinct := h.distinct.map fun a b hclash => by
    rw [watchClash_iff] at hclash ⊢
    rwa [hid, hid, hprincipal, hprincipal, hsurface, hsurface] at hclash
  periods := h.periods

/-- An event that changes no watch. -/
theorem other (henabled : isEnabled event = false) (hended : event.payload ≠ .publicWatchDisabled) :
    TracksWatches (folded ++ [event]) watches periods where
  opened watch hwatch := by
    obtain ⟨opening, hmem, hopening⟩ := h.opened watch hwatch
    exact ⟨opening, List.mem_append_left _ hmem, hopening⟩
  found enabled hmem principal surface henables := by
    rcases List.mem_append.1 hmem with hmem | hmem
    · exact h.found enabled hmem principal surface henables
    · rw [← List.mem_singleton.1 hmem, henables.isEnabled] at henabled
      cases henabled
  distinct := h.distinct
  periods := by rw [filter_isEnabled_append henabled, periodOf_append hended]; exact h.periods

section

variable (hlater : ∀ old ∈ folded, old.streamId = event.streamId → old.seq < event.seq)
include hlater

/-- The periods after a subscription was enabled. -/
theorem periods_enable (henabled : isEnabled event = true) : periods ++ [⟨event.streamId, event.seq, none⟩] =
      ((folded ++ [event]).filter isEnabled).map (periodOf (folded ++ [event])) := by
  have hpayload : event.payload ≠ .publicWatchDisabled := by
    obtain ⟨surface, readThroughSeq, hpayload⟩ := isEnabled_iff.1 henabled
    rw [hpayload]
    exact Payload.noConfusion
  have hnew : periodOf folded event = ⟨event.streamId, event.seq, none⟩ := by
    unfold periodOf endOf
    rw [List.find?_eq_none.2]
    · rfl
    · intro old hold hit
      obtain ⟨hstream, -, hafter⟩ := of_decide_eq_true hit
      have hbefore := hlater old hold hstream
      omega
  rw [periodOf_append hpayload, List.filter_append, List.map_append, ← h.periods]
  simp [henabled, hnew]

/-- The periods after a subscription was disabled: the open one ends here. -/
theorem periods_disable (hpayload : event.payload = .publicWatchDisabled) :
    periods.map (·.close event.streamId event.seq) =
      ((folded ++ [event]).filter isEnabled).map (periodOf (folded ++ [event])) := by
  have hkind : isEnabled event = false := by rw [isEnabled, hpayload]
  rw [filter_isEnabled_append hkind, h.periods, List.map_map]
  refine List.map_congr_left fun opened hopened => ?_
  have hmem := (List.mem_filter.1 hopened).1
  unfold Function.comp periodOf PublicWatchPeriod.close
  rw [endOf_append]
  by_cases hstream : opened.streamId = event.streamId
  · have hbefore := hlater opened hmem hstream
    rw [if_pos ⟨hstream.symm, hpayload, hbefore⟩]
    cases endOf folded opened.streamId opened.seq with
    | none => simp [hstream]
    | some ended => simp
  · rw [if_neg fun hends => hstream hends.1.symm]
    simp [hstream]

theorem enable {target : Uuid} {readThroughSeq : Int}
    (hmember : OneMember (folded ++ [event])) (henables : Enables principal target event)
    {db : Db} (hdb : db.publicWatch = watches)
    (hupsert : upsertWatch db event principal target readThroughSeq = some watches') :
    TracksWatches (folded ++ [event]) watches' (periods ++ [⟨event.streamId, event.seq, none⟩]) := by
  have hperiods := h.periods_enable hlater henables.isEnabled
  subst hdb
  unfold upsertWatch at hupsert
  split at hupsert
  case isTrue hany =>
    obtain rfl := (Option.some.inj hupsert).symm
    obtain ⟨watch, hwatch, hid⟩ := List.any_eq_true.1 hany
    have hid : watch.subscriptionId = event.streamId := of_decide_eq_true hid
    obtain ⟨opening, hopening, hstream, hopens⟩ := h.opened watch hwatch
    -- the subscription's member is who enabled it first
    have hsame : principal = watch.principalId ∧ target = watch.surfaceId := by
      refine henables.unique (hmember opening (List.mem_append_left _ hopening) event ?_
        (hstream.trans hid) _ _ hopens henables.isEnabled)
      exact List.mem_append_right _ List.mem_cons_self
    have hkept : TracksWatches folded (db.publicWatch.map fun watch =>
        if watch.subscriptionId = event.streamId then
          { watch with
            active := true
            readThroughSeq := max watch.readThroughSeq readThroughSeq
            updatedSeq := event.seq
            version := event.streamSeq }
        else watch) periods := by
      refine h.map ?_ ?_ ?_ <;> intro watch <;> split <;> rfl
    refine ⟨fun row hrow => ?_, fun enabled hmem p s hp => ?_, hkept.distinct, hperiods⟩
    · obtain ⟨opening, hmem, hrow⟩ := hkept.opened row hrow
      exact ⟨opening, List.mem_append_left _ hmem, hrow⟩
    · rcases List.mem_append.1 hmem with hmem | hmem
      · exact hkept.found enabled hmem p s hp
      · obtain rfl := List.mem_singleton.1 hmem
        obtain ⟨rfl, rfl⟩ := hp.unique henables
        obtain ⟨row, hrow, hrowId, hrowPrincipal, hrowSurface⟩ :=
          hkept.found opening hopening _ _ hopens
        exact ⟨row, hrow, hrowId.trans (hstream.trans hid), hrowPrincipal.trans hsame.1.symm,
          hrowSurface.trans hsame.2.symm⟩
  case isFalse =>
    obtain ⟨-, hwatches⟩ := insertRow_eq_some.1 hupsert
    refine ⟨fun row hrow => ?_, fun enabled hmem p s hp => ?_, h.distinct.insertRow hupsert, hperiods⟩
    · rw [hwatches] at hrow
      rcases List.mem_append.1 hrow with hrow | hrow
      · obtain ⟨opening, hmem, hopens⟩ := h.opened row hrow
        exact ⟨opening, List.mem_append_left _ hmem, hopens⟩
      · rw [List.mem_singleton.1 hrow]
        exact ⟨event, List.mem_append_right _ List.mem_cons_self, rfl, henables⟩
    · rw [hwatches]
      rcases List.mem_append.1 hmem with hmem | hmem
      · obtain ⟨row, hrow, hkeys⟩ := h.found enabled hmem p s hp
        exact ⟨row, List.mem_append_left _ hrow, hkeys⟩
      · obtain rfl := List.mem_singleton.1 hmem
        obtain ⟨rfl, rfl⟩ := hp.unique henables
        exact ⟨_, List.mem_append_right _ List.mem_cons_self, rfl, rfl, rfl⟩

theorem disable (hpayload : event.payload = .publicWatchDisabled) :
    TracksWatches (folded ++ [event]) watches (periods.map (·.close event.streamId event.seq)) where
  opened watch hwatch := by
    obtain ⟨opening, hmem, hopening⟩ := h.opened watch hwatch
    exact ⟨opening, List.mem_append_left _ hmem, hopening⟩
  found enabled hmem principal surface henables := by
    rcases List.mem_append.1 hmem with hmem | hmem
    · exact h.found enabled hmem principal surface henables
    · obtain rfl := List.mem_singleton.1 hmem
      obtain ⟨-, readThroughSeq, henabled⟩ := henables
      exact absurd (hpayload.symm.trans henabled) Payload.noConfusion
  distinct := h.distinct
  periods := h.periods_disable hlater hpayload

end

end

end TracksWatches

namespace TracksGames

variable {games games' : List SpawnedGame}

theorem other (h : TracksGames folded games) (hstart : event.payload ≠ .gameStarted)
    (horigin : originOf folded event = none) : TracksGames (folded ++ [event]) games where
  distinct := h.distinct
  games := by rw [filterMap_originOf_append hstart horigin]; exact h.games

theorem create (h : TracksGames folded games) {host topic : Uuid}
    (hpayload : event.payload = .gameCreated host (some topic))
    (hfresh : ∀ old ∈ folded, old.streamId ≠ event.streamId)
    (hinsert : insertRow sameGame games ⟨event.streamId, topic, event.seq, host, none⟩ = some games') :
    TracksGames (folded ++ [event]) games' where
  distinct := h.distinct.insertRow hinsert
  games := by
    have hstart : event.payload ≠ .gameStarted := by rw [hpayload]; exact Payload.noConfusion
    have hnone : startOf folded event.streamId = none := by
      unfold startOf
      rw [List.find?_eq_none.2]
      · rfl
      · exact fun old hold hit => hfresh old hold (of_decide_eq_true hit).1
    have horigin : originOf folded event = some ⟨event.streamId, topic, event.seq, host, none⟩ := by
      simp only [originOf, hpayload, hnone]
    rw [originOf_append hstart, List.filterMap_append, ← h.games, (insertRow_eq_some.1 hinsert).2]
    simp [horigin]

/-- The first start of a game is kept. -/
theorem start (h : TracksGames folded games) (hpayload : event.payload = .gameStarted) :
    TracksGames (folded ++ [event]) (games.map (·.start event.streamId event.seq event.occurredAt)) where
  distinct := by
    have hgame : ∀ origin : SpawnedGame,
        (origin.start event.streamId event.seq event.occurredAt).gameId = origin.gameId := by
      intro origin
      unfold SpawnedGame.start
      split <;> rfl
    refine h.distinct.map fun a b hclash => ?_
    unfold sameGame at hclash ⊢
    rwa [hgame, hgame] at hclash
  games := by
    have hnone : originOf (folded ++ [event]) event = none := by rw [originOf, hpayload]
    rw [List.filterMap_append, h.games, List.map_filterMap]
    simp only [List.filterMap_cons, hnone, List.filterMap_nil, List.append_nil]
    refine List.filterMap_congr fun created _ => ?_
    unfold originOf
    split
    case h_1 host topic hcreated =>
      rw [startOf_append]
      unfold SpawnedGame.start
      by_cases hgame : created.streamId = event.streamId
      · simp [hgame, hpayload]
      · simp [hgame, Ne.symm hgame]
    case h_2 => rfl

end TracksGames

/-! ## One fold -/

/-- The tables of watches after an event of a subscription. -/
theorem TracksWatches.foldSubscriptionState {db' : Db}
    (h : TracksWatches folded db.publicWatch db.publicWatchPeriod)
    (hlater : ∀ old ∈ folded, old.streamId = event.streamId → old.seq < event.seq)
    (hmember : OneMember (folded ++ [event]))
    (hfold : foldSubscriptionState db event = some db') :
    TracksWatches (folded ++ [event]) db'.publicWatch db'.publicWatchPeriod := by
  obtain ⟨principal, hactor, hfold⟩ := Option.bind_eq_some_iff.1 hfold
  split at hfold
  case h_1 target readThroughSeq hpayload =>
    obtain ⟨watches, hupsert, hfold⟩ := Option.bind_eq_some_iff.1 hfold
    obtain ⟨periods, hinsert, hfold⟩ := Option.bind_eq_some_iff.1 hfold
    rw [← Option.some.inj hfold, (insertRow_eq_some.1 hinsert).2]
    exact h.enable hlater hmember ⟨hactor, readThroughSeq, hpayload⟩ rfl hupsert
  case h_2 hpayload =>
    split at hfold
    · rw [← Option.some.inj hfold]
      have hdisabled := h.disable hlater hpayload
      refine hdisabled.map ?_ ?_ ?_ <;> intro watch <;> split <;> rfl
    · cases hfold
  case h_3 readThroughSeq hpayload =>
    rw [← Option.some.inj hfold]
    have hother := h.other (by rw [isEnabled, hpayload]) (by simp [hpayload])
    refine hother.map ?_ ?_ ?_ <;> intro watch <;> split <;> rfl
  case h_4 henabled hdisabled _ =>
    rw [← Option.some.inj hfold]
    refine h.other (Bool.eq_false_iff.2 fun hkind => ?_) fun hpayload => hdisabled hpayload
    obtain ⟨surface, readThroughSeq, hpayload⟩ := isEnabled_iff.1 hkind
    exact henabled surface readThroughSeq hpayload

/-- A fold has the tables say what the folded events say. -/
theorem Tracks.project {stored : List StoredEvent} {activePrincipal : Uuid → Option Uuid}
    {db' : Db} (h : Tracks folded db)
    (hlater : ∀ old ∈ folded, old.streamId = event.streamId → old.seq < event.seq)
    (hmember : OneMember (folded ++ [event]))
    (hfresh : isGame event.payload = true → ∀ old ∈ folded, old.streamId ≠ event.streamId)
    (hfold : project db stored activePrincipal event = some db') :
    Tracks (folded ++ [event]) db' := by
  have htopics : event.payload ≠ .discussionTopicCreated → ∀ created ∈ folded ++ [event],
      created.payload = .discussionTopicCreated → created.streamId ∈ db.discussionTopic := by
    intro hpayload created hmem hcreated
    rcases List.mem_append.1 hmem with hmem | hmem
    · exact h.topics created hmem hcreated
    · rw [List.mem_singleton.1 hmem] at hcreated
      exact absurd hcreated hpayload
  have hplain : isEnabled event = false → event.payload ≠ .publicWatchDisabled →
      event.payload ≠ .discussionTopicCreated → event.payload ≠ .gameStarted →
      originOf folded event = none → Tracks (folded ++ [event]) db :=
    fun henabled hended htopic hstart horigin =>
      ⟨h.watches.other henabled hended, htopics htopic, h.games.other hstart horigin⟩
  cases projected_of_project hfold with
  | topicCreated hpayload =>
    refine ⟨h.watches.other (by rw [isEnabled, hpayload]) (by simp [hpayload]), ?_,
      h.games.other (by simp [hpayload]) (by rw [originOf, hpayload])⟩
    intro created hmem hcreated
    rcases List.mem_append.1 hmem with hmem | hmem
    · exact List.mem_append_left _ (h.topics created hmem hcreated)
    · rw [List.mem_singleton.1 hmem]
      exact List.mem_append_right _ List.mem_cons_self
  | postSubmitted posts hpayload | postEdited hpayload =>
    obtain ⟨hwatches, htopics, hgames⟩ := hplain (by rw [isEnabled, hpayload]) (by simp [hpayload])
      (by simp [hpayload]) (by simp [hpayload]) (by rw [originOf, hpayload])
    exact ⟨hwatches, htopics, hgames⟩
  | watchChanged hchange hstate hreconcile =>
    obtain ⟨htopic, hstart, horigin⟩ : event.payload ≠ .discussionTopicCreated ∧
        event.payload ≠ .gameStarted ∧ originOf folded event = none := by
      rcases payload_of_isWatchChange hchange with ⟨target, readThroughSeq, hpayload⟩ | hpayload <;>
        simp [originOf, hpayload]
    have hwatches := h.watches.foldSubscriptionState hlater hmember hstate
    rw [reconcileSubscription_frame hreconcile, foldSubscriptionState_frame hstate]
    exact ⟨hwatches, htopics htopic, h.games.other hstart horigin⟩
  | readAdvanced hpayload hstate =>
    have hwatches := h.watches.foldSubscriptionState hlater hmember hstate
    rw [foldSubscriptionState_frame hstate]
    exact ⟨hwatches, htopics (by simp [hpayload]),
      h.games.other (by simp [hpayload]) (by rw [originOf, hpayload])⟩
  | gameCreated hpayload hinsert =>
    refine ⟨h.watches.other (by rw [isEnabled, hpayload]) (by simp [hpayload]),
      htopics (by simp [hpayload]), h.games.create hpayload (hfresh ?_) hinsert⟩
    simp [isGame, hpayload]
  | gameStarted hpayload =>
    rw [publishOrigin_frame]
    exact ⟨h.watches.other (by rw [isEnabled, hpayload]) (by simp [hpayload]),
      htopics (by simp [hpayload]), h.games.start hpayload⟩
  | nothing hpayload =>
    rcases hpayload with hpayload | ⟨host, hpayload⟩ <;>
      exact hplain (by rw [isEnabled, hpayload]) (by simp [hpayload]) (by simp [hpayload])
        (by simp [hpayload]) (by rw [originOf, hpayload])

end Log

end Fmarch.Projections.Watches
