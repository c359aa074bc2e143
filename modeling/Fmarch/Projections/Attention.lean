import Fmarch.Lib.Fallible
import Fmarch.Lib.Relational
import Fmarch.Platform.Values

/-!
# Inbox items (`attention_projection`, `game_origin`)

The member inbox is derived from three sources. A post of a discussion reaches whoever watches it;
the start of a game reaches whoever watches the discussion it came from; a mention reaches the
member it names. A watch is a row of `public_watch`, and the positions between which it was on are
rows of `public_watch_period`. Posts and starts are matched against the periods by their positions
in the log, so an event that is folded late still reaches those who watched when it was stored. A
change of a watch derives its items anew.

**`mem_watchItems`**, **`mem_originItems`** read the two queries back as conditions on the tables,
and **`mem_reconcileSubscription`** says what a change of a watch makes of the inbox. Each fold has
the inbox gain and lose what its event is about, and leaves the mentions to `mentionItems_project`.

The checks on the columns, the tables that carry the texts, and the other events of these streams
are left out.
-/

namespace Fmarch.Projections.Attention

open Relational Fallible Platform

/-! ## Events -/

/-- The events of discussions, subscriptions and games that the inbox depends on. -/
inductive Payload where
  | discussionTopicCreated
  | discussionPostSubmitted (authorProfile : Option Uuid) (mentions : List Uuid)
  | discussionPostEdited (sourceSeq : Int) (mentions : List Uuid)
  | publicWatchEnabled (target : Uuid) (initialReadThroughSeq : Int)
  | publicWatchDisabled
  | publicWatchReadAdvanced (readThroughSeq : Int)
  | gameCreated (hostPrincipalId : Uuid) (origin : Option Uuid)
  | gameStarted
  /-- Any other event of these streams. -/
  | other
  deriving DecidableEq

/-- `StoredEvent`. The actor is kept if it is a principal. -/
structure StoredEvent where
  seq : Int
  streamId : Uuid
  streamSeq : Int
  actor : Option Uuid
  occurredAt : Int
  payload : Payload

/-- `DecodedForumEvent::PostSubmitted`. -/
def StoredEvent.isPost (event : StoredEvent) : Bool :=
  match event.payload with
  | .discussionPostSubmitted _ _ => true
  | _ => false

structure ForumWatchDelivery where
  sourceSeq : Int
  occurredAt : Int
  author : Option Uuid

def StoredEvent.forumWatchDelivery (event : StoredEvent) : ForumWatchDelivery where
  sourceSeq := event.seq
  occurredAt := event.occurredAt
  author := event.actor

/-! ## Db -/

structure PublicWatch where
  subscriptionId : Uuid
  principalId : Uuid
  surfaceId : Uuid
  active : Bool
  readThroughSeq : Int
  createdSeq : Int
  updatedSeq : Int
  version : Int

structure PublicWatchPeriod where
  subscriptionId : Uuid
  startedSeq : Int
  endedSeq : Option Int

/-- `discussion_topic_spawned_game`. A start has its position and its time, or neither. -/
structure SpawnedGame where
  gameId : Uuid
  topicId : Uuid
  createdSeq : Int
  hostPrincipalId : Uuid
  started : Option (Int × Int)

structure DiscussionPost where
  sourceSeq : Int
  topicId : Uuid
  authorProfileId : Option Uuid

/-- The reasons of `member_inbox_item`. -/
inductive Reason where
  | watch
  | mention
  | gameSpawnedFromWatchedTopic
  deriving DecidableEq

/-- `member_inbox_item`. -/
structure InboxItem where
  principalId : Uuid
  surfaceId : Uuid
  sourceSeq : Int
  deliverySeq : Int
  reason : Reason
  occurredAt : Int

/-- The inbox and the tables it is derived from. -/
structure Db where
  discussionTopic : List Uuid := []
  discussionPost : List DiscussionPost := []
  publicWatch : List PublicWatch := []
  publicWatchPeriod : List PublicWatchPeriod := []
  spawnedGame : List SpawnedGame := []
  memberInboxItem : List InboxItem := []

/-- The key `(principal_id, surface_id, source_seq, reason)`. -/
def itemClash (a b : InboxItem) : Bool :=
  a.principalId = b.principalId ∧ a.surfaceId = b.surfaceId ∧ a.sourceSeq = b.sourceSeq ∧ a.reason = b.reason

/-- The key of `public_watch` and its index `(principal_id, surface_id)`. -/
def watchClash (a b : PublicWatch) : Bool :=
  a.subscriptionId = b.subscriptionId ∨ (a.principalId = b.principalId ∧ a.surfaceId = b.surfaceId)

/-- The key of `discussion_topic_spawned_game`. -/
def sameGame (a b : SpawnedGame) : Bool := a.gameId = b.gameId

/-- The key `(subscription_id, started_seq)`. -/
def periodClash (a b : PublicWatchPeriod) : Bool :=
  a.subscriptionId = b.subscriptionId ∧ a.startedSeq = b.startedSeq

theorem itemClash_iff {a b : InboxItem} :
    itemClash a b = true ↔ a.principalId = b.principalId ∧ a.surfaceId = b.surfaceId ∧
      a.sourceSeq = b.sourceSeq ∧ a.reason = b.reason := decide_eq_true_iff

theorem itemClash_refl (a : InboxItem) : itemClash a a = true :=
  itemClash_iff.2 ⟨rfl, rfl, rfl, rfl⟩

theorem watchClash_iff {a b : PublicWatch} : watchClash a b = true ↔ a.subscriptionId = b.subscriptionId ∨
      (a.principalId = b.principalId ∧ a.surfaceId = b.surfaceId) := decide_eq_true_iff

theorem watchClash_comm (a b : PublicWatch) : watchClash a b = watchClash b a := by
  rw [Bool.eq_iff_iff, watchClash_iff, watchClash_iff, eq_comm, @eq_comm _ a.principalId,
    @eq_comm _ a.surfaceId]

/-! ## Queries -/

/-- `period.started_seq < $1 AND (period.ended_seq IS NULL OR period.ended_seq > $1)`. -/
def PublicWatchPeriod.contains (period : PublicWatchPeriod) (seq : Int) : Bool :=
  period.startedSeq < seq ∧ (period.endedSeq = none ∨ period.endedSeq.any (seq < ·))

/-- `public_watch JOIN public_watch_period`: the members who watch the surface at a position, or the
one of them whose subscription this is. -/
def watchers (db : Db) (surface : Uuid) (subscription : Option Uuid) (seq : Int) : List Uuid :=
  ((join db.publicWatch db.publicWatchPeriod fun watch period =>
    period.subscriptionId = watch.subscriptionId ∧ period.contains seq).filter fun row =>
      row.1.surfaceId = surface ∧
        (subscription = none ∨ subscription = some row.1.subscriptionId)).map (·.1.principalId)

/-- The item that tells of a post. -/
def watchItem (surface : Uuid) (post : ForumWatchDelivery) (principal : Uuid) : InboxItem where
  principalId := principal
  surfaceId := surface
  sourceSeq := post.sourceSeq
  deliverySeq := post.sourceSeq
  reason := .watch
  occurredAt := post.occurredAt

/-- The rows of `insert_watch_deliveries`. -/
def watchItems (db : Db) (surface : Uuid) (subscription : Option Uuid)
    (deliveries : List ForumWatchDelivery) : List InboxItem :=
  deliveries.flatMap fun post =>
    ((watchers db surface subscription post.sourceSeq).filter fun principal =>
      post.author ≠ some principal).map (watchItem surface post)

/-- The item that tells of a game's start. -/
def originItem (origin : SpawnedGame) (started : Int × Int) (principal : Uuid) : InboxItem where
  principalId := principal
  surfaceId := origin.topicId
  sourceSeq := origin.createdSeq
  deliverySeq := started.1
  reason := .gameSpawnedFromWatchedTopic
  occurredAt := started.2

/-- The rows that `reconcile_attention` inserts for one game. -/
def SpawnedGame.items (db : Db) (subscription : Option Uuid) (origin : SpawnedGame) : List InboxItem :=
  match origin.started with
  | none => []
  | some started =>
    ((watchers db origin.topicId subscription started.1).filter fun principal =>
      principal ≠ origin.hostPrincipalId).map (originItem origin started)

/-- The rows that `reconcile_attention` inserts. -/
def originItems (db : Db) (topic : Uuid) (subscription : Option Uuid) : List InboxItem :=
  (db.spawnedGame.filter fun origin => origin.topicId = topic).flatMap (·.items db subscription)

/-! ## Deliveries -/

/-- `insert_watch_deliveries`, of one post: `publish_forum_post`. -/
def publishForumPost (db : Db) (surface : Uuid) (delivery : ForumWatchDelivery) : Db :=
  { db with
    memberInboxItem :=
      insertMissing itemClash db.memberInboxItem (watchItems db surface none [delivery]) }

/-- `forum_watch_deliveries`, of the events that are committed. -/
def forumWatchDeliveries (db : Db) (stored : List StoredEvent) (surface : Uuid) : List ForumWatchDelivery :=
  if surface ∈ db.discussionTopic then
    (stored.filter fun event => event.streamId = surface ∧ event.isPost).map (·.forumWatchDelivery)
  else []

/-- The `WHERE` of the deletion in `reconcile_attention`. -/
def staleOrigin (db : Db) (topic : Uuid) (subscription : Option Uuid) (item : InboxItem) : Bool :=
  item.surfaceId = topic ∧ item.reason = .gameSpawnedFromWatchedTopic ∧
    (subscription = none ∨ db.publicWatch.any fun watch =>
      subscription = some watch.subscriptionId ∧ item.principalId = watch.principalId)

def reconcileAttention (db : Db) (topic : Uuid) (subscription : Option Uuid) : Db :=
  { db with
    memberInboxItem := replaceWhere itemClash (staleOrigin db topic subscription) db.memberInboxItem
      (originItems db topic subscription) }

/-- The `WHERE` of the deletion in `reconcile_subscription`. -/
def staleWatch (db : Db) (subscription : Uuid) (item : InboxItem) : Bool :=
  db.publicWatch.any fun watch => watch.subscriptionId = subscription ∧
    item.principalId = watch.principalId ∧ item.surfaceId = watch.surfaceId ∧ item.reason = .watch

/-- `reconcile_subscription`, which fails without the subscription's row. -/
def reconcileSubscription (db : Db) (stored : List StoredEvent) (subscription : Uuid) : Option Db := do
  let watch ← db.publicWatch.find? fun watch => watch.subscriptionId = subscription
  let deliveries := forumWatchDeliveries db stored watch.surfaceId
  let db := { db with
    memberInboxItem := replaceWhere itemClash (staleWatch db subscription) db.memberInboxItem
      (watchItems db watch.surfaceId (some subscription) deliveries) }
  return reconcileAttention db watch.surfaceId (some subscription)

def recordOrigin (db : Db) (game topic : Uuid) (createdSeq : Int) (host : Uuid) : Option Db := do
  let games ← insertRow sameGame db.spawnedGame ⟨game, topic, createdSeq, host, none⟩
  return { db with spawnedGame := games }

/-- `COALESCE(started_seq, $2)`, `COALESCE(started_at, $3)`. -/
def SpawnedGame.start (game : Uuid) (startedSeq occurredAt : Int) (origin : SpawnedGame) : SpawnedGame :=
  if origin.gameId = game then
    { origin with started := origin.started.or (some (startedSeq, occurredAt)) }
  else origin

/-- `UPDATE discussion_topic_spawned_game SET started_seq, started_at WHERE game_id = $1`. -/
def Db.startGame (db : Db) (game : Uuid) (startedSeq occurredAt : Int) : Db :=
  { db with spawnedGame := db.spawnedGame.map (·.start game startedSeq occurredAt) }

def publishOrigin (db : Db) (game : Uuid) (startedSeq occurredAt : Int) : Db :=
  match db.spawnedGame.find? fun origin => origin.gameId = game with
  | none => db
  | some origin => reconcileAttention (db.startGame game startedSeq occurredAt) origin.topicId none

/-! ## Mentions -/

/-- The rows of `fan_out_profile_mentions`, where `member_profile` has these active principals. -/
def mentionRows (activePrincipal : Uuid → Option Uuid) (surface : Uuid) (sourceSeq : Int)
    (authorProfile : Option Uuid) (event : StoredEvent) (mentions : List Uuid) : List InboxItem :=
  (mentions.filter fun profile => some profile ≠ authorProfile).filterMap fun profile =>
    match activePrincipal profile with
    | none => none
    | some principal =>
      if some principal = event.actor then none
      else some
        { principalId := principal, surfaceId := surface, sourceSeq := sourceSeq
          deliverySeq := event.seq, reason := .mention, occurredAt := event.occurredAt }

/-- The mentions that the fold of an event delivers. -/
def mentionsOf (db : Db) (activePrincipal : Uuid → Option Uuid) (event : StoredEvent) : List InboxItem :=
  match event.payload with
  | .discussionPostSubmitted authorProfile mentions =>
    mentionRows activePrincipal event.streamId event.seq authorProfile event mentions
  | .discussionPostEdited sourceSeq mentions =>
    mentionRows activePrincipal event.streamId sourceSeq
      ((db.discussionPost.find? fun post => post.sourceSeq = sourceSeq).bind (·.authorProfileId))
      event mentions
  | _ => []

def fanOutProfileMentions (db : Db) (activePrincipal : Uuid → Option Uuid) (event : StoredEvent) : Db :=
  { db with
    memberInboxItem :=
      insertMissing itemClash db.memberInboxItem (mentionsOf db activePrincipal event) }

/-! ## Folds -/

/-- The upsert of a watch: `ON CONFLICT (subscription_id) DO UPDATE`. -/
def upsertWatch (db : Db) (event : StoredEvent) (principal target : Uuid) (readThrough : Int) :
    Option (List PublicWatch) :=
  if db.publicWatch.any fun watch => watch.subscriptionId = event.streamId then
    some (db.publicWatch.map fun watch =>
      if watch.subscriptionId = event.streamId then
        { watch with
          active := true
          readThroughSeq := max watch.readThroughSeq readThrough
          updatedSeq := event.seq
          version := event.streamSeq }
      else watch)
  else insertRow watchClash db.publicWatch
    { subscriptionId := event.streamId, principalId := principal, surfaceId := target
      active := true, readThroughSeq := readThrough, createdSeq := event.seq
      updatedSeq := event.seq, version := event.streamSeq }

/-- The end of the open period of a subscription. -/
def PublicWatchPeriod.close (subscription : Uuid) (seq : Int) (period : PublicWatchPeriod) :
    PublicWatchPeriod :=
  if period.subscriptionId = subscription ∧ period.endedSeq = none then
    { period with endedSeq := some seq }
  else period

def foldSubscriptionState (db : Db) (event : StoredEvent) : Option Db := do
  let principal ← event.actor
  match event.payload with
  | .publicWatchEnabled target readThrough =>
    let watches ← upsertWatch db event principal target readThrough
    let periods ← insertRow periodClash db.publicWatchPeriod ⟨event.streamId, event.seq, none⟩
    return { db with publicWatch := watches, publicWatchPeriod := periods }
  | .publicWatchDisabled =>
    if db.publicWatch.any fun watch => watch.subscriptionId = event.streamId then
      return { db with
        publicWatch := db.publicWatch.map fun watch =>
          if watch.subscriptionId = event.streamId then
            { watch with active := false, updatedSeq := event.seq, version := event.streamSeq }
          else watch
        publicWatchPeriod := db.publicWatchPeriod.map (·.close event.streamId event.seq) }
    else none
  | .publicWatchReadAdvanced readThrough =>
    return { db with
      publicWatch := db.publicWatch.map fun watch =>
        if watch.subscriptionId = event.streamId then
          { watch with
            readThroughSeq := max watch.readThroughSeq readThrough
            updatedSeq := event.seq
            version := event.streamSeq }
        else watch }
  | _ => return db

def foldSubscriptionEvent (db : Db) (stored : List StoredEvent) (event : StoredEvent) : Option Db := do
  let db ← foldSubscriptionState db event
  match event.payload with
  | .publicWatchEnabled _ _ | .publicWatchDisabled => reconcileSubscription db stored event.streamId
  | _ => return db

def projectDiscussionEvent (db : Db) (activePrincipal : Uuid → Option Uuid)
    (event : StoredEvent) : Option Db :=
  match event.payload with
  | .discussionTopicCreated => do
    let topics ← insertRow (fun a b => a = b) db.discussionTopic event.streamId
    return { db with discussionTopic := topics }
  | .discussionPostSubmitted authorProfile _ => do
    let posts ← insertRow (fun a b => a.sourceSeq = b.sourceSeq) db.discussionPost
      ⟨event.seq, event.streamId, authorProfile⟩
    let db := publishForumPost { db with discussionPost := posts } event.streamId
      event.forumWatchDelivery
    return fanOutProfileMentions db activePrincipal event
  | .discussionPostEdited sourceSeq _ =>
    if db.discussionPost.any fun post =>
        post.sourceSeq = sourceSeq ∧ post.topicId = event.streamId then
      some (fanOutProfileMentions db activePrincipal event)
    else none
  | _ => some db

/-- The origin and the start of a game. -/
def projectGameEvent (db : Db) (event : StoredEvent) : Option Db :=
  match event.payload with
  | .gameCreated host (some topic) => recordOrigin db event.streamId topic event.seq host
  | .gameStarted => some (publishOrigin db event.streamId event.seq event.occurredAt)
  | _ => some db

/-- The fold of an event, when these events are committed. -/
def project (db : Db) (stored : List StoredEvent) (activePrincipal : Uuid → Option Uuid)
    (event : StoredEvent) : Option Db :=
  match event.payload with
  | .publicWatchEnabled _ _ | .publicWatchDisabled | .publicWatchReadAdvanced _ =>
    foldSubscriptionEvent db stored event
  | .gameCreated _ _ | .gameStarted => projectGameEvent db event
  | _ => projectDiscussionEvent db activePrincipal event

/-! ## What the queries say -/

section Queries

variable {db : Db} {surface topic principal : Uuid} {subscription : Option Uuid} {seq : Int}
  {deliveries : List ForumWatchDelivery} {item : InboxItem}

/-- A member watches the surface at a position, by this subscription if one is given. -/
def Watched (db : Db) (subscription : Option Uuid) (principal surface : Uuid) (seq : Int) : Prop :=
  ∃ watch ∈ db.publicWatch, ∃ period ∈ db.publicWatchPeriod,
    period.subscriptionId = watch.subscriptionId ∧ period.contains seq = true ∧
      watch.principalId = principal ∧ watch.surfaceId = surface ∧
      (subscription = none ∨ subscription = some watch.subscriptionId)

theorem mem_watchers : principal ∈ watchers db surface subscription seq ↔
      Watched db subscription principal surface seq := by
  unfold watchers
  rw [List.mem_map]
  constructor
  · rintro ⟨⟨watch, period⟩, hrow, rfl⟩
    obtain ⟨hjoin, hwhere⟩ := List.mem_filter.1 hrow
    obtain ⟨hwatch, hperiod, hon⟩ := mem_join.1 hjoin
    obtain ⟨hsame, hcontains⟩ := of_decide_eq_true hon
    obtain ⟨hsurface, hsubscription⟩ := of_decide_eq_true hwhere
    exact ⟨watch, hwatch, period, hperiod, hsame, hcontains, rfl, hsurface, hsubscription⟩
  · rintro ⟨watch, hwatch, period, hperiod, hsame, hcontains, rfl, hsurface, hsubscription⟩
    refine ⟨(watch, period), List.mem_filter.2 ⟨?_, decide_eq_true ⟨hsurface, hsubscription⟩⟩, rfl⟩
    exact mem_join.2 ⟨hwatch, hperiod, decide_eq_true ⟨hsame, hcontains⟩⟩

theorem mem_watchItems : item ∈ watchItems db surface subscription deliveries ↔
      ∃ post ∈ deliveries, Watched db subscription item.principalId surface post.sourceSeq ∧
        post.author ≠ some item.principalId ∧ item = watchItem surface post item.principalId := by
  unfold watchItems
  rw [List.mem_flatMap]
  refine exists_congr fun post => and_congr_right fun _ => ?_
  rw [List.mem_map]
  constructor
  · rintro ⟨principal, hmem, rfl⟩
    obtain ⟨hwatcher, hauthor⟩ := List.mem_filter.1 hmem
    exact ⟨mem_watchers.1 hwatcher, of_decide_eq_true hauthor, rfl⟩
  · rintro ⟨hwatched, hauthor, hitem⟩
    exact ⟨item.principalId, List.mem_filter.2 ⟨mem_watchers.2 hwatched, decide_eq_true hauthor⟩, hitem.symm⟩

theorem mem_items {origin : SpawnedGame} : item ∈ origin.items db subscription ↔
      ∃ started, origin.started = some started ∧
        Watched db subscription item.principalId origin.topicId started.1 ∧
        item.principalId ≠ origin.hostPrincipalId ∧
        item = originItem origin started item.principalId := by
  unfold SpawnedGame.items
  split
  case h_1 hnone => exact iff_of_false List.not_mem_nil (by simp [hnone])
  case h_2 started hsome =>
    rw [List.mem_map]
    constructor
    · rintro ⟨principal, hmem, rfl⟩
      obtain ⟨hwatcher, hhost⟩ := List.mem_filter.1 hmem
      exact ⟨started, hsome, mem_watchers.1 hwatcher, of_decide_eq_true hhost, rfl⟩
    · rintro ⟨started', hsome', hwatched, hhost, hitem⟩
      obtain rfl : started = started' := Option.some.inj (hsome.symm.trans hsome')
      exact ⟨item.principalId, List.mem_filter.2 ⟨mem_watchers.2 hwatched, decide_eq_true hhost⟩, hitem.symm⟩

theorem mem_originItems : item ∈ originItems db topic subscription ↔
      ∃ origin ∈ db.spawnedGame, origin.topicId = topic ∧ item ∈ origin.items db subscription := by
  unfold originItems
  rw [List.mem_flatMap]
  constructor
  · rintro ⟨origin, horigin, hitem⟩
    obtain ⟨hmem, htopic⟩ := List.mem_filter.1 horigin
    exact ⟨origin, hmem, of_decide_eq_true htopic, hitem⟩
  · rintro ⟨origin, hmem, htopic, hitem⟩
    exact ⟨origin, List.mem_filter.2 ⟨hmem, decide_eq_true htopic⟩, hitem⟩

variable {watch : PublicWatch}

/-- A subscription's member is one member, so its items are that member's. -/
theorem watched_some (h : Distinct watchClash db.publicWatch) (hwatch : watch ∈ db.publicWatch) :
    Watched db (some watch.subscriptionId) principal watch.surfaceId seq ↔
      principal = watch.principalId ∧ Watched db none principal watch.surfaceId seq := by
  constructor
  · rintro ⟨other, hother, period, hperiod, hsame, hcontains, rfl, hsurface, hsubscription⟩
    have hid : watch.subscriptionId = other.subscriptionId := by
      simpa using hsubscription
    have heq : other = watch := h.eq_of_clash watchClash_comm hother hwatch
      (watchClash_iff.2 (.inl hid.symm))
    subst heq
    exact ⟨rfl, other, hother, period, hperiod, hsame, hcontains, rfl, rfl, .inl rfl⟩
  · rintro ⟨rfl, other, hother, period, hperiod, hsame, hcontains, hprincipal, hsurface, -⟩
    have heq : other = watch := h.eq_of_clash watchClash_comm hother hwatch
      (watchClash_iff.2 (.inr ⟨hprincipal, hsurface⟩))
    subst heq
    exact ⟨other, hother, period, hperiod, hsame, hcontains, rfl, rfl, .inr rfl⟩

theorem mem_watchItems_some (h : Distinct watchClash db.publicWatch) (hwatch : watch ∈ db.publicWatch) :
    item ∈ watchItems db watch.surfaceId (some watch.subscriptionId) deliveries ↔
      item.principalId = watch.principalId ∧ item ∈ watchItems db watch.surfaceId none deliveries := by
  rw [mem_watchItems, mem_watchItems]
  constructor
  · rintro ⟨post, hpost, hwatched, hauthor, hitem⟩
    obtain ⟨hprincipal, hnone⟩ := (watched_some h hwatch).1 hwatched
    exact ⟨hprincipal, post, hpost, hnone, hauthor, hitem⟩
  · rintro ⟨hprincipal, post, hpost, hnone, hauthor, hitem⟩
    exact ⟨post, hpost, (watched_some h hwatch).2 ⟨hprincipal, hnone⟩, hauthor, hitem⟩

theorem mem_originItems_some (h : Distinct watchClash db.publicWatch) (hwatch : watch ∈ db.publicWatch) :
    item ∈ originItems db watch.surfaceId (some watch.subscriptionId) ↔
      item.principalId = watch.principalId ∧ item ∈ originItems db watch.surfaceId none := by
  rw [mem_originItems, mem_originItems]
  constructor
  · rintro ⟨origin, horigin, htopic, hitem⟩
    obtain ⟨started, hstarted, hwatched, hhost, heq⟩ := mem_items.1 hitem
    obtain ⟨hprincipal, hnone⟩ := (watched_some h hwatch).1 (htopic ▸ hwatched)
    exact ⟨hprincipal, origin, horigin, htopic, mem_items.2 ⟨started, hstarted, htopic ▸ hnone, hhost, heq⟩⟩
  · rintro ⟨hprincipal, origin, horigin, htopic, hitem⟩
    obtain ⟨started, hstarted, hwatched, hhost, heq⟩ := mem_items.1 hitem
    have hsome := (watched_some h hwatch).2 ⟨hprincipal, htopic ▸ hwatched⟩
    exact ⟨origin, horigin, htopic, mem_items.2 ⟨started, hstarted, htopic.symm ▸ hsome, hhost, heq⟩⟩

theorem watchItems_key (hitem : item ∈ watchItems db surface subscription deliveries) :
    item.surfaceId = surface ∧ item.reason = .watch := by
  obtain ⟨post, -, -, -, heq⟩ := mem_watchItems.1 hitem
  rw [heq]
  exact ⟨rfl, rfl⟩

theorem originItems_key (hitem : item ∈ originItems db topic subscription) :
    item.surfaceId = topic ∧ item.reason = .gameSpawnedFromWatchedTopic := by
  obtain ⟨origin, -, htopic, hitem⟩ := mem_originItems.1 hitem
  obtain ⟨started, -, -, -, heq⟩ := mem_items.1 hitem
  rw [heq]
  exact ⟨htopic, rfl⟩

theorem reason_of_mem_mentionsOf {activePrincipal : Uuid → Option Uuid} {event : StoredEvent}
    (hitem : item ∈ mentionsOf db activePrincipal event) : item.reason = .mention := by
  have hrows : ∀ {surface sourceSeq authorProfile mentions},
      item ∈ mentionRows activePrincipal surface sourceSeq authorProfile event mentions →
        item.reason = .mention := by
    intro surface sourceSeq authorProfile mentions hmem
    obtain ⟨profile, -, hrow⟩ := List.mem_filterMap.1 hmem
    split at hrow
    · cases hrow
    · split at hrow
      · cases hrow
      · rw [← Option.some.inj hrow]
  unfold mentionsOf at hitem
  split at hitem
  · exact hrows hitem
  · exact hrows hitem
  · exact absurd hitem List.not_mem_nil

end Queries

/-! ## What a change of a watch makes of the inbox -/

section Reconcile

variable {db db' : Db} {topic : Uuid} {subscription : Option Uuid} {item : InboxItem}
  {stored : List StoredEvent}

/-- Two games of one creation are one game. -/
def OneOrigin (db : Db) : Prop :=
  ∀ a ∈ db.spawnedGame, ∀ b ∈ db.spawnedGame, a.createdSeq = b.createdSeq → a = b

/-- Two events of one position are one event. -/
def OnePosition (stored : List StoredEvent) : Prop :=
  ∀ a ∈ stored, ∀ b ∈ stored, a.seq = b.seq → a = b

theorem mem_forumWatchDeliveries {surface : Uuid} {post : ForumWatchDelivery} :
    post ∈ forumWatchDeliveries db stored surface ↔
      surface ∈ db.discussionTopic ∧ ∃ event ∈ stored, event.streamId = surface ∧
        event.isPost = true ∧ event.forumWatchDelivery = post := by
  unfold forumWatchDeliveries
  split
  case isFalse hnone => exact iff_of_false List.not_mem_nil fun h => hnone h.1
  case isTrue htopic =>
    rw [List.mem_map]
    constructor
    · rintro ⟨event, hevent, hpost⟩
      obtain ⟨hmem, hwhere⟩ := List.mem_filter.1 hevent
      obtain ⟨hstream, hkind⟩ := of_decide_eq_true hwhere
      exact ⟨htopic, event, hmem, hstream, hkind, hpost⟩
    · rintro ⟨-, event, hmem, hstream, hkind, hpost⟩
      exact ⟨event, List.mem_filter.2 ⟨hmem, decide_eq_true ⟨hstream, hkind⟩⟩, hpost⟩

theorem staleOrigin_iff : staleOrigin db topic subscription item = true ↔
      item.surfaceId = topic ∧ item.reason = .gameSpawnedFromWatchedTopic ∧
        (subscription = none ∨ ∃ watch ∈ db.publicWatch,
          subscription = some watch.subscriptionId ∧ item.principalId = watch.principalId) := by
  unfold staleOrigin
  rw [decide_eq_true_iff]
  refine and_congr_right fun _ => and_congr_right fun _ => or_congr_right ?_
  rw [List.any_eq_true]
  exact exists_congr fun watch => and_congr_right fun _ => decide_eq_true_iff

theorem staleWatch_iff {subscription : Uuid} : staleWatch db subscription item = true ↔
      ∃ watch ∈ db.publicWatch, watch.subscriptionId = subscription ∧
        item.principalId = watch.principalId ∧ item.surfaceId = watch.surfaceId ∧
        item.reason = .watch := by
  unfold staleWatch
  rw [List.any_eq_true]
  exact exists_congr fun watch => and_congr_right fun _ => decide_eq_true_iff

/-- The announcements of a topic, or those of one of its members, are derived again. -/
theorem mem_reconcileAttention (horigin : OneOrigin db) (items : List InboxItem) :
    item ∈ (reconcileAttention { db with memberInboxItem := items } topic subscription).memberInboxItem ↔
      (item ∈ items ∧ staleOrigin db topic subscription item = false) ∨
        item ∈ originItems db topic subscription := by
  refine mem_replaceWhere itemClash_refl ?_ ?_ ?_
  · intro a b hclash
    obtain ⟨hprincipal, hsurface, -, hreason⟩ := itemClash_iff.1 hclash
    unfold staleOrigin
    rw [hprincipal, hsurface, hreason]
  · intro row hrow
    obtain ⟨hsurface, hreason⟩ := originItems_key hrow
    refine staleOrigin_iff.2 ⟨hsurface, hreason, ?_⟩
    obtain ⟨origin, -, -, hitem⟩ := mem_originItems.1 hrow
    obtain ⟨started, -, hwatched, -, -⟩ := mem_items.1 hitem
    obtain ⟨watch, hwatch, period, -, -, -, hprincipal, -, hsubscription⟩ := hwatched
    exact hsubscription.imp_right fun hsome => ⟨watch, hwatch, hsome, hprincipal.symm⟩
  · intro a ha b hb hclash
    obtain ⟨hprincipal, -, hsource, -⟩ := itemClash_iff.1 hclash
    obtain ⟨origin, ho, -, hitem⟩ := mem_originItems.1 ha
    obtain ⟨origin', ho', -, hitem'⟩ := mem_originItems.1 hb
    obtain ⟨started, hstarted, -, -, heq⟩ := mem_items.1 hitem
    obtain ⟨started', hstarted', -, -, heq'⟩ := mem_items.1 hitem'
    rw [heq, heq'] at hsource
    obtain rfl : origin = origin' := horigin origin ho origin' ho' hsource
    obtain rfl : started = started' := Option.some.inj (hstarted.symm.trans hstarted')
    rw [heq, heq', hprincipal]

/-- What the inbox holds when it is derived from the tables and the posts. Mentions are not. -/
def Derived (db : Db) (stored : List StoredEvent) (item : InboxItem) : Prop :=
  match item.reason with
  | .watch =>
    item ∈ watchItems db item.surfaceId none (forumWatchDeliveries db stored item.surfaceId)
  | .gameSpawnedFromWatchedTopic => item ∈ originItems db item.surfaceId none
  | .mention => item ∈ db.memberInboxItem

/-- The items of a watch are derived again. -/
theorem mem_replaceWatchItems (hwatches : Distinct watchClash db.publicWatch)
    (hpositions : OnePosition stored) (hwatch : watch ∈ db.publicWatch) :
    item ∈ replaceWhere itemClash (staleWatch db watch.subscriptionId) db.memberInboxItem
        (watchItems db watch.surfaceId (some watch.subscriptionId)
          (forumWatchDeliveries db stored watch.surfaceId)) ↔
      (item ∈ db.memberInboxItem ∧ staleWatch db watch.subscriptionId item = false) ∨
        item ∈ watchItems db watch.surfaceId (some watch.subscriptionId)
          (forumWatchDeliveries db stored watch.surfaceId) := by
  refine mem_replaceWhere itemClash_refl ?_ ?_ ?_
  · intro a b hclash
    obtain ⟨hprincipal, hsurface, -, hreason⟩ := itemClash_iff.1 hclash
    unfold staleWatch
    rw [hprincipal, hsurface, hreason]
  · intro row hrow
    obtain ⟨hsurface, hreason⟩ := watchItems_key hrow
    obtain ⟨hprincipal, -⟩ := (mem_watchItems_some hwatches hwatch).1 hrow
    exact staleWatch_iff.2 ⟨watch, hwatch, rfl, hprincipal, hsurface, hreason⟩
  · intro a ha b hb hclash
    obtain ⟨hprincipal, -, hsource, -⟩ := itemClash_iff.1 hclash
    obtain ⟨post, hpost, -, -, heq⟩ := mem_watchItems.1 ha
    obtain ⟨post', hpost', -, -, heq'⟩ := mem_watchItems.1 hb
    obtain ⟨-, event, hevent, -, -, rfl⟩ := mem_forumWatchDeliveries.1 hpost
    obtain ⟨-, event', hevent', -, -, rfl⟩ := mem_forumWatchDeliveries.1 hpost'
    rw [heq, heq'] at hsource
    obtain rfl : event = event' := hpositions event hevent event' hevent' hsource
    rw [heq, heq', hprincipal]

/-- A change of a watch derives what its member has of the surface, and leaves the rest. -/
theorem mem_reconcileSubscription {subscription : Uuid} (h : reconcileSubscription db stored subscription = some db')
    (hwatches : Distinct watchClash db.publicWatch) (horigin : OneOrigin db)
    (hpositions : OnePosition stored) :
    ∃ watch ∈ db.publicWatch, watch.subscriptionId = subscription ∧
      db' = { db with memberInboxItem := db'.memberInboxItem } ∧
      ∀ item, item ∈ db'.memberInboxItem ↔
        if item.principalId = watch.principalId ∧ item.surfaceId = watch.surfaceId then
          Derived db stored item
        else item ∈ db.memberInboxItem := by
  obtain ⟨watch, hfind, h⟩ := Option.bind_eq_some_iff.1 h
  have hid := List.find?_some hfind
  have hid : watch.subscriptionId = subscription := of_decide_eq_true hid
  have hwatch := List.mem_of_find?_eq_some hfind
  obtain rfl := (Option.some.inj h).symm
  subst hid
  refine ⟨watch, hwatch, rfl, rfl, fun item => ?_⟩
  have hstaleWatch : staleWatch db watch.subscriptionId item = true ↔
      item.principalId = watch.principalId ∧ item.surfaceId = watch.surfaceId ∧ item.reason = .watch := by
    rw [staleWatch_iff]
    constructor
    · rintro ⟨other, hother, hid, hkey⟩
      rwa [hwatches.eq_of_clash watchClash_comm hother hwatch (watchClash_iff.2 (.inl hid))] at hkey
    · exact fun hkey => ⟨watch, hwatch, rfl, hkey⟩
  have hstaleOrigin : staleOrigin db watch.surfaceId (some watch.subscriptionId) item = true ↔
      item.principalId = watch.principalId ∧ item.surfaceId = watch.surfaceId ∧
        item.reason = .gameSpawnedFromWatchedTopic := by
    rw [staleOrigin_iff]
    constructor
    · rintro ⟨hsurface, hreason, hnone | ⟨other, hother, hid, hprincipal⟩⟩
      · cases hnone
      · rw [hwatches.eq_of_clash watchClash_comm hother hwatch
          (watchClash_iff.2 (.inl (Option.some.inj hid).symm))] at hprincipal
        exact ⟨hprincipal, hsurface, hreason⟩
    · rintro ⟨hprincipal, hsurface, hreason⟩
      exact ⟨hsurface, hreason, .inr ⟨watch, hwatch, rfl, hprincipal⟩⟩
  have hinbox : item ∈ (reconcileAttention { db with
        memberInboxItem := replaceWhere itemClash (staleWatch db watch.subscriptionId)
          db.memberInboxItem (watchItems db watch.surfaceId (some watch.subscriptionId)
            (forumWatchDeliveries db stored watch.surfaceId)) }
      watch.surfaceId (some watch.subscriptionId)).memberInboxItem ↔
      (((item ∈ db.memberInboxItem ∧ staleWatch db watch.subscriptionId item = false) ∨
          item ∈ watchItems db watch.surfaceId (some watch.subscriptionId)
            (forumWatchDeliveries db stored watch.surfaceId)) ∧
          staleOrigin db watch.surfaceId (some watch.subscriptionId) item = false) ∨
        item ∈ originItems db watch.surfaceId (some watch.subscriptionId) :=
    (mem_reconcileAttention horigin _).trans (or_congr_left
      (and_congr_left fun _ => mem_replaceWatchItems hwatches hpositions hwatch))
  rw [hinbox, mem_watchItems_some hwatches hwatch, mem_originItems_some hwatches hwatch,
    Bool.eq_false_iff, Bool.eq_false_iff, Ne, Ne, hstaleWatch, hstaleOrigin]
  by_cases hkey : item.principalId = watch.principalId ∧ item.surfaceId = watch.surfaceId
  · obtain ⟨hprincipal, hsurface⟩ := hkey
    rw [if_pos ⟨hprincipal, hsurface⟩]
    unfold Derived
    -- of the two queries, each makes items of its own reason
    have hwatchReason := @watchItems_key db watch.surfaceId none
      (forumWatchDeliveries db stored watch.surfaceId) item
    have horiginReason := @originItems_key db watch.surfaceId none item
    cases hreason : item.reason <;> simp_all
  · rw [if_neg hkey]
    constructor
    · rintro (⟨⟨hold, -⟩ | ⟨hprincipal, hmem⟩, -⟩ | ⟨hprincipal, hmem⟩)
      · exact hold
      · exact absurd ⟨hprincipal, (watchItems_key hmem).1⟩ hkey
      · exact absurd ⟨hprincipal, (originItems_key hmem).1⟩ hkey
    · intro hold
      exact .inl ⟨.inl ⟨hold, fun h => hkey ⟨h.1, h.2.1⟩⟩, fun h => hkey ⟨h.1, h.2.1⟩⟩

end Reconcile

/-! ## What a fold writes -/

section Folds

variable {db db' : Db} {stored : List StoredEvent} {activePrincipal : Uuid → Option Uuid}
  {event : StoredEvent}

/-- A subscription's event writes its watch and its periods. -/
theorem foldSubscriptionState_frame (h : foldSubscriptionState db event = some db') : db' = { db with
      publicWatch := db'.publicWatch
      publicWatchPeriod := db'.publicWatchPeriod } := by
  obtain ⟨principal, -, h⟩ := Option.bind_eq_some_iff.1 h
  split at h
  · obtain ⟨watches, -, h⟩ := Option.bind_eq_some_iff.1 h
    obtain ⟨periods, -, h⟩ := Option.bind_eq_some_iff.1 h
    rw [← Option.some.inj h]
  · split at h
    · rw [← Option.some.inj h]
    · cases h
  · rw [← Option.some.inj h]
  · rw [← Option.some.inj h]

/-- The events that change who watches. -/
def StoredEvent.isWatchChange (event : StoredEvent) : Bool :=
  match event.payload with
  | .publicWatchEnabled _ _ | .publicWatchDisabled => true
  | _ => false

theorem payload_of_isWatchChange (h : event.isWatchChange = true) :
    (∃ target readThroughSeq, event.payload = .publicWatchEnabled target readThroughSeq) ∨
      event.payload = .publicWatchDisabled := by
  unfold StoredEvent.isWatchChange at h
  split at h
  case h_1 target readThroughSeq hpayload => exact .inl ⟨target, readThroughSeq, hpayload⟩
  case h_2 hpayload => exact .inr hpayload
  case h_3 => cases h

theorem foldSubscriptionEvent_eq_some (h : foldSubscriptionEvent db stored event = some db') :
    ∃ db₁, foldSubscriptionState db event = some db₁ ∧
      if event.isWatchChange then reconcileSubscription db₁ stored event.streamId = some db'
      else db' = db₁ := by
  obtain ⟨db₁, hstate, h⟩ := Option.bind_eq_some_iff.1 h
  refine ⟨db₁, hstate, ?_⟩
  unfold StoredEvent.isWatchChange
  split at h
  case h_1 => exact h
  case h_2 => exact h
  case h_3 => exact (Option.some.inj h).symm

theorem reconcileSubscription_frame {subscription : Uuid} (h : reconcileSubscription db stored subscription = some db') :
    db' = { db with memberInboxItem := db'.memberInboxItem } := by
  obtain ⟨watch, -, h⟩ := Option.bind_eq_some_iff.1 h
  rw [← Option.some.inj h]
  rfl

/-- What the fold of an event makes of the tables. -/
inductive Projected (db : Db) (stored : List StoredEvent) (activePrincipal : Uuid → Option Uuid)
    (event : StoredEvent) : Db → Prop where
  | topicCreated (hpayload : event.payload = .discussionTopicCreated) :
      Projected db stored activePrincipal event
        { db with discussionTopic := db.discussionTopic ++ [event.streamId] }
  | postSubmitted {authorProfile : Option Uuid} {mentions : List Uuid} (posts : List DiscussionPost)
      (hpayload : event.payload = .discussionPostSubmitted authorProfile mentions) :
      Projected db stored activePrincipal event
        (fanOutProfileMentions (publishForumPost { db with discussionPost := posts } event.streamId
            event.forumWatchDelivery)
          activePrincipal event)
  | postEdited {sourceSeq : Int} {mentions : List Uuid}
      (hpayload : event.payload = .discussionPostEdited sourceSeq mentions) :
      Projected db stored activePrincipal event (fanOutProfileMentions db activePrincipal event)
  | watchChanged {db₁ db' : Db} (hchange : event.isWatchChange = true)
      (hstate : foldSubscriptionState db event = some db₁)
      (hreconcile : reconcileSubscription db₁ stored event.streamId = some db') :
      Projected db stored activePrincipal event db'
  | readAdvanced {readThrough : Int} {db' : Db}
      (hpayload : event.payload = .publicWatchReadAdvanced readThrough)
      (hstate : foldSubscriptionState db event = some db') :
      Projected db stored activePrincipal event db'
  | gameCreated {host topic : Uuid} {games : List SpawnedGame}
      (hpayload : event.payload = .gameCreated host (some topic))
      (hinsert : insertRow sameGame db.spawnedGame ⟨event.streamId, topic, event.seq, host, none⟩ =
        some games) :
      Projected db stored activePrincipal event { db with spawnedGame := games }
  | gameStarted (hpayload : event.payload = .gameStarted) :
      Projected db stored activePrincipal event
        (publishOrigin db event.streamId event.seq event.occurredAt)
  | nothing (hpayload : event.payload = .other ∨ ∃ host, event.payload = .gameCreated host none) :
      Projected db stored activePrincipal event db

theorem projected_of_project (h : project db stored activePrincipal event = some db') :
    Projected db stored activePrincipal event db' := by
  cases hpayload : event.payload with
  | discussionTopicCreated =>
    simp only [project, projectDiscussionEvent, hpayload] at h
    obtain ⟨topics, hinsert, h⟩ := Option.bind_eq_some_iff.1 h
    obtain ⟨-, rfl⟩ := insertRow_eq_some.1 hinsert
    rw [← Option.some.inj h]
    exact .topicCreated hpayload
  | discussionPostSubmitted authorProfile mentions =>
    simp only [project, projectDiscussionEvent, hpayload] at h
    obtain ⟨posts, -, h⟩ := Option.bind_eq_some_iff.1 h
    rw [← Option.some.inj h]
    exact .postSubmitted posts hpayload
  | discussionPostEdited sourceSeq mentions =>
    simp only [project, projectDiscussionEvent, hpayload] at h
    split at h
    · rw [← Option.some.inj h]
      exact .postEdited hpayload
    · cases h
  | publicWatchEnabled target readThrough | publicWatchDisabled =>
    simp only [project, hpayload] at h
    obtain ⟨db₁, hstate, h⟩ := foldSubscriptionEvent_eq_some h
    have hchange : event.isWatchChange = true := by rw [StoredEvent.isWatchChange, hpayload]
    rw [if_pos hchange] at h
    exact .watchChanged hchange hstate h
  | publicWatchReadAdvanced readThrough =>
    simp only [project, hpayload] at h
    obtain ⟨db₁, hstate, h⟩ := foldSubscriptionEvent_eq_some h
    rw [if_neg (by simp [StoredEvent.isWatchChange, hpayload])] at h
    rw [h]
    exact .readAdvanced hpayload hstate
  | gameCreated host origin =>
    cases origin with
    | none =>
      simp only [project, projectGameEvent, hpayload] at h
      rw [← Option.some.inj h]
      exact .nothing (.inr ⟨host, hpayload⟩)
    | some topic =>
      simp only [project, projectGameEvent, hpayload] at h
      obtain ⟨games, hinsert, h⟩ := Option.bind_eq_some_iff.1 h
      rw [← Option.some.inj h]
      exact .gameCreated hpayload hinsert
  | gameStarted =>
    simp only [project, projectGameEvent, hpayload] at h
    rw [← Option.some.inj h]
    exact .gameStarted hpayload
  | other =>
    simp only [project, projectDiscussionEvent, hpayload] at h
    rw [← Option.some.inj h]
    exact .nothing (.inl hpayload)

/-- A start is of a game without an origin, or it is recorded and announced. -/
theorem publishOrigin_cases (db : Db) (game : Uuid) (startedSeq occurredAt : Int) :
    (publishOrigin db game startedSeq occurredAt = db ∧ ∀ origin ∈ db.spawnedGame, origin.gameId ≠ game) ∨
      ∃ origin ∈ db.spawnedGame, origin.gameId = game ∧ publishOrigin db game startedSeq occurredAt =
          reconcileAttention (db.startGame game startedSeq occurredAt) origin.topicId none := by
  unfold publishOrigin
  split
  case h_1 hnone =>
    refine .inl ⟨rfl, fun origin horigin hgame => ?_⟩
    exact List.find?_eq_none.1 hnone origin horigin (decide_eq_true hgame)
  case h_2 origin hfind =>
    have hgame := List.find?_some hfind
    exact .inr ⟨origin, List.mem_of_find?_eq_some hfind, of_decide_eq_true hgame, rfl⟩

/-- A start writes the origins and the inbox. -/
theorem publishOrigin_frame (db : Db) (game : Uuid) (startedSeq occurredAt : Int) :
    publishOrigin db game startedSeq occurredAt = { db with
        spawnedGame := db.spawnedGame.map (·.start game startedSeq occurredAt)
        memberInboxItem := (publishOrigin db game startedSeq occurredAt).memberInboxItem } := by
  rcases publishOrigin_cases db game startedSeq occurredAt with ⟨heq, hother⟩ | ⟨origin, -, -, heq⟩
  · have hsame : ∀ origin ∈ db.spawnedGame, origin.start game startedSeq occurredAt = origin :=
      fun origin horigin => if_neg (hother origin horigin)
    rw [heq, (List.map_congr_left hsame).trans (List.map_id' _)]
  · rw [heq]
    rfl

/-! ## Keys and mentions -/

/-- The mentions of the inbox. -/
def mentionItems (db : Db) : List InboxItem :=
  db.memberInboxItem.filter fun item => item.reason = .mention

theorem mentionItems_publishForumPost (surface : Uuid) (delivery : ForumWatchDelivery) :
    mentionItems (publishForumPost db surface delivery) = mentionItems db :=
  filter_insertMissing_of_not fun item hitem => by
    rw [(watchItems_key hitem).2]
    rfl

theorem mentionItems_reconcileAttention (topic : Uuid) (subscription : Option Uuid) :
    mentionItems (reconcileAttention db topic subscription) = mentionItems db := by
  refine filter_replaceWhere_of_not (fun item hitem => ?_) fun item hitem => ?_
  · have hreason : item.reason = .mention := of_decide_eq_true hitem
    refine Bool.eq_false_iff.2 fun hstale => ?_
    have horigin := (staleOrigin_iff.1 hstale).2.1
    cases hreason.symm.trans horigin
  · rw [(originItems_key hitem).2]
    rfl

theorem mentionItems_reconcileSubscription {subscription : Uuid} (h : reconcileSubscription db stored subscription = some db') :
    mentionItems db' = mentionItems db := by
  obtain ⟨watch, -, h⟩ := Option.bind_eq_some_iff.1 h
  rw [← Option.some.inj h, mentionItems_reconcileAttention]
  refine filter_replaceWhere_of_not (fun item hitem => ?_) fun item hitem => ?_
  · have hreason : item.reason = .mention := of_decide_eq_true hitem
    refine Bool.eq_false_iff.2 fun hstale => ?_
    obtain ⟨-, -, -, -, -, hwatch⟩ := staleWatch_iff.1 hstale
    cases hreason.symm.trans hwatch
  · rw [(watchItems_key hitem).2]
    rfl

theorem mentionItems_fanOut : mentionItems (fanOutProfileMentions db activePrincipal event) =
      insertMissing itemClash (mentionItems db) (mentionsOf db activePrincipal event) :=
  filter_insertMissing
    (fun a b hclash => by rw [(itemClash_iff.1 hclash).2.2.2])
    fun item hitem => decide_eq_true (reason_of_mem_mentionsOf hitem)

theorem distinct_reconcileSubscription {subscription : Uuid} (h : Distinct itemClash db.memberInboxItem)
    (hfold : reconcileSubscription db stored subscription = some db') :
    Distinct itemClash db'.memberInboxItem := by
  obtain ⟨watch, -, hfold⟩ := Option.bind_eq_some_iff.1 hfold
  rw [← Option.some.inj hfold]
  exact (h.replaceWhere _ _).replaceWhere _ _

theorem foldSubscriptionState_items (h : foldSubscriptionState db event = some db') :
    db'.memberInboxItem = db.memberInboxItem := by
  rw [foldSubscriptionState_frame h]

/-- No two items have one key, before a fold and after. -/
theorem distinct_project (h : Distinct itemClash db.memberInboxItem)
    (hfold : project db stored activePrincipal event = some db') :
    Distinct itemClash db'.memberInboxItem := by
  cases projected_of_project hfold with
  | topicCreated => exact h
  | postSubmitted => exact (h.insertMissing _).insertMissing _
  | postEdited => exact h.insertMissing _
  | watchChanged hchange hstate hreconcile =>
    refine distinct_reconcileSubscription ?_ hreconcile
    rwa [foldSubscriptionState_items hstate]
  | readAdvanced hpayload hstate => rwa [foldSubscriptionState_items hstate]
  | gameCreated => exact h
  | gameStarted =>
    rcases publishOrigin_cases db event.streamId event.seq event.occurredAt with
      ⟨heq, -⟩ | ⟨origin, -, -, heq⟩ <;> rw [heq]
    · exact h
    · exact h.replaceWhere _ _
  | nothing => exact h

/-- The mentions after a fold are those before it and those of the event, whoever watches. -/
theorem mentionItems_project (h : project db stored activePrincipal event = some db') : mentionItems db' =
      insertMissing itemClash (mentionItems db) (mentionsOf db activePrincipal event) := by
  cases projected_of_project h with
  | topicCreated hpayload | gameCreated hpayload => rw [mentionsOf, hpayload]; rfl
  | postSubmitted posts hpayload =>
    rw [mentionItems_fanOut, mentionItems_publishForumPost, mentionsOf, mentionsOf, hpayload]
    rfl
  | postEdited => exact mentionItems_fanOut
  | watchChanged hchange hstate hreconcile =>
    have hnone : mentionsOf db activePrincipal event = [] := by
      rcases payload_of_isWatchChange hchange with ⟨target, readThroughSeq, hpayload⟩ | hpayload <;>
        rw [mentionsOf, hpayload]
    rw [mentionItems_reconcileSubscription hreconcile, hnone]
    exact congrArg (List.filter _) (foldSubscriptionState_items hstate)
  | readAdvanced hpayload hstate =>
    rw [mentionsOf, hpayload]
    exact congrArg (List.filter _) (foldSubscriptionState_items hstate)
  | gameStarted hpayload =>
    have hsame : mentionItems (publishOrigin db event.streamId event.seq event.occurredAt) =
        mentionItems db := by
      rcases publishOrigin_cases db event.streamId event.seq event.occurredAt with
        ⟨heq, -⟩ | ⟨origin, -, -, heq⟩ <;> rw [heq]
      exact mentionItems_reconcileAttention _ _
    rw [hsame, mentionsOf, hpayload]
    rfl
  | nothing hpayload =>
    rcases hpayload with hpayload | ⟨host, hpayload⟩ <;> rw [mentionsOf, hpayload] <;> rfl

end Folds

end Fmarch.Projections.Attention
