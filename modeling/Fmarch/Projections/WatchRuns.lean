import Fmarch.Projections.Watches

/-!
# The inbox in every run (`attention_projection`, `attention_writes`)

What the inbox holds, in any run of the transactions of `Watches`. **`Delivers`** is the invariant
of the inbox: the tables' periods and posts justify each watch item, each folded post reached
whoever watches it, and the announcements are those that the tables derive. A post's fold delivers
it by the periods there are; a fold of a watch that comes later derives its member's items again,
from every post that is committed.

**`inbox_exact`**: once every event is folded, a member's watch items are exactly the posts by
others strictly inside one of the member's periods, the announcements are exactly the first starts
of games there, no item is there twice, and all along the mentions are what they would be if nobody
watched. **`crossing_exact`** is a run in which a late fold retracts two items.
-/

namespace Fmarch.Projections.Watches

open Relational Fallible Platform Attention

section Inbox

variable {folded visible visible' stored : List StoredEvent} {db db' : Db} {event : StoredEvent}
  {principal surface : Uuid} {seq : Int} {item : InboxItem}
  {activePrincipal : Uuid → Option Uuid}

/-! ## Who watches, after one more event -/

/-- An event that neither has the member watch nor ends a period of the member's does not matter. -/
theorem inside_append (henabled : ¬ Enables principal surface event)
    (hends : ∀ enabled ∈ folded, Enables principal surface enabled →
      event.streamId = enabled.streamId → event.payload ≠ .publicWatchDisabled) :
    Inside (folded ++ [event]) principal surface seq ↔ Inside folded principal surface seq := by
  constructor
  · rintro ⟨enabled, hmem, henables, hlater, hbefore⟩
    rcases List.mem_append.1 hmem with hold | hnew
    · exact ⟨enabled, hold, henables, hlater,
        fun ended hended => hbefore ended (List.mem_append_left _ hended)⟩
    · rw [List.mem_singleton.1 hnew] at henables
      exact absurd henables henabled
  · rintro ⟨enabled, hmem, henables, hlater, hbefore⟩
    refine ⟨enabled, List.mem_append_left _ hmem, henables, hlater, fun ended hended hsame hpayload => ?_⟩
    rcases List.mem_append.1 hended with hold | hnew
    · exact hbefore ended hold hsame hpayload
    · rw [List.mem_singleton.1 hnew] at hsame hpayload
      exact absurd hpayload (hends enabled hmem henables hsame)

theorem inside_append_of_plain (h : event.isWatchChange = false) :
    Inside (folded ++ [event]) principal surface seq ↔ Inside folded principal surface seq := by
  unfold StoredEvent.isWatchChange at h
  refine inside_append ?_ fun _ _ _ _ hpayload => ?_
  · rintro ⟨-, readThroughSeq, hpayload⟩
    simp [hpayload] at h
  · simp [hpayload] at h

theorem originOf_eq_some {created : StoredEvent} {origin : SpawnedGame} :
    originOf folded created = some origin ↔ ∃ host topic, created.payload = .gameCreated host (some topic) ∧
        origin = ⟨created.streamId, topic, created.seq, host, startOf folded created.streamId⟩ := by
  unfold originOf
  split
  case h_1 host topic hpayload =>
    constructor
    · intro h
      exact ⟨host, topic, hpayload, (Option.some.inj h).symm⟩
    · rintro ⟨host', topic', hpayload', rfl⟩
      obtain ⟨rfl, htopic⟩ := Payload.gameCreated.inj (hpayload.symm.trans hpayload')
      obtain rfl := Option.some.inj htopic
      rfl
  case h_2 hnone =>
    exact iff_of_false (by simp) fun ⟨host, topic, hpayload, _⟩ => hnone host topic hpayload

theorem TracksGames.oneOrigin (h : TracksGames folded db.spawnedGame)
    (hpositions : OnePosition folded) : OneOrigin db := by
  intro a ha b hb hseq
  rw [h.games] at ha hb
  obtain ⟨created, hmem, ha⟩ := List.mem_filterMap.1 ha
  obtain ⟨created', hmem', hb⟩ := List.mem_filterMap.1 hb
  obtain ⟨host, topic, hpayload, rfl⟩ := originOf_eq_some.1 ha
  obtain ⟨host', topic', hpayload', rfl⟩ := originOf_eq_some.1 hb
  obtain rfl := hpositions created hmem created' hmem' hseq
  exact Option.some.inj (ha.symm.trans hb)

/-! ## The invariant of the inbox -/

/-- The post is for the member, by the periods in the tables. -/
def Reaches (db : Db) (post : StoredEvent) (principal : Uuid) : Prop :=
  post.isPost = true ∧ Watched db none principal post.streamId post.seq ∧ post.actor ≠ some principal

/-- The item that tells of a post. -/
def itemOf (post : StoredEvent) (principal : Uuid) : InboxItem :=
  watchItem post.streamId post.forumWatchDelivery principal

/-- The inbox is as the tables, the folded posts and the visible ones have it. -/
structure Delivers (folded visible : List StoredEvent) (db : Db) : Prop where
  sound : ∀ item ∈ db.memberInboxItem, item.reason = .watch →
    ∃ post ∈ visible, Reaches db post item.principalId ∧ item = itemOf post item.principalId
  complete : ∀ post ∈ folded, ∀ principal, Reaches db post principal →
    itemOf post principal ∈ db.memberInboxItem
  announced : ∀ item, item.reason = .gameSpawnedFromWatchedTopic →
    (item ∈ db.memberInboxItem ↔ item ∈ originItems db item.surfaceId none)

theorem reaches_congr {post : StoredEvent} (h : Watched db' none principal post.streamId post.seq ↔
      Watched db none principal post.streamId post.seq) :
    Reaches db' post principal ↔ Reaches db post principal :=
  and_congr_right fun _ => and_congr_left fun _ => h

theorem mem_originItems_congr {topic : Uuid} (hgames : db'.spawnedGame = db.spawnedGame)
    (h : ∀ seq, Watched db' none item.principalId topic seq ↔ Watched db none item.principalId topic seq) :
    item ∈ originItems db' topic none ↔ item ∈ originItems db topic none := by
  rw [mem_originItems, mem_originItems, hgames]
  refine exists_congr fun origin => and_congr_right fun _ => and_congr_right fun htopic => ?_
  rw [mem_items, mem_items, htopic]
  refine exists_congr fun started => and_congr_right fun _ => and_congr_left fun _ => h started.1

/-- A fold of no post that leaves these items and what they are derived from. -/
theorem Delivers.quiet (h : Delivers folded visible db) (hvisible : visible ⊆ visible')
    (hpost : event.isPost = false)
    (hitems : ∀ item, item.reason ≠ .mention → (item ∈ db'.memberInboxItem ↔ item ∈ db.memberInboxItem))
    (hwatched : ∀ principal surface seq,
      Watched db' none principal surface seq ↔ Watched db none principal surface seq)
    (horigins : ∀ item : InboxItem,
      item ∈ originItems db' item.surfaceId none ↔ item ∈ originItems db item.surfaceId none) :
    Delivers (folded ++ [event]) visible' db' where
  sound item hitem hreason := by
    obtain ⟨post, hmem, hreaches, heq⟩ :=
      h.sound item ((hitems item (by simp [hreason])).1 hitem) hreason
    exact ⟨post, hvisible hmem, (reaches_congr (hwatched _ _ _)).2 hreaches, heq⟩
  complete post hmem principal hreaches := by
    rcases List.mem_append.1 hmem with hmem | hmem
    · refine (hitems _ (by simp [itemOf, watchItem])).2 (h.complete post hmem principal ?_)
      exact (reaches_congr (hwatched _ _ _)).1 hreaches
    · rw [List.mem_singleton.1 hmem] at hreaches
      rw [hreaches.1] at hpost
      cases hpost
  announced item hreason := by
    rw [hitems item (by simp [hreason]), h.announced item hreason, horigins]

theorem mem_fanOut (hreason : item.reason ≠ .mention) :
    item ∈ (fanOutProfileMentions db activePrincipal event).memberInboxItem ↔ item ∈ db.memberInboxItem := by
  constructor
  · intro h
    rcases of_mem_insertMissing h with hold | hnew
    · exact hold
    · exact absurd (reason_of_mem_mentionsOf hnew) hreason
  · exact fun h => (prefix_insertMissing itemClash _ _).subset h

/-! ## One fold -/

/-- What the invariant needs of the events around a fold. -/
structure Folding (folded visible visible' : List StoredEvent) (db : Db) (event : StoredEvent)
    (db' : Db) : Prop where
  before : Tracks folded db
  after : Tracks (folded ++ [event]) db'
  inOrder : InOrder (folded ++ [event])
  oneMember : OneMember (folded ++ [event])
  positions : OnePosition visible'
  grows : visible ⊆ visible'
  shows : event ∈ visible'
  seen : folded ⊆ visible
  topics : ∀ post ∈ folded, post.isPost = true → post.streamId ∈ db.discussionTopic

namespace Folding

section

variable (h : Folding folded visible visible' db event db')
include h

theorem watched_before : Watched db none principal surface seq ↔ Inside folded principal surface seq := by
  refine h.before.watched_iff (List.pairwise_append.1 h.inOrder).1 ?_
  exact fun a ha b hb => h.oneMember a (List.mem_append_left _ ha) b (List.mem_append_left _ hb)

theorem watched_after :
    Watched db' none principal surface seq ↔ Inside (folded ++ [event]) principal surface seq :=
  h.after.watched_iff h.inOrder h.oneMember

theorem watched_same (hplain : event.isWatchChange = false) :
    Watched db' none principal surface seq ↔ Watched db none principal surface seq := by
  rw [h.watched_after, h.watched_before]
  exact inside_append_of_plain hplain

/-- A change of a watch changes who else watches as little as any other event. -/
theorem watched_elsewhere {watch : PublicWatch}
    (hwatch : watch ∈ db'.publicWatch) (hid : watch.subscriptionId = event.streamId)
    (hkey : ¬ (principal = watch.principalId ∧ surface = watch.surfaceId)) :
    Watched db' none principal surface seq ↔ Watched db none principal surface seq := by
  obtain ⟨opening, hopening, hstream, hopens⟩ := h.after.watches.opened watch hwatch
  have hsame : ∀ enabled ∈ folded ++ [event], Enables principal surface enabled →
      enabled.streamId ≠ event.streamId := by
    intro enabled hmem henables heq
    have hmember := h.oneMember opening hopening enabled hmem
      (hstream.trans (hid.trans heq.symm)) _ _ hopens henables.isEnabled
    exact hkey (henables.unique hmember)
  rw [h.watched_after, h.watched_before]
  refine inside_append (fun henables => ?_) fun enabled hmem henables heq => ?_
  · exact hsame event (List.mem_append_right _ List.mem_cons_self) henables rfl
  · exact absurd heq.symm (hsame enabled (List.mem_append_left _ hmem) henables)

theorem oneOrigin : OneOrigin db' :=
  h.after.games.oneOrigin fun a ha b hb => by
    have hevent : [event] ⊆ visible' := List.cons_subset.2 ⟨h.shows, List.nil_subset _⟩
    have hsub := List.append_subset.2 ⟨List.Subset.trans h.seen h.grows, hevent⟩
    exact h.positions a (hsub ha) b (hsub hb)

end

end Folding

/-- A post reaches whoever watches. -/
theorem Delivers.publish (h : Delivers folded visible db)
    (hfolding : Folding folded visible visible' db event db') (hpost : event.isPost = true)
    (hwatches : db'.publicWatch = db.publicWatch)
    (hperiods : db'.publicWatchPeriod = db.publicWatchPeriod)
    (hgames : db'.spawnedGame = db.spawnedGame)
    (hitems : ∀ item, item.reason ≠ .mention → (item ∈ db'.memberInboxItem ↔
      item ∈ insertMissing itemClash db.memberInboxItem
        (watchItems db event.streamId none [event.forumWatchDelivery]))) :
    Delivers (folded ++ [event]) visible' db' := by
  have hwatched : ∀ {principal surface seq},
      Watched db' none principal surface seq ↔ Watched db none principal surface seq := by
    intro principal surface seq
    unfold Watched
    rw [hwatches, hperiods]
  have hnew : ∀ item, item ∈ watchItems db event.streamId none [event.forumWatchDelivery] ↔
      Reaches db event item.principalId ∧ item = itemOf event item.principalId := by
    intro item
    rw [mem_watchItems]
    constructor
    · rintro ⟨post, hmem, hwatched, hauthor, heq⟩
      rw [List.mem_singleton.1 hmem] at hwatched hauthor heq
      exact ⟨⟨hpost, hwatched, hauthor⟩, heq⟩
    · rintro ⟨⟨-, hwatched, hauthor⟩, heq⟩
      exact ⟨_, List.mem_cons_self, hwatched, hauthor, heq⟩
  -- an item with the key of a new one tells of the same post
  have hinserted : ∀ item, item ∈ insertMissing itemClash db.memberInboxItem
      (watchItems db event.streamId none [event.forumWatchDelivery]) ↔
        item ∈ db.memberInboxItem ∨ Reaches db event item.principalId ∧
          item = itemOf event item.principalId := by
    intro item
    rw [mem_insertMissing itemClash_refl, hnew]
    intro old hold row hrow hclash
    obtain ⟨hprincipal, -, hsource, hreason⟩ := itemClash_iff.1 hclash
    obtain ⟨-, hrow⟩ := (hnew row).1 hrow
    rcases hold with hold | hold
    · have hwatch : old.reason = .watch := hreason.trans (congrArg InboxItem.reason hrow)
      obtain ⟨post, hmem, -, hold⟩ := h.sound old hold hwatch
      have hseq : post.seq = event.seq :=
        (congrArg InboxItem.sourceSeq hold).symm.trans
          (hsource.trans (congrArg InboxItem.sourceSeq hrow))
      obtain rfl := hfolding.positions post (hfolding.grows hmem) event hfolding.shows hseq
      rw [hold, hrow, hprincipal]
    · rw [((hnew old).1 hold).2, hrow, hprincipal]
  refine ⟨fun item hitem hreason => ?_, fun post hmem principal hreaches => ?_, fun item hreason => ?_⟩
  · have hitem := (hitems item (by simp [hreason])).1 hitem
    rcases (hinserted item).1 hitem with hold | ⟨hreaches, heq⟩
    · obtain ⟨post, hmem, hreaches, heq⟩ := h.sound item hold hreason
      exact ⟨post, hfolding.grows hmem, (reaches_congr hwatched).2 hreaches, heq⟩
    · exact ⟨event, hfolding.shows, (reaches_congr hwatched).2 hreaches, heq⟩
  · refine (hitems _ (by simp [itemOf, watchItem])).2 ((hinserted _).2 ?_)
    have hreaches := (reaches_congr hwatched).1 hreaches
    rcases List.mem_append.1 hmem with hmem | hmem
    · exact .inl (h.complete post hmem principal hreaches)
    · obtain rfl := List.mem_singleton.1 hmem
      exact .inr ⟨hreaches, rfl⟩
  · rw [hitems item (by simp [hreason]), hinserted, mem_originItems_congr hgames fun _ => hwatched]
    refine (or_iff_left fun hnew => ?_).trans (h.announced item hreason)
    rw [hnew.2] at hreason
    exact absurd hreason (by simp [itemOf, watchItem])

theorem sameGame_comm (a b : SpawnedGame) : sameGame a b = sameGame b a := by
  unfold sameGame
  rw [Bool.eq_iff_iff, decide_eq_true_iff, decide_eq_true_iff, eq_comm]

/-- A start changes nothing that is derived for the other topics. -/
theorem mem_originItems_startGame {origin : SpawnedGame} {startedSeq occurredAt : Int}
    (hgames : Distinct sameGame db.spawnedGame) (horigin : origin ∈ db.spawnedGame)
    (htopic : surface ≠ origin.topicId) :
    item ∈ originItems (db.startGame origin.gameId startedSeq occurredAt) surface none ↔
      item ∈ originItems db surface none := by
  have hother : ∀ other ∈ db.spawnedGame, other.topicId = surface →
      other.start origin.gameId startedSeq occurredAt = other := by
    intro other hother hsurface
    refine if_neg fun hgame => htopic ?_
    rw [← hsurface, hgames.eq_of_clash sameGame_comm hother horigin (decide_eq_true hgame)]
  rw [mem_originItems, mem_originItems]
  constructor
  · rintro ⟨started, hstarted, hsurface, hitem⟩
    obtain ⟨other, hmem, rfl⟩ := List.mem_map.1 hstarted
    have hotherTopic : other.topicId = surface := by
      rw [← hsurface]
      unfold SpawnedGame.start
      split <;> rfl
    rw [hother other hmem hotherTopic] at hitem
    exact ⟨other, hmem, hotherTopic, hitem⟩
  · rintro ⟨other, hmem, hsurface, hitem⟩
    exact ⟨other, List.mem_map.2 ⟨other, hmem, hother other hmem hsurface⟩, hsurface, hitem⟩

/-- A start announces its game and leaves the other topics. -/
theorem Delivers.start (h : Delivers folded visible db) (hfolding : Folding folded visible visible' db event
      (publishOrigin db event.streamId event.seq event.occurredAt))
    (hpayload : event.payload = .gameStarted) :
    Delivers (folded ++ [event]) visible'
      (publishOrigin db event.streamId event.seq event.occurredAt) := by
  have hpost : event.isPost = false := by rw [StoredEvent.isPost, hpayload]
  rcases publishOrigin_cases db event.streamId event.seq event.occurredAt with
    ⟨heq, -⟩ | ⟨origin, hmem, hgame, heq⟩ <;> rw [heq] at hfolding ⊢
  · exact h.quiet hfolding.grows hpost (fun _ _ => Iff.rfl) (fun _ _ _ => Iff.rfl) fun _ => Iff.rfl
  have hone : OneOrigin (db.startGame event.streamId event.seq event.occurredAt) :=
    hfolding.oneOrigin
  have hinbox := fun item =>
    @mem_reconcileAttention _ origin.topicId none item hone db.memberInboxItem
  have hkept : ∀ item, item.reason = .watch →
      (item ∈ (reconcileAttention (db.startGame event.streamId event.seq event.occurredAt)
        origin.topicId none).memberInboxItem ↔ item ∈ db.memberInboxItem) := by
    intro item hreason
    refine (hinbox item).trans ⟨?_, fun hold => .inl ⟨hold, Bool.eq_false_iff.2 fun hstale => ?_⟩⟩
    · rintro (⟨hold, -⟩ | hnew)
      · exact hold
      · exact absurd (hreason.symm.trans (originItems_key hnew).2) (by decide)
    · exact absurd (hreason.symm.trans (staleOrigin_iff.1 hstale).2.1) (by decide)
  refine ⟨fun item hitem hreason => ?_, fun post hpostMem principal hreaches => ?_, fun item hreason => ?_⟩
  · obtain ⟨post, hpostMem, hreaches, hpostItem⟩ :=
      h.sound item ((hkept item hreason).1 hitem) hreason
    exact ⟨post, hfolding.grows hpostMem, hreaches, hpostItem⟩
  · refine (hkept _ rfl).2 ?_
    rcases List.mem_append.1 hpostMem with hold | hnew
    · exact h.complete post hold principal hreaches
    · rw [List.mem_singleton.1 hnew] at hreaches
      cases hpost.symm.trans hreaches.1
  · refine (hinbox item).trans ?_
    by_cases htopic : item.surfaceId = origin.topicId
    · have hstale : staleOrigin (db.startGame event.streamId event.seq event.occurredAt)
          origin.topicId none item = true := staleOrigin_iff.2 ⟨htopic, hreason, .inl rfl⟩
      rw [hstale, htopic]
      exact or_iff_right fun hold => absurd hold.2 (by decide)
    · have hstale : staleOrigin (db.startGame event.streamId event.seq event.occurredAt)
          origin.topicId none item = false :=
        Bool.eq_false_iff.2 fun hstale => htopic (staleOrigin_iff.1 hstale).1
      rw [hstale, or_iff_left fun hnew => htopic (originItems_key hnew).1, ← hgame]
      refine (and_iff_left rfl).trans ((h.announced item hreason).trans ?_)
      exact (mem_originItems_startGame hfolding.before.games.distinct hmem htopic).symm

/-- A change of a watch derives its member's items, and leaves the others. -/
theorem Delivers.change {db₁ : Db} (h : Delivers folded visible db)
    (hfolding : Folding folded visible visible' db event db') (hchange : event.isWatchChange = true)
    (hstate : foldSubscriptionState db event = some db₁)
    (hreconcile : reconcileSubscription db₁ visible event.streamId = some db') :
    Delivers (folded ++ [event]) visible' db' := by
  have hframe := reconcileSubscription_frame hreconcile
  have hpost : event.isPost = false := by
    rcases payload_of_isWatchChange hchange with ⟨target, readThroughSeq, hpayload⟩ | hpayload <;>
      rw [StoredEvent.isPost, hpayload]
  obtain ⟨hwatches, horigin⟩ : Distinct watchClash db₁.publicWatch ∧ OneOrigin db₁ := by
    have hdistinct := hfolding.after.watches.distinct
    have hone := hfolding.oneOrigin
    rw [hframe] at hdistinct hone
    exact ⟨hdistinct, hone⟩
  have hpositions : OnePosition visible := fun a ha b hb =>
    hfolding.positions a (hfolding.grows ha) b (hfolding.grows hb)
  obtain ⟨watch, hwatch, hid, -, hinbox⟩ :=
    mem_reconcileSubscription hreconcile hwatches horigin hpositions
  have helsewhere := fun principal surface seq =>
    @Folding.watched_elsewhere _ _ _ _ _ _ principal surface seq hfolding watch
      (by rw [hframe]; exact hwatch) hid
  have hwatched : ∀ principal surface seq,
      Watched db₁ none principal surface seq ↔ Watched db' none principal surface seq := by
    intro principal surface seq
    rw [hframe]
    exact Iff.rfl
  have hitems := foldSubscriptionState_items hstate
  have hgames : db'.spawnedGame = db.spawnedGame := by
    rw [hframe, foldSubscriptionState_frame hstate]
  have htopics : db₁.discussionTopic = db.discussionTopic := by
    rw [foldSubscriptionState_frame hstate]
  refine ⟨fun item hitem hreason => ?_, fun post hmem principal hreaches => ?_, fun item hreason => ?_⟩
  · have hitem := (hinbox item).1 hitem
    split at hitem
    case isTrue hkey =>
      simp only [Derived, hreason] at hitem
      obtain ⟨delivery, hdelivery, hwatching, hauthor, heq⟩ := mem_watchItems.1 hitem
      obtain ⟨-, post, hmem, hstream, hkind, rfl⟩ := mem_forumWatchDeliveries.1 hdelivery
      refine ⟨post, hfolding.grows hmem, ⟨hkind, ?_, hauthor⟩, ?_⟩
      · rw [hstream]
        exact (hwatched _ _ _).1 hwatching
      · rw [itemOf, hstream]
        exact heq
    case isFalse hkey =>
      rw [hitems] at hitem
      obtain ⟨post, hmem, hreaches, heq⟩ := h.sound item hitem hreason
      have hsurface : item.surfaceId = post.streamId := congrArg InboxItem.surfaceId heq
      rw [hsurface] at hkey
      exact ⟨post, hfolding.grows hmem, (reaches_congr (helsewhere _ _ _ hkey)).2 hreaches, heq⟩
  · have hold : post ∈ folded := by
      rcases List.mem_append.1 hmem with hold | hnew
      · exact hold
      · rw [List.mem_singleton.1 hnew] at hreaches
        cases hpost.symm.trans hreaches.1
    refine (hinbox _).2 ?_
    split
    case isTrue hkey =>
      obtain ⟨hkind, hwatching, hauthor⟩ := hreaches
      have hdelivery : post.forumWatchDelivery ∈ forumWatchDeliveries db₁ visible post.streamId := by
        refine mem_forumWatchDeliveries.2 ⟨?_, post, hfolding.seen hold, rfl, hkind, rfl⟩
        rw [htopics]
        exact hfolding.topics post hold hkind
      exact mem_watchItems.2 ⟨_, hdelivery, (hwatched _ _ _).2 hwatching, hauthor, rfl⟩
    case isFalse hkey =>
      rw [hitems]
      exact h.complete post hold principal ((reaches_congr (helsewhere _ _ _ hkey)).1 hreaches)
  · rw [hinbox item]
    split
    case isTrue hkey =>
      simp only [Derived, hreason]
      rw [hframe]
      exact Iff.rfl
    case isFalse hkey =>
      rw [hitems, h.announced item hreason]
      exact (mem_originItems_congr hgames fun seq => helsewhere _ _ seq hkey).symm

/-- **The inbox is kept by every fold.** -/
theorem Delivers.project (h : Delivers folded visible db)
    (hfolding : Folding folded visible visible' db event db')
    (hfold : project db visible activePrincipal event = some db') :
    Delivers (folded ++ [event]) visible' db' := by
  have hsame := fun hplain principal surface seq =>
    @Folding.watched_same _ _ _ _ _ _ principal surface seq hfolding hplain
  cases projected_of_project hfold with
  | topicCreated hpayload =>
    exact h.quiet hfolding.grows (by rw [StoredEvent.isPost, hpayload]) (fun _ _ => Iff.rfl)
      (fun _ _ _ => Iff.rfl) fun _ => Iff.rfl
  | postSubmitted posts hpayload =>
    exact h.publish hfolding (by rw [StoredEvent.isPost, hpayload]) rfl rfl rfl
      fun item hreason => mem_fanOut hreason
  | postEdited hpayload =>
    exact h.quiet hfolding.grows (by rw [StoredEvent.isPost, hpayload])
      (fun item hreason => mem_fanOut hreason) (fun _ _ _ => Iff.rfl) fun _ => Iff.rfl
  | watchChanged hchange hstate hreconcile => exact h.change hfolding hchange hstate hreconcile
  | readAdvanced hpayload hstate =>
    have hwatched := hsame (by rw [StoredEvent.isWatchChange, hpayload])
    have hgames : db'.spawnedGame = db.spawnedGame := by rw [foldSubscriptionState_frame hstate]
    refine h.quiet hfolding.grows (by rw [StoredEvent.isPost, hpayload]) (fun item _ => ?_) hwatched
      fun item => mem_originItems_congr hgames fun seq => hwatched _ _ seq
    rw [foldSubscriptionState_items hstate]
  | gameCreated hpayload hinsert =>
    refine h.quiet hfolding.grows (by rw [StoredEvent.isPost, hpayload]) (fun _ _ => Iff.rfl)
      (fun _ _ _ => Iff.rfl) fun item => ?_
    obtain ⟨-, rfl⟩ := insertRow_eq_some.1 hinsert
    rw [mem_originItems, mem_originItems]
    constructor
    · rintro ⟨origin, horigin, htopic, hitem⟩
      rcases List.mem_append.1 horigin with hold | hnew
      · exact ⟨origin, hold, htopic, hitem⟩
      · -- it has not started, so it announces nothing
        obtain ⟨started, hstarted, -⟩ := mem_items.1 hitem
        rw [List.mem_singleton.1 hnew] at hstarted
        cases hstarted
    · rintro ⟨origin, horigin, htopic, hitem⟩
      exact ⟨origin, List.mem_append_left _ horigin, htopic, hitem⟩
  | gameStarted hpayload => exact h.start hfolding hpayload
  | nothing hpayload =>
    have hpost : event.isPost = false := by
      rcases hpayload with hpayload | ⟨host, hpayload⟩ <;> rw [StoredEvent.isPost, hpayload]
    exact h.quiet hfolding.grows hpost (fun _ _ => Iff.rfl) (fun _ _ _ => Iff.rfl) fun _ => Iff.rfl

end Inbox

/-! ## The invariant of the log -/

/-- The events are in order, and each follows what it needs. -/
structure Ordered (s : State) : Prop where
  bounded : ∀ event ∈ s.log, event.seq ≤ s.lastSeq
  numbered : ∀ event ∈ s.log, 0 < event.streamSeq
  positions : OnePosition s.log
  inOrder : InOrder s.folded
  after : ∀ event ∈ s.folded, ∀ entry ∈ s.pending, event.streamId = entry.event.streamId →
    event.seq < entry.event.seq
  oneMember : OneMember s.log
  opened : ∀ post ∈ s.log, post.isPost = true → ∃ created ∈ s.visible,
    created.streamId = post.streamId ∧ created.payload = .discussionTopicCreated ∧ created.seq < post.seq
  first : ∀ created ∈ s.log, isGame created.payload = true → ∀ event ∈ s.log,
    event.streamId = created.streamId → created.seq ≤ event.seq

/-- What an event needs to be appended. -/
structure Admits (s : State) (stream : Uuid) (actor : Option Uuid) (payload : Payload) : Prop where
  topic : (∃ authorProfile mentions, payload = .discussionPostSubmitted authorProfile mentions) →
    ∃ created ∈ s.visible, created.streamId = stream ∧ created.payload = .discussionTopicCreated
  game : isGame payload = true → ∀ event ∈ s.log, event.streamId ≠ stream
  member : ∀ target readThroughSeq, payload = .publicWatchEnabled target readThroughSeq →
    ∃ principal, actor = some principal ∧ ∀ event ∈ s.log, event.streamId = stream →
      isEnabled event = true → Enables principal target event

/-- The events, the tables and the inbox of a state go together. -/
structure Kept (s : State) : Prop where
  ordered : Ordered s
  tracks : Tracks s.folded s.tables
  delivers : Delivers s.folded s.visible s.tables
  distinct : Distinct itemClash s.tables.memberInboxItem

section Runs

variable {s s' : State} {event : StoredEvent} {stream : Uuid} {actor : Option Uuid}
  {occurredAt : Int} {payload : Payload} {seq : Int}

theorem mem_log : event ∈ s.log ↔ event ∈ s.folded ∨ ∃ entry ∈ s.pending, entry.event = event := by
  unfold State.log
  rw [List.mem_append, List.mem_map]

theorem mem_visible : event ∈ s.visible ↔
    event ∈ s.folded ∨ ∃ entry ∈ s.pending, entry.committed = true ∧ entry.event = event := by
  unfold State.visible
  rw [List.mem_append, List.mem_map]
  refine or_congr_right (exists_congr fun entry => ?_)
  rw [List.mem_filter, and_assoc]

theorem visible_subset_log : s.visible ⊆ s.log := by
  intro event h
  rcases mem_visible.1 h with h | ⟨entry, hmem, -, heq⟩
  · exact mem_log.2 (.inl h)
  · exact mem_log.2 (.inr ⟨entry, hmem, heq⟩)

theorem folded_subset_visible : s.folded ⊆ s.visible := fun _ h => mem_visible.2 (.inl h)

/-- The positions of a stream are counted from one, so an empty stream is one without events. -/
theorem Ordered.fresh (h : Ordered s) (hhead : s.currentStreamSeq stream = 0) :
    ∀ event ∈ s.log, event.streamId ≠ stream := by
  intro event hevent hstream
  have hmem : event.streamSeq ∈ (s.log.filter fun event => event.streamId = stream).map (·.streamSeq) :=
    List.mem_map_of_mem (List.mem_filter.2 ⟨hevent, decide_eq_true hstream⟩)
  unfold State.currentStreamSeq at hhead
  cases hmax : ((s.log.filter fun event => event.streamId = stream).map (·.streamSeq)).max? with
  | none =>
    rw [List.max?_eq_none_iff.1 hmax] at hmem
    exact absurd hmem List.not_mem_nil
  | some head =>
    have hle := (List.max?_eq_some_iff.1 hmax).2 event.streamSeq hmem
    have hpos := h.numbered event hevent
    rw [hmax] at hhead
    simp only [Option.getD_some] at hhead
    omega

theorem Ordered.currentStreamSeq_nonneg (h : Ordered s) (stream : Uuid) : 0 ≤ s.currentStreamSeq stream := by
  unfold State.currentStreamSeq
  cases hmax : ((s.log.filter fun event => event.streamId = stream).map (·.streamSeq)).max? with
  | none => exact Int.le_refl 0
  | some head =>
    obtain ⟨event, hevent, rfl⟩ := List.mem_map.1 (List.max?_eq_some_iff.1 hmax).1
    exact Int.le_of_lt (h.numbered event (List.mem_filter.1 hevent).1)

/-! ## One event appended -/

/-- The event that an append stores. -/
def newEvent (s : State) (stream : Uuid) (actor : Option Uuid) (occurredAt : Int)
    (payload : Payload) : StoredEvent :=
  ⟨s.lastSeq + 1, stream, s.currentStreamSeq stream + 1, actor, occurredAt, payload⟩

theorem log_insertEvent : (State.insertEvent stream actor occurredAt s payload).log =
    s.log ++ [newEvent s stream actor occurredAt payload] := by
  unfold State.log State.insertEvent newEvent
  simp

theorem visible_insertEvent : (State.insertEvent stream actor occurredAt s payload).visible = s.visible := by
  unfold State.visible State.insertEvent
  simp

theorem Ordered.insertEvent (h : Ordered s) (hadmits : Admits s stream actor payload) :
    Ordered (State.insertEvent stream actor occurredAt s payload) := by
  have hlate : ∀ event ∈ s.log, event.seq < s.lastSeq + 1 := fun event hevent => by
    have hle := h.bounded event hevent
    omega
  refine ⟨?_, ?_, ?_, h.inOrder, ?_, ?_, ?_, ?_⟩
  · rw [log_insertEvent]
    intro event hevent
    rcases List.mem_append.1 hevent with hold | hnew
    · exact Int.le_of_lt (hlate event hold)
    · rw [List.mem_singleton.1 hnew]
      exact Int.le_refl _
  · rw [log_insertEvent]
    intro event hevent
    rcases List.mem_append.1 hevent with hold | hnew
    · exact h.numbered event hold
    · have hhead := h.currentStreamSeq_nonneg stream
      rw [List.mem_singleton.1 hnew]
      exact Int.lt_add_one_of_le hhead
  · rw [log_insertEvent]
    intro a ha b hb hseq
    rcases List.mem_append.1 ha with ha | ha <;> rcases List.mem_append.1 hb with hb | hb
    · exact h.positions a ha b hb hseq
    · rw [List.mem_singleton.1 hb] at hseq
      exact absurd hseq (Int.ne_of_lt (hlate a ha))
    · rw [List.mem_singleton.1 ha] at hseq
      exact absurd hseq.symm (Int.ne_of_lt (hlate b hb))
    · rw [List.mem_singleton.1 ha, List.mem_singleton.1 hb]
  · intro event hevent entry hentry hstream
    rcases List.mem_append.1 hentry with hold | hnew
    · exact h.after event hevent entry hold hstream
    · rw [List.mem_singleton.1 hnew]
      exact hlate event (mem_log.2 (.inl hevent))
  · rw [log_insertEvent]
    intro a ha b hb hstream principal surface henables hkind
    rcases List.mem_append.1 ha with ha | ha <;> rcases List.mem_append.1 hb with hb | hb
    · exact h.oneMember a ha b hb hstream principal surface henables hkind
    · rw [List.mem_singleton.1 hb] at hstream hkind ⊢
      obtain ⟨target, readThroughSeq, hpayload⟩ := isEnabled_iff.1 hkind
      obtain ⟨member, hactor, hsame⟩ := hadmits.member target readThroughSeq hpayload
      obtain ⟨rfl, rfl⟩ := henables.unique (hsame a ha hstream henables.isEnabled)
      exact ⟨hactor, readThroughSeq, hpayload⟩
    · rw [List.mem_singleton.1 ha] at hstream henables
      obtain ⟨hactor, readThroughSeq, hpayload⟩ := henables
      obtain ⟨member, hmember, hsame⟩ := hadmits.member surface readThroughSeq hpayload
      obtain rfl := Option.some.inj (hactor.symm.trans hmember)
      exact hsame b hb hstream.symm hkind
    · rw [List.mem_singleton.1 ha] at henables
      rwa [List.mem_singleton.1 hb]
  · rw [log_insertEvent, visible_insertEvent]
    intro post hpost hkind
    rcases List.mem_append.1 hpost with hold | hnew
    · exact h.opened post hold hkind
    · rw [List.mem_singleton.1 hnew] at hkind ⊢
      have hpayload : ∃ authorProfile mentions,
          payload = .discussionPostSubmitted authorProfile mentions := by
        unfold StoredEvent.isPost newEvent at hkind
        split at hkind
        case h_1 authorProfile mentions heq => exact ⟨authorProfile, mentions, heq⟩
        case h_2 => cases hkind
      obtain ⟨created, hmem, hstream, hcreated⟩ := hadmits.topic hpayload
      exact ⟨created, hmem, hstream, hcreated, hlate created (visible_subset_log hmem)⟩
  · rw [log_insertEvent]
    intro created hcreated hkind event hevent hstream
    rcases List.mem_append.1 hcreated with hc | hc <;> rcases List.mem_append.1 hevent with he | he
    · exact h.first created hc hkind event he hstream
    · rw [List.mem_singleton.1 he]
      exact Int.le_of_lt (hlate created hc)
    · rw [List.mem_singleton.1 hc] at hkind hstream
      exact absurd hstream (hadmits.game hkind event he)
    · exact Int.le_of_eq (by rw [List.mem_singleton.1 hc, List.mem_singleton.1 he])

theorem Kept.insertEvent (h : Kept s) (hadmits : Admits s stream actor payload) :
    Kept (State.insertEvent stream actor occurredAt s payload) :=
  { h with
    ordered := h.ordered.insertEvent hadmits
    delivers := by
      rw [visible_insertEvent]
      exact h.delivers }

/-! ## Commits, rollbacks and folds -/

/-- Events may become visible, and events that are not folded may go. -/
theorem Ordered.shrink (h : Ordered s) (hlast : s'.lastSeq = s.lastSeq) (hlog : s'.log ⊆ s.log)
    (hvisible : s.visible ⊆ s'.visible) (hinOrder : InOrder s'.folded)
    (hafter : ∀ event ∈ s'.folded, ∀ entry ∈ s'.pending, event.streamId = entry.event.streamId →
      event.seq < entry.event.seq) : Ordered s' where
  bounded event hevent := hlast ▸ h.bounded event (hlog hevent)
  numbered event hevent := h.numbered event (hlog hevent)
  positions a ha b hb := h.positions a (hlog ha) b (hlog hb)
  inOrder := hinOrder
  after := hafter
  oneMember a ha b hb := h.oneMember a (hlog ha) b (hlog hb)
  opened post hpost hkind := by
    obtain ⟨created, hcreated, hopens⟩ := h.opened post (hlog hpost) hkind
    exact ⟨created, hvisible hcreated, hopens⟩
  first created hcreated hkind event hevent :=
    h.first created (hlog hcreated) hkind event (hlog hevent)

theorem Kept.commit (h : Kept s) (hstep : s.step (.commit seq) = some s') : Kept s' := by
  obtain rfl := Option.some.inj hstep
  have hentry : ∀ entry : Pending, (if entry.event.seq = seq then { entry with committed := true }
      else entry).event = entry.event := by
    intro entry
    split <;> rfl
  have hgrows : s.visible ⊆ State.visible { s with
      pending := s.pending.map fun entry =>
        if entry.event.seq = seq then { entry with committed := true } else entry } := by
    intro event hevent
    rcases mem_visible.1 hevent with hold | ⟨entry, hmem, hcommitted, rfl⟩
    · exact mem_visible.2 (.inl hold)
    · refine mem_visible.2 (.inr ⟨_, List.mem_map_of_mem hmem, ?_, hentry entry⟩)
      split
      · rfl
      · exact hcommitted
  refine ⟨h.ordered.shrink rfl ?_ hgrows h.ordered.inOrder ?_, h.tracks, ?_, h.distinct⟩
  · intro event hevent
    rcases mem_log.1 hevent with hold | ⟨entry, hmem, rfl⟩
    · exact mem_log.2 (.inl hold)
    · obtain ⟨old, hold, rfl⟩ := List.mem_map.1 hmem
      exact mem_log.2 (.inr ⟨old, hold, (hentry old).symm⟩)
  · intro event hevent entry hmem
    obtain ⟨old, hold, rfl⟩ := List.mem_map.1 hmem
    rw [hentry]
    exact h.ordered.after event hevent old hold
  · refine ⟨fun item hitem hreason => ?_, h.delivers.complete, h.delivers.announced⟩
    obtain ⟨post, hpost, hreaches⟩ := h.delivers.sound item hitem hreason
    exact ⟨post, hgrows hpost, hreaches⟩

theorem Kept.rollback (h : Kept s) (hstep : s.step (.rollback seq) = some s') : Kept s' := by
  obtain rfl := Option.some.inj hstep
  have hsame : State.visible { s with
      pending := s.pending.filter fun entry => ¬ (entry.event.seq = seq ∧ ¬ entry.committed) } =
      s.visible := by
    unfold State.visible
    rw [List.filter_filter]
    congr 2
    refine List.filter_congr fun entry _ => ?_
    cases entry.committed <;> simp
  refine ⟨h.ordered.shrink rfl ?_ (hsame ▸ List.Subset.refl _) h.ordered.inOrder ?_, h.tracks, ?_, h.distinct⟩
  · intro event hevent
    rcases mem_log.1 hevent with hold | ⟨entry, hmem, rfl⟩
    · exact mem_log.2 (.inl hold)
    · exact mem_log.2 (.inr ⟨entry, (List.mem_filter.1 hmem).1, rfl⟩)
  · intro event hevent entry hmem
    exact h.ordered.after event hevent entry (List.mem_filter.1 hmem).1
  · rw [hsame]
    exact h.delivers

/-- What a fold does. -/
theorem fold_eq_some {activePrincipal : Uuid → Option Uuid} (h : s.fold seq activePrincipal = some s') :
    ∃ entry ∈ s.pending, ∃ tables,
      s.pending.find? (fun entry => entry.event.seq = seq) = some entry ∧ entry.event.seq = seq ∧
      (∀ other ∈ s.pending, other.event.streamId = entry.event.streamId → seq ≤ other.event.seq) ∧
      project s.tables s.visible activePrincipal entry.event = some tables ∧
      s' = { s with
        folded := s.folded ++ [entry.event]
        pending := s.pending.filter fun other => other.event.seq ≠ seq
        tables := tables } := by
  obtain ⟨entry, hfind, h⟩ := Option.bind_eq_some_iff.1 h
  have hseq := List.find?_some hfind
  split at h
  case isTrue => cases h
  case isFalse hfirst =>
    obtain ⟨tables, hproject, h⟩ := Option.bind_eq_some_iff.1 h
    refine ⟨entry, List.mem_of_find?_eq_some hfind, tables, hfind, of_decide_eq_true hseq, ?_,
      hproject, (Option.some.inj h).symm⟩
    intro other hother hstream
    by_contra hlt
    exact hfirst (List.any_eq_true.2 ⟨other, hother, decide_eq_true ⟨hstream, Int.not_le.1 hlt⟩⟩)

/-- A folded post has its topic in the tables. -/
theorem Kept.topics (h : Kept s) :
    ∀ post ∈ s.folded, post.isPost = true → post.streamId ∈ s.tables.discussionTopic := by
  intro post hpost hkind
  obtain ⟨created, hcreated, hstream, hpayload, hbefore⟩ :=
    h.ordered.opened post (mem_log.2 (.inl hpost)) hkind
  rcases mem_visible.1 hcreated with hfolded | ⟨entry, hentry, -, rfl⟩
  · rw [← hstream]
    exact h.tracks.topics created hfolded hpayload
  · have hafter := h.ordered.after post hpost entry hentry hstream.symm
    omega

theorem Kept.fold (h : Kept s) {activePrincipal : Uuid → Option Uuid}
    (hfold : s.fold seq activePrincipal = some s') : Kept s' := by
  obtain ⟨entry, hentry, tables, -, rfl, hfirst, hproject, rfl⟩ := fold_eq_some hfold
  have hlog : entry.event ∈ s.log := mem_log.2 (.inr ⟨entry, hentry, rfl⟩)
  have hlater : ∀ old ∈ s.folded, old.streamId = entry.event.streamId → old.seq < entry.event.seq :=
    fun old hold => h.ordered.after old hold entry hentry
  have hfolded : s.folded ++ [entry.event] ⊆ s.log := List.append_subset.2
    ⟨List.Subset.trans folded_subset_visible visible_subset_log, List.cons_subset.2 ⟨hlog, List.nil_subset _⟩⟩
  have hinOrder : InOrder (s.folded ++ [entry.event]) := by
    refine List.pairwise_append.2 ⟨h.ordered.inOrder, List.pairwise_singleton _ _, ?_⟩
    intro old hold new hnew hstream
    rw [List.mem_singleton.1 hnew] at hstream ⊢
    exact hlater old hold hstream
  have hmember : OneMember (s.folded ++ [entry.event]) := fun a ha b hb =>
    h.ordered.oneMember a (hfolded ha) b (hfolded hb)
  have hfresh : isGame entry.event.payload = true →
      ∀ old ∈ s.folded, old.streamId ≠ entry.event.streamId := by
    intro hkind old hold hstream
    have hle := h.ordered.first entry.event hlog hkind old (mem_log.2 (.inl hold)) hstream
    have hlt := hlater old hold hstream
    omega
  have htracks := h.tracks.project hlater hmember hfresh hproject
  -- what was visible still is, the folded event now among the folded ones
  have hgrows : s.visible ⊆ State.visible { s with
      folded := s.folded ++ [entry.event]
      pending := s.pending.filter fun other => other.event.seq ≠ entry.event.seq
      tables := tables } := by
    intro event hevent
    rcases mem_visible.1 hevent with hold | ⟨other, hother, hcommitted, rfl⟩
    · exact mem_visible.2 (.inl (List.mem_append_left _ hold))
    · by_cases hseq : other.event.seq = entry.event.seq
      · have hsame := h.ordered.positions other.event (mem_log.2 (.inr ⟨other, hother, rfl⟩))
          entry.event hlog hseq
        exact mem_visible.2 (.inl (List.mem_append_right _ (List.mem_singleton.2 hsame)))
      · exact mem_visible.2 (.inr ⟨other, List.mem_filter.2 ⟨hother, decide_eq_true hseq⟩, hcommitted, rfl⟩)
  have hshrinks : State.log { s with
      folded := s.folded ++ [entry.event]
      pending := s.pending.filter fun other => other.event.seq ≠ entry.event.seq
      tables := tables } ⊆ s.log := by
    intro event hevent
    rcases mem_log.1 hevent with hnew | ⟨other, hother, rfl⟩
    · exact hfolded hnew
    · exact mem_log.2 (.inr ⟨other, (List.mem_filter.1 hother).1, rfl⟩)
  refine ⟨h.ordered.shrink rfl hshrinks hgrows hinOrder ?_, htracks, ?_, distinct_project h.distinct hproject⟩
  · intro event hevent other hother hstream
    obtain ⟨hmem, hne⟩ := List.mem_filter.1 hother
    have hne : other.event.seq ≠ entry.event.seq := of_decide_eq_true hne
    rcases List.mem_append.1 hevent with hold | hnew
    · exact h.ordered.after event hold other hmem hstream
    · rw [List.mem_singleton.1 hnew] at hstream ⊢
      have hle := hfirst other hmem hstream.symm
      omega
  · refine h.delivers.project
      { before := h.tracks, after := htracks, inOrder := hinOrder, oneMember := hmember
        positions := fun a ha b hb => h.ordered.positions a (hshrinks (visible_subset_log ha)) b
          (hshrinks (visible_subset_log hb))
        grows := hgrows
        shows := mem_visible.2 (.inl (List.mem_append_right _ List.mem_cons_self))
        seen := folded_subset_visible, topics := h.topics } hproject

/-! ## Commands -/

variable {expected : Option Int} {payloads : List Payload} {action : State.Action}

theorem append_eq_ok {payload : Payload} (h : s.append stream expected actor occurredAt [payload] = .ok s') :
    (∀ position, expected = some position → s.currentStreamSeq stream = position) ∧
      s' = State.insertEvent stream actor occurredAt s payload := by
  obtain ⟨_, -, h⟩ := bind_eq_ok.1 h
  obtain ⟨_, hexpected, h⟩ := bind_eq_ok.1 h
  refine ⟨?_, (Except.ok.inj h).symm⟩
  rintro position rfl
  have hsame := refuseIf_eq_ok.1 hexpected
  simp only [Option.any_some, ne_eq, decide_not, Bool.not_eq_true', decide_eq_false_iff_not, not_not] at hsame
  exact hsame.symm

theorem decideOr_eq_ok {state : Option WatchState} {command : WatchCommand}
    (h : State.decideOr state command = .ok payloads) :
    decideWatch state command = .ok payloads := by
  unfold State.decideOr at h
  cases hdecide : decideWatch state command with
  | error reject =>
    rw [hdecide] at h
    exact absurd h (by simp [Except.mapError])
  | ok events =>
    rw [hdecide] at h
    exact congrArg Except.ok (Except.ok.inj h)

theorem decide_subscribe {state : Option WatchState} {target : Uuid} {initial : Int}
    (h : decideWatch state (.subscribe target initial) = .ok payloads) :
    ∃ readThroughSeq, payloads = [.publicWatchEnabled target readThroughSeq] := by
  cases state with
  | none => exact ⟨initial, (Except.ok.inj h).symm⟩
  | some state =>
    simp only [decideWatch] at h
    split at h
    · cases h
    · split at h
      · cases h
      · exact ⟨_, (Except.ok.inj h).symm⟩

theorem decide_unsubscribe {state : WatchState} (h : decideWatch (some state) .unsubscribe = .ok payloads) :
    payloads = [.publicWatchDisabled] := by
  simp only [decideWatch] at h
  split at h
  · exact (Except.ok.inj h).symm
  · cases h

theorem decide_advanceRead {state : WatchState} {readThroughSeq : Int}
    (h : decideWatch (some state) (.advanceRead readThroughSeq) = .ok payloads) :
    payloads = [.publicWatchReadAdvanced readThroughSeq] := by
  simp only [decideWatch] at h
  split at h
  · split at h
    · cases h
    · exact (Except.ok.inj h).symm
  · cases h

theorem Admits.of_plain (h : ∀ authorProfile mentions,
      payload ≠ .discussionPostSubmitted authorProfile mentions) (hgame : isGame payload = false)
    (henabled : ∀ target readThroughSeq, payload ≠ .publicWatchEnabled target readThroughSeq) :
    Admits s stream actor payload where
  topic := fun ⟨authorProfile, mentions, hpayload⟩ => absurd hpayload (h authorProfile mentions)
  game hkind := absurd (hgame.symm.trans hkind) (by decide)
  member target readThroughSeq hpayload := absurd hpayload (henabled target readThroughSeq)

theorem Admits.of_post {authorProfile : Option Uuid} {mentions : List Uuid}
    (htopic : ∃ created ∈ s.visible, created.streamId = stream ∧ created.payload = .discussionTopicCreated) :
    Admits s stream actor (.discussionPostSubmitted authorProfile mentions) where
  topic _ := htopic
  game hkind := absurd hkind (by simp [isGame])
  member target readThroughSeq hpayload := absurd hpayload (by simp)

theorem Admits.of_game {host : Uuid} {origin : Option Uuid}
    (hfresh : ∀ event ∈ s.log, event.streamId ≠ stream) :
    Admits s stream actor (.gameCreated host origin) where
  topic hpayload := absurd hpayload (by simp)
  game _ := hfresh
  member target readThroughSeq hpayload := absurd hpayload (by simp)

/-- A member watches by the subscription there is, or by a new one. -/
theorem Kept.admits_subscribe (h : Kept s) {target principal drawn : Uuid} {readThroughSeq : Int}
    (hhead : s.currentStreamSeq (((s.subscriptionDomainState principal target).map (·.watchId)).getD
      drawn) = ((s.subscriptionDomainState principal target).map (·.version)).getD 0) :
    Admits s (((s.subscriptionDomainState principal target).map (·.watchId)).getD drawn)
      (some principal) (.publicWatchEnabled target readThroughSeq) where
  topic hpayload := absurd hpayload (by simp)
  game hkind := absurd hkind (by simp [isGame])
  member := by
    rintro _ _ ⟨⟩
    refine ⟨principal, rfl, fun event hevent hstream hkind => ?_⟩
    unfold State.subscriptionDomainState at hhead hstream
    cases hfind : s.tables.publicWatch.find? fun watch =>
        watch.principalId = principal ∧ watch.surfaceId = target with
    | none =>
      rw [hfind] at hhead hstream
      exact absurd hstream (h.ordered.fresh hhead event hevent)
    | some watch =>
      rw [hfind] at hstream
      have hkeys := List.find?_some hfind
      obtain ⟨rfl, rfl⟩ := of_decide_eq_true hkeys
      obtain ⟨opening, hopening, hid, hopens⟩ :=
        h.tracks.watches.opened watch (List.mem_of_find?_eq_some hfind)
      exact h.ordered.oneMember opening (mem_log.2 (.inl hopening)) event hevent
        (hid.trans hstream.symm) _ _ hopens hkind

theorem has_iff {isIt : Payload → Bool} : s.has stream isIt = true ↔
      ∃ event ∈ s.visible, event.streamId = stream ∧ isIt event.payload = true := by
  unfold State.has
  rw [List.any_eq_true]
  exact exists_congr fun event => and_congr_right fun _ => decide_eq_true_iff

theorem isTopic_iff : isTopic payload = true ↔ payload = .discussionTopicCreated := by
  cases payload <;> simp [isTopic]

theorem Kept.append (h : Kept s)
    (happend : (s.append stream expected actor occurredAt [payload]).toOption = some s')
    (hadmits : (∀ position, expected = some position → s.currentStreamSeq stream = position) → Admits s stream actor payload) : Kept s' := by
  obtain ⟨hexpected, rfl⟩ := append_eq_ok (toOption_eq_some.1 happend)
  exact h.insertEvent (hadmits hexpected)

/-- **Every step keeps the events, the tables and the inbox together.** -/
theorem Kept.step (h : Kept s) (hstep : s.step action = some s') : Kept s' := by
  cases action with
  | createTopic topic actor occurredAt | appendOther stream actor occurredAt =>
    exact h.append hstep fun _ => .of_plain (by simp) rfl (by simp)
  | submitPost topic actor occurredAt authorProfile mentions =>
    simp only [State.step] at hstep
    split at hstep
    case isTrue htopic =>
      obtain ⟨created, hmem, hstream, hkind⟩ := has_iff.1 htopic
      exact h.append hstep fun _ => .of_post ⟨created, hmem, hstream, isTopic_iff.1 hkind⟩
    case isFalse => cases hstep
  | editPost topic actor occurredAt sourceSeq mentions | startGame game actor occurredAt =>
    simp only [State.step] at hstep
    split at hstep
    · exact h.append hstep fun _ => .of_plain (by simp) rfl (by simp)
    · cases hstep
  | subscribe target principal occurredAt drawn latestDeliverySeq =>
    have hok := toOption_eq_some.1 hstep
    simp only [State.subscribeToPublicTarget] at hok
    split at hok
    case h_1 latest _ =>
      obtain ⟨payloads, hdecide, happend⟩ := bind_eq_ok.1 hok
      obtain ⟨readThroughSeq, rfl⟩ := decide_subscribe (decideOr_eq_ok hdecide)
      exact h.append (toOption_eq_some.2 happend) fun hexpected =>
        h.admits_subscribe (hexpected _ rfl)
    case h_2 => cases hok
  | unsubscribe target principal occurredAt =>
    have hok := toOption_eq_some.1 hstep
    simp only [State.unsubscribeFromPublicTarget] at hok
    split at hok
    · obtain ⟨payloads, hdecide, happend⟩ := bind_eq_ok.1 hok
      rw [decide_unsubscribe (decideOr_eq_ok hdecide)] at happend
      exact h.append (toOption_eq_some.2 happend) fun _ => .of_plain (by simp) rfl (by simp)
    · cases hok
  | advanceRead target principal readThroughSeq occurredAt latestDeliverySeq =>
    have hok := toOption_eq_some.1 hstep
    simp only [State.advanceSubscriptionReadCursor] at hok
    split at hok
    · obtain ⟨_, -, hok⟩ := bind_eq_ok.1 hok
      split at hok
      · obtain ⟨payloads, hdecide, happend⟩ := bind_eq_ok.1 hok
        rw [decide_advanceRead (decideOr_eq_ok hdecide)] at happend
        exact h.append (toOption_eq_some.2 happend) fun _ => .of_plain (by simp) rfl (by simp)
      · cases hok
    · cases hok
  | createGame game actor occurredAt host origin =>
    exact h.append hstep fun hexpected => .of_game (h.ordered.fresh (hexpected 0 rfl))
  | commit seq => exact h.commit hstep
  | rollback seq => exact h.rollback hstep
  | fold seq activePrincipal => exact h.fold hstep

/-- Nothing has happened. -/
theorem Kept.start : Kept {} where
  ordered :=
    { bounded := by simp [State.log], numbered := by simp [State.log]
      positions := by simp [OnePosition, State.log], inOrder := List.Pairwise.nil
      after := by simp, oneMember := by simp [OneMember, State.log], opened := by simp [State.log]
      first := by simp [State.log] }
  tracks := ⟨⟨by simp, by simp, List.Pairwise.nil, rfl⟩, by simp, ⟨List.Pairwise.nil, rfl⟩⟩
  delivers := ⟨by simp, by simp, fun item _ => iff_of_false (by simp) (by simp [originItems])⟩
  distinct := List.Pairwise.nil

theorem Kept.run {actions : List State.Action} (h : State.run {} actions = some s) : Kept s :=
  Steps.foldlM_inv Kept (fun _ _ _ hstep hkept => hkept.step hstep) h Kept.start

/-! ## The inbox and the log -/

theorem firstStart_iff {folded : List StoredEvent} {game : Uuid} {started : Int × Int}
    (horder : InOrder folded) (hpositions : OnePosition folded) :
    startOf folded game = some started ↔
      ∃ start, FirstStart folded game start ∧ started = (start.seq, start.occurredAt) := by
  have hstream : ∀ event : StoredEvent, decide (event.streamId = game ∧ event.payload = .gameStarted) = true →
        event.streamId = game :=
    fun _ hit => (of_decide_eq_true hit).1
  unfold startOf
  rw [Option.map_eq_some_iff]
  constructor
  · rintro ⟨start, hfind, rfl⟩
    have hit := List.find?_some hfind
    obtain ⟨hgame, hpayload⟩ := of_decide_eq_true hit
    refine ⟨start, ⟨List.mem_of_find?_eq_some hfind, hgame, hpayload, ?_⟩, rfl⟩
    intro other hother hsame hstarts
    exact horder.le_of_find? hstream hfind other hother (decide_eq_true ⟨hsame, hstarts⟩)
  · rintro ⟨start, ⟨hmem, hgame, hpayload, hleast⟩, rfl⟩
    cases hfind : folded.find? fun event =>
        event.streamId = game ∧ event.payload = .gameStarted with
    | none =>
      have hnot := List.find?_eq_none.1 hfind start hmem
      exact absurd (decide_eq_true ⟨hgame, hpayload⟩) hnot
    | some first =>
      have hit := List.find?_some hfind
      obtain ⟨hfirstGame, hfirstPayload⟩ := of_decide_eq_true hit
      have hfirst := List.mem_of_find?_eq_some hfind
      have hle := hleast first hfirst hfirstGame hfirstPayload
      have hge := horder.le_of_find? hstream hfind start hmem (decide_eq_true ⟨hgame, hpayload⟩)
      obtain rfl := hpositions start hmem first hfirst (Int.le_antisymm hle hge)
      exact ⟨start, rfl, rfl⟩

theorem Kept.watched_iff (h : Kept s) {principal surface : Uuid} :
    Watched s.tables none principal surface seq ↔ Inside s.folded principal surface seq := by
  have hfolded := List.Subset.trans folded_subset_visible (@visible_subset_log s)
  exact h.tracks.watched_iff h.ordered.inOrder fun a ha b hb =>
    h.ordered.oneMember a (hfolded ha) b (hfolded hb)

/-- The watch items are those that the folded events tell of, once nothing else is visible. -/
theorem Kept.told_iff (h : Kept s) (hvisible : s.visible ⊆ s.folded) {item : InboxItem}
    (hreason : item.reason = .watch) :
    item ∈ s.tables.memberInboxItem ↔ Told s.folded item := by
  constructor
  · intro hitem
    obtain ⟨post, hmem, ⟨hkind, hwatched, hauthor⟩, heq⟩ := h.delivers.sound item hitem hreason
    exact ⟨post, hvisible hmem, hkind, h.watched_iff.1 hwatched, hauthor, heq⟩
  · rintro ⟨post, hmem, hkind, hinside, hauthor, heq⟩
    rw [heq]
    exact h.delivers.complete post hmem item.principalId ⟨hkind, h.watched_iff.2 hinside, hauthor⟩

/-- The announcements are those that the folded events make. -/
theorem Kept.announced_iff (h : Kept s) {item : InboxItem}
    (hreason : item.reason = .gameSpawnedFromWatchedTopic) :
    item ∈ s.tables.memberInboxItem ↔ Announced s.folded item := by
  have hfolded := List.Subset.trans folded_subset_visible (@visible_subset_log s)
  have hpositions : OnePosition s.folded := fun a ha b hb =>
    h.ordered.positions a (hfolded ha) b (hfolded hb)
  rw [h.delivers.announced item hreason, mem_originItems, h.tracks.games.games]
  constructor
  · rintro ⟨origin, horigin, htopic, hitem⟩
    obtain ⟨created, hmem, hrow⟩ := List.mem_filterMap.1 horigin
    obtain ⟨host, topic, hpayload, rfl⟩ := originOf_eq_some.1 hrow
    obtain ⟨started, hstarted, hwatched, hhost, heq⟩ := mem_items.1 hitem
    obtain ⟨start, hfirst, rfl⟩ := (firstStart_iff h.ordered.inOrder hpositions).1 hstarted
    subst htopic
    refine ⟨created, hmem, host, hpayload, start, hfirst, h.watched_iff.1 hwatched, hhost, ?_⟩
    rw [heq]
    exact ⟨rfl, rfl, rfl⟩
  · rintro ⟨created, hmem, host, hpayload, start, hfirst, hinside, hhost, hsource, hdelivery, hat⟩
    have hstarted := (firstStart_iff h.ordered.inOrder hpositions).2 ⟨start, hfirst, rfl⟩
    have horigin := (@originOf_eq_some s.folded created _).2 ⟨host, _, hpayload, rfl⟩
    refine ⟨_, List.mem_filterMap.2 ⟨created, hmem, horigin⟩, rfl,
      mem_items.2 ⟨_, hstarted, h.watched_iff.2 hinside, hhost, ?_⟩⟩
    cases item
    simp_all [originItem]

theorem append_tables (h : (s.append stream expected actor occurredAt payloads).toOption = some s') :
    s'.tables = s.tables := by
  obtain ⟨_, -, h⟩ := bind_eq_ok.1 (toOption_eq_some.1 h)
  obtain ⟨_, -, h⟩ := bind_eq_ok.1 h
  rw [← Except.ok.inj h]
  have hkeep : ∀ state, ∀ payload ∈ payloads, State.tables state = s.tables →
      (State.insertEvent stream actor occurredAt state payload).tables = s.tables :=
    fun _ _ _ hsame => hsame
  exact Steps.foldl_inv (fun state => State.tables state = s.tables) hkeep rfl

/-- Only a fold writes the tables. -/
theorem tables_step (h : s.step action = some s') :
    s'.tables = s.tables ∨ ∃ seq activePrincipal, action = .fold seq activePrincipal := by
  cases action with
  | createTopic | createGame | appendOther => exact .inl (append_tables h)
  | submitPost | editPost | startGame =>
    simp only [State.step] at h
    split at h
    · exact .inl (append_tables h)
    · cases h
  | subscribe =>
    have hok := toOption_eq_some.1 h
    simp only [State.subscribeToPublicTarget] at hok
    split at hok
    · obtain ⟨payloads, -, happend⟩ := bind_eq_ok.1 hok
      exact .inl (append_tables (toOption_eq_some.2 happend))
    · cases hok
  | unsubscribe =>
    have hok := toOption_eq_some.1 h
    simp only [State.unsubscribeFromPublicTarget] at hok
    split at hok
    · obtain ⟨payloads, -, happend⟩ := bind_eq_ok.1 hok
      exact .inl (append_tables (toOption_eq_some.2 happend))
    · cases hok
  | advanceRead =>
    have hok := toOption_eq_some.1 h
    simp only [State.advanceSubscriptionReadCursor] at hok
    split at hok
    · obtain ⟨_, -, hok⟩ := bind_eq_ok.1 hok
      split at hok
      · obtain ⟨payloads, -, happend⟩ := bind_eq_ok.1 hok
        exact .inl (append_tables (toOption_eq_some.2 happend))
      · cases hok
    · cases hok
  | commit | rollback => exact .inl (Option.some.inj h ▸ rfl)
  | fold seq activePrincipal => exact .inr ⟨seq, activePrincipal, rfl⟩

/-- A step adds the mentions of what it folds. -/
theorem mentionItems_step (h : s.step action = some s') : mentionItems s'.tables =
      insertMissing itemClash (mentionItems s.tables) (s.addressed action) := by
  by_cases hfold : ∃ seq activePrincipal, action = .fold seq activePrincipal
  · obtain ⟨seq, activePrincipal, rfl⟩ := hfold
    obtain ⟨entry, -, tables, hfind, -, -, hproject, rfl⟩ := fold_eq_some h
    simp only [State.addressed, hfind]
    exact mentionItems_project hproject
  · have hnone : s.addressed action = [] := by
      unfold State.addressed
      split
      · exact absurd ⟨_, _, rfl⟩ hfold
      · rfl
    rw [hnone, (tables_step h).resolve_right hfold]
    rfl

/-- **Once every event is folded, the inbox holds exactly what the log tells**: of the watch items
those of posts by others strictly inside one of the member's periods, of the announcements those of
first starts there. No two items have one key. At every step the mentions are those there were and
those of the event that it folds, whoever watches. -/
theorem inbox_exact {actions : List State.Action} (hrun : State.run {} actions = some s) :
    Distinct itemClash s.tables.memberInboxItem ∧
      (∀ action s', s.step action = some s' → mentionItems s.tables <+: mentionItems s'.tables ∧
        mentionItems s'.tables = insertMissing itemClash (mentionItems s.tables) (s.addressed action)) ∧
      (s.pending = [] → ∀ item, (item.reason = .watch → (item ∈ s.tables.memberInboxItem ↔ Told s.log item)) ∧
        (item.reason = .gameSpawnedFromWatchedTopic →
          (item ∈ s.tables.memberInboxItem ↔ Announced s.log item))) := by
  have h := Kept.run hrun
  refine ⟨h.distinct, fun action s' hstep => ?_, fun hpending item => ?_⟩
  · have hmentions := mentionItems_step hstep
    refine ⟨?_, hmentions⟩
    rw [hmentions]
    exact prefix_insertMissing itemClash _ _
  · have hlog : s.log = s.folded := by
      unfold State.log
      rw [hpending]
      exact List.append_nil _
    rw [hlog]
    refine ⟨fun hreason => h.told_iff (fun event hevent => ?_) hreason,
      fun hreason => h.announced_iff hreason⟩
    rw [← hlog]
    exact visible_subset_log hevent

end Runs

/-! ## A late fold -/

/-- A member watches a topic and stops. What comes after, a post and a start, is folded before the
stop is. -/
def crossing : List State.Action :=
  [.createTopic 1 (some 7) 1, .fold 1 (fun _ => none),
    .createGame 2 (some 7) 2 7 (some 1), .fold 2 (fun _ => none),
    .subscribe 1 8 3 100 (some 0), .fold 3 (fun _ => none),
    .submitPost 1 (some 7) 4 none [],
    .unsubscribe 1 8 5,
    .fold 4 (fun _ => none),
    .submitPost 1 (some 7) 6 none [50],
    .startGame 2 (some 7) 7,
    .fold 6 (fun _ => some 8), .fold 7 (fun _ => none)]

/-- The items there were before the stop was folded, and those that it left. -/
theorem crossing_exact : ∃ s s',
    State.run {} crossing = some s ∧ State.run {} (crossing ++ [.fold 5 fun _ => none]) = some s' ∧
      s.tables.memberInboxItem.map (fun item => (item.sourceSeq, item.reason)) =
        [(4, .watch), (6, .watch), (6, .mention), (2, .gameSpawnedFromWatchedTopic)] ∧
      s'.tables.memberInboxItem.map (fun item => (item.sourceSeq, item.reason)) =
        [(6, .mention), (4, .watch)] ∧
      ∀ item ∈ s'.tables.memberInboxItem, item.reason = .watch → Told s'.log item := by
  refine ⟨_, _, rfl, rfl, rfl, rfl, fun item hitem hreason => ?_⟩
  have hexact := @inbox_exact _ (crossing ++ [.fold 5 fun _ => none]) rfl
  exact ((hexact.2.2 rfl item).1 hreason).1 hitem

end Fmarch.Projections.Watches
