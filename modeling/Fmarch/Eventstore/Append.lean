import Fmarch.Lib.Locking
import Fmarch.Platform.Values
import Mathlib.Data.List.Infix
import Mathlib.Logic.Relation

/-!
# Concurrent appends (`eventstore::append_in_tx_checked`)

Any number of transactions append to any streams at once. A call takes the stream's advisory lock,
reads the stream's head, compares it with the expected one, finds or creates the stream's data key
and inserts its events one by one; each of these is a step of its own, between which the other
transactions go on, and at each of them the call can fail. The lock is kept until the transaction
commits or rolls back, which it can do at any time.

**`appends_stored`**: in every state reached, the events of each stream are numbered from one without
gap or double, a committed call's events are one block of its stream starting past the expected head,
and a call that brings events but expects another head than the stream's only fails. An append of no
events returns before it looks (`emptyAppend_unchecked`).
-/

namespace Fmarch.Eventstore

open Function (update update_self update_of_ne)

open Platform Locking

variable {Event : Type}

/-! ## Rows -/

/-- `StoredEvent`, with the epoch of the data key its body is sealed under. -/
structure StoredEvent (Event : Type) where
  seq : Int
  streamId : Uuid
  streamSeq : Int
  keyEpoch : Int
  input : Event

/-- What an append writes: rows of `events`, and of `event_stream_keys` with the active epoch of
`event_stream_key_state`. -/
inductive Row (Event : Type) where
  | event (stored : StoredEvent Event)
  | dataKey (streamId : Uuid) (epoch : Int)

/-- The stream of a row. -/
def Row.streamId : Row Event → Uuid
  | .event stored => stored.streamId
  | .dataKey streamId _ => streamId

/-- The events of a stream, in the order they were inserted. -/
def eventsOf (streamId : Uuid) (rows : List (Row Event)) : List (StoredEvent Event) :=
  rows.filterMap fun
    | .event stored => if stored.streamId = streamId then some stored else none
    | .dataKey _ _ => none

/-- `current_stream_seq`: `COALESCE(MAX(stream_seq), 0)`. -/
def currentStreamSeq (streamId : Uuid) (rows : List (Row Event)) : Int :=
  (((eventsOf streamId rows).map (·.streamSeq)).max?).getD 0

/-- The active epoch of the stream's data key. -/
def activeEpoch? (streamId : Uuid) (rows : List (Row Event)) : Option Int :=
  rows.findSome? fun
    | .dataKey other epoch => if other = streamId then some epoch else none
    | .event _ => none

/-! ## Calls -/

/-- The arguments of `append_in_tx_checked`. -/
structure AppendRequest (Event : Type) where
  streamId : Uuid
  expected : Option Int := none
  events : List Event

inductive StoreError where
  | conflict (streamId : Uuid) (streamSeq : Int)
  | crypto
  | db

/-- Where a transaction is in an append. -/
inductive Phase (Event : Type) where
  /-- Between calls. -/
  | idle
  /-- Waiting for the stream's lock. -/
  | locking (request : AppendRequest Event)
  /-- About to read the head. -/
  | locked (request : AppendRequest Event)
  /-- Past the check, at this head. -/
  | checked (request : AppendRequest Event) (base : Int)
  /-- Inserting, with these rows behind it. -/
  | inserting (request : AppendRequest Event) (base epoch : Int) (out : List (StoredEvent Event))
  /-- The database refused a statement; only a rollback is left. -/
  | aborted

/-- A call that returned its rows. -/
structure Stored (Event : Type) where
  request : AppendRequest Event
  out : List (StoredEvent Event)

/-- The database and the transactions on it. `nextSeq` is the sequence of `events.seq`, which no
rollback takes back; `unsettled` and `settled` keep the calls that returned their rows, in transactions
still open and in committed ones, and `returned` keeps every result in order. -/
structure Store (Event : Type) where
  table : Table Int (Row Event) := {}
  phase : Nat → Phase Event := fun _ => .idle
  nextSeq : Int := 1
  unsettled : Nat → List (Stored Event) := fun _ => []
  settled : List (Stored Event) := []
  returned : List (AppendRequest Event × Except StoreError (List (StoredEvent Event))) := []

namespace Store

/-- The transaction goes on to another phase. -/
def goto (store : Store Event) (tx : Nat) (phase : Phase Event) : Store Event :=
  { store with phase := update store.phase tx phase }

/-- The call returns an error. -/
def fail (store : Store Event) (tx : Nat) (request : AppendRequest Event) (error : StoreError)
    (phase : Phase Event) : Store Event :=
  { store.goto tx phase with returned := store.returned ++ [(request, .error error)] }

/-- The call returns its rows. -/
def succeed (store : Store Event) (tx : Nat) (request : AppendRequest Event)
    (out : List (StoredEvent Event)) : Store Event :=
  { store.goto tx .idle with
    unsettled := update store.unsettled tx (store.unsettled tx ++ [⟨request, out⟩])
    returned := store.returned ++ [(request, .ok out)] }

/-- The head of a stream, as the transaction sees it. -/
def head (store : Store Event) (tx : Nat) (streamId : Uuid) : Int :=
  currentStreamSeq streamId (store.table.visible tx)

/-- The entry of `append_in_tx_checked`. -/
def call (store : Store Event) (tx : Nat) (request : AppendRequest Event) : Store Event :=
  if request.events.isEmpty then store.succeed tx request []
  else store.goto tx (.locking request)

/-- The read of the head and its comparison with the expected one. -/
def checkHead (store : Store Event) (tx : Nat) (request : AppendRequest Event) : Store Event :=
  let base := store.head tx request.streamId
  if request.expected.any (· != base) then
    store.fail tx request (.conflict request.streamId (base + 1)) .idle
  else store.goto tx (.checked request base)

/-- `active_stream_data_key_in_tx`, where it succeeds. -/
def readyKey (store : Store Event) (tx : Nat) (request : AppendRequest Event) (base : Int) : Store Event :=
  match activeEpoch? request.streamId (store.table.visible tx) with
  | some epoch => store.goto tx (.inserting request base epoch [])
  | none =>
    { store.goto tx (.inserting request base 1 []) with
      table := store.table.write tx (.dataKey request.streamId 1) }

/-- The row of the next event. -/
def nextRow (store : Store Event) (request : AppendRequest Event) (base epoch : Int)
    (out : List (StoredEvent Event)) (event : Event) : StoredEvent Event where
  seq := store.nextSeq
  streamId := request.streamId
  streamSeq := base + 1 + out.length
  keyEpoch := epoch
  input := event

/-- The `INSERT` of a row. -/
def insert (store : Store Event) (tx : Nat) (request : AppendRequest Event) (base epoch : Int)
    (out : List (StoredEvent Event)) (row : StoredEvent Event) : Store Event :=
  { store.goto tx (.inserting request base epoch (out ++ [row])) with
    table := store.table.write tx (.event row)
    nextSeq := store.nextSeq + 1 }

def commit (store : Store Event) (tx : Nat) : Store Event :=
  { store with
    table := store.table.commit tx
    unsettled := update store.unsettled tx []
    settled := store.settled ++ store.unsettled tx }

/-- `ROLLBACK`, also of a call that was cancelled. -/
def rollback (store : Store Event) (tx : Nat) : Store Event :=
  { store.goto tx .idle with
    table := store.table.rollback tx
    unsettled := update store.unsettled tx [] }

end Store

/-- The unique key of `events` is taken by one of these rows. -/
def TakenIn (rows : List (Row Event)) (row : StoredEvent Event) : Prop :=
  ∃ other ∈ eventsOf row.streamId rows, other.streamSeq = row.streamSeq

/-- One step of one transaction. `lockKey` is `hashtextextended` of the stream. -/
inductive Step (lockKey : Uuid → Int) (store : Store Event) (tx : Nat) : Store Event → Prop where
  | call (request : AppendRequest Event) (idle : store.phase tx = .idle) :
      Step lockKey store tx (store.call tx request)
  | lock {request : AppendRequest Event} (waiting : store.phase tx = .locking request)
      (free : store.table.Free tx (lockKey request.streamId)) :
      Step lockKey store tx { store.goto tx (.locked request) with
        table := store.table.acquire tx (lockKey request.streamId) }
  | check {request : AppendRequest Event} (ready : store.phase tx = .locked request) :
      Step lockKey store tx (store.checkHead tx request)
  | key {request : AppendRequest Event} {base : Int} (ready : store.phase tx = .checked request base) :
      Step lockKey store tx (store.readyKey tx request base)
  /-- The key cannot be unwrapped, or its wrapping key is not writable. -/
  | keyFails {request : AppendRequest Event} {base : Int}
      (ready : store.phase tx = .checked request base) :
      Step lockKey store tx (store.fail tx request .crypto .idle)
  | insert {request : AppendRequest Event} {base epoch : Int} {out : List (StoredEvent Event)}
      {event : Event} (ready : store.phase tx = .inserting request base epoch out)
      (next : request.events[out.length]? = some event)
      (unique : ∀ other, ¬ TakenIn (store.table.visible other) (store.nextRow request base epoch out event)) :
      Step lockKey store tx (store.insert tx request base epoch out
        (store.nextRow request base epoch out event))
  /-- The event's body cannot be sealed; the transaction is left as it is. -/
  | sealFails {request : AppendRequest Event} {base epoch : Int} {out : List (StoredEvent Event)}
      (ready : store.phase tx = .inserting request base epoch out) :
      Step lockKey store tx (store.fail tx request .crypto .idle)
  | duplicate {request : AppendRequest Event} {base epoch : Int} {out : List (StoredEvent Event)}
      {event : Event} (ready : store.phase tx = .inserting request base epoch out)
      (next : request.events[out.length]? = some event)
      (taken : TakenIn (store.table.visible tx) (store.nextRow request base epoch out event)) :
      Step lockKey store tx (store.fail tx request
        (.conflict request.streamId (base + 1 + out.length)) .aborted)
  | done {request : AppendRequest Event} {base epoch : Int} {out : List (StoredEvent Event)}
      (ready : store.phase tx = .inserting request base epoch out)
      (all : out.length = request.events.length) :
      Step lockKey store tx (store.succeed tx request out)
  /-- The database refuses a statement of the call. -/
  | dbFails {request : AppendRequest Event}
      (busy : store.phase tx = .locking request ∨ store.phase tx = .locked request ∨
        (∃ base, store.phase tx = .checked request base) ∨
        ∃ base epoch out, store.phase tx = .inserting request base epoch out) :
      Step lockKey store tx (store.fail tx request .db .aborted)
  | commit (idle : store.phase tx = .idle) : Step lockKey store tx (store.commit tx)
  | rollback : Step lockKey store tx (store.rollback tx)

/-- The states of a store that starts empty. -/
def Reachable (lockKey : Uuid → Int) : Store Event → Prop :=
  Relation.ReflTransGen (fun store next => ∃ tx, Step lockKey store tx next) {}

/-! ## Streams in order -/

/-- The events are numbered from one, in order. -/
def Numbered (events : List (StoredEvent Event)) : Prop :=
  events.map (·.streamSeq) = (List.range events.length).map fun i : Nat => (i : Int) + 1

/-- The stream is numbered, its positions in the whole store increase, and the data key of each
event is stored. -/
structure StreamOk (streamId : Uuid) (rows : List (Row Event)) : Prop where
  numbered : Numbered (eventsOf streamId rows)
  increasing : ((eventsOf streamId rows).map (·.seq)).Pairwise (· < ·)
  keyed : ∀ stored ∈ eventsOf streamId rows, .dataKey streamId stored.keyEpoch ∈ rows

section Streams

variable {streamId : Uuid} {rows more : List (Row Event)}

@[simp] theorem eventsOf_append :
    eventsOf streamId (rows ++ more) = eventsOf streamId rows ++ eventsOf streamId more :=
  List.filterMap_append

@[simp] theorem eventsOf_dataKey (other : Uuid) (epoch : Int) :
    eventsOf streamId ([.dataKey other epoch] : List (Row Event)) = [] := rfl

theorem eventsOf_event (stored : StoredEvent Event) :
    eventsOf streamId [.event stored] = if stored.streamId = streamId then [stored] else [] := by
  by_cases h : stored.streamId = streamId <;> simp [eventsOf, h]

theorem event_mem_of_eventsOf {stored : StoredEvent Event} (h : stored ∈ eventsOf streamId rows) :
    .event stored ∈ rows := by
  obtain ⟨row, hrow, hfound⟩ := List.mem_filterMap.1 h
  cases row with
  | dataKey => cases hfound
  | event other =>
    dsimp only at hfound
    split_ifs at hfound
    exact Option.some.inj hfound ▸ hrow

theorem currentStreamSeq_of_numbered (h : Numbered (eventsOf streamId rows)) :
    currentStreamSeq streamId rows = (eventsOf streamId rows).length := by
  unfold currentStreamSeq
  rw [h]
  cases hlength : (eventsOf streamId rows).length with
  | zero => rfl
  | succ n =>
    rw [List.range_succ, List.map_append, List.map_singleton]
    have hmax : ((List.range n).map (fun i : Nat => (i : Int) + 1) ++ [(n : Int) + 1]).max? =
        some ((n : Int) + 1) := by
      rw [List.max?_eq_some_iff]
      refine ⟨by simp, fun m hm => ?_⟩
      rcases List.mem_append.1 hm with hbefore | hlast
      · obtain ⟨i, hi, rfl⟩ := List.mem_map.1 hbefore
        have hlt := List.mem_range.1 hi
        omega
      · exact Int.le_of_eq (List.mem_singleton.1 hlast)
    rw [hmax]
    simp

theorem Numbered.snoc {events : List (StoredEvent Event)} (h : Numbered events)
    {stored : StoredEvent Event} (hnext : stored.streamSeq = events.length + 1) :
    Numbered (events ++ [stored]) := by
  unfold Numbered at h ⊢
  rw [List.map_append, h, List.length_append, List.length_singleton, List.range_succ,
    List.map_append, List.map_singleton, List.map_singleton, hnext]

theorem head_eq_length {store : Store Event} {tx : Nat} (h : StreamOk streamId (store.table.visible tx)) :
    store.head tx streamId = (eventsOf streamId (store.table.visible tx)).length :=
  currentStreamSeq_of_numbered h.numbered

end Streams

/-! ## Streams under their locks -/

section Locked

variable {lockKey : Uuid → Int}

/-- The lock of a row's stream. -/
def rowLock (lockKey : Uuid → Int) (row : Row Event) : Int := lockKey row.streamId

/-- The streams of a lock are in order. -/
def LogOk (lockKey : Uuid → Int) (key : Int) (log : List (Row Event)) : Prop :=
  ∀ streamId, lockKey streamId = key → StreamOk streamId log

theorem eventsOf_logOf (streamId : Uuid) (rows : List (Row Event)) :
    eventsOf streamId (logOf (rowLock lockKey) (lockKey streamId) rows) = eventsOf streamId rows := by
  unfold eventsOf logOf
  rw [List.filterMap_filter]
  refine List.filterMap_congr fun row _ => ?_
  cases row with
  | dataKey => simp
  | event stored =>
    by_cases hstream : stored.streamId = streamId
    · simp [rowLock, Row.streamId, hstream]
    · simp [hstream]

variable {epoch base : Int} {rows : List (Row Event)} {streamId : Uuid}
   {table next : Table Int (Row Event)} {tx : Nat} {phase : Phase Event} {store : Store Event}
   {out : List (StoredEvent Event)} {request : AppendRequest Event}

theorem dataKey_mem_logOf : .dataKey streamId epoch ∈ logOf (rowLock lockKey) (lockKey streamId) rows ↔
      .dataKey streamId epoch ∈ rows := by
  simp [logOf, rowLock, Row.streamId]

theorem streamOk_logOf : StreamOk streamId (logOf (rowLock lockKey) (lockKey streamId) rows) ↔
      StreamOk streamId rows := by
  constructor
  · rintro ⟨hnumbered, hincreasing, hkeyed⟩
    rw [eventsOf_logOf] at hnumbered hincreasing hkeyed
    exact ⟨hnumbered, hincreasing, fun stored hstored => dataKey_mem_logOf.1 (hkeyed stored hstored)⟩
  · rintro ⟨hnumbered, hincreasing, hkeyed⟩
    refine ⟨?_, ?_, fun stored hstored => dataKey_mem_logOf.2 ?_⟩
    · rw [eventsOf_logOf]
      exact hnumbered
    · rw [eventsOf_logOf]
      exact hincreasing
    · rw [eventsOf_logOf] at hstored
      exact hkeyed stored hstored

/-- Every lock's streams are in order. -/
abbrev SoundTable (lockKey : Uuid → Int) (table : Table Int (Row Event)) : Prop :=
  Sound (rowLock lockKey) (LogOk lockKey) table

theorem SoundTable.committed_ok (h : SoundTable lockKey table) (streamId : Uuid) : StreamOk streamId table.rows :=
  streamOk_logOf.1 (h.committed (lockKey streamId) streamId rfl)

theorem SoundTable.held_ok (h : SoundTable lockKey table) (hheld : table.owner (lockKey streamId) = some tx) :
    StreamOk streamId (table.visible tx) :=
  streamOk_logOf.1 (h.held (lockKey streamId) tx hheld streamId rfl)

/-- A row may be written where it leaves its own stream in order. -/
theorem SoundTable.write_ok (h : SoundTable lockKey table) {row : Row Event}
    (hheld : table.owner (lockKey row.streamId) = some tx)
    (hnext : StreamOk row.streamId (table.visible tx ++ [row])) :
    SoundTable lockKey (table.write tx row) := by
  refine Sound.write h hheld fun streamId hkey => ?_
  have hview : logOf (rowLock lockKey) (rowLock lockKey row) (table.visible tx) ++ [row] =
      logOf (rowLock lockKey) (lockKey streamId) (table.visible tx ++ [row]) := by
    rw [logOf_append, hkey]
    exact congrArg _ (logOf_singleton_self row).symm
  rw [hview, streamOk_logOf]
  by_cases hstream : row.streamId = streamId
  · exact hstream ▸ hnext
  · have hother : StreamOk streamId (table.visible tx) := h.held_ok (hkey.trans rfl ▸ hheld)
    have hevents : eventsOf streamId (table.visible tx ++ [row]) = eventsOf streamId (table.visible tx) := by
      rw [eventsOf_append]
      cases row with
      | dataKey => simp
      | event stored =>
        rw [eventsOf_event, if_neg (show ¬ stored.streamId = streamId from hstream), List.append_nil]
    refine ⟨?_, ?_, fun stored hstored => List.mem_append_left _ (hother.keyed stored ?_)⟩
    · rw [hevents]
      exact hother.numbered
    · rw [hevents]
      exact hother.increasing
    · rw [hevents] at hstored
      exact hstored

/-! ## What a transaction knows -/

/-- The rows a call returned are its events, one block of the stream past the expected head. -/
def Placed (rows : List (Row Event)) (call : Stored Event) : Prop :=
  call.out.map (·.input) = call.request.events ∧ (call.request.events ≠ [] →
      ∃ before after, eventsOf call.request.streamId rows = before ++ call.out ++ after ∧
        ∀ expected, call.request.expected = some expected → expected = before.length)

/-- Where a transaction stands in its call. -/
def PhaseOk (lockKey : Uuid → Int) (table : Table Int (Row Event)) (tx : Nat) : Phase Event → Prop
  | .idle | .aborted => True
  | .locking request => request.events ≠ []
  | .locked request => request.events ≠ [] ∧ table.owner (lockKey request.streamId) = some tx
  | .checked request base =>
    request.events ≠ [] ∧ table.owner (lockKey request.streamId) = some tx ∧
      base = (eventsOf request.streamId (table.visible tx)).length ∧
      ∀ expected, request.expected = some expected → expected = base
  | .inserting request base epoch out =>
    request.events ≠ [] ∧ table.owner (lockKey request.streamId) = some tx ∧
      (.dataKey request.streamId epoch ∈ table.visible tx) ∧
      (∀ expected, request.expected = some expected → expected = base) ∧
      out.map (·.input) = request.events.take out.length ∧
      ∃ before, eventsOf request.streamId (table.visible tx) = before ++ out ∧ base = before.length

/-- A call of an open transaction is placed in what the transaction sees, under the stream's lock. -/
def UnsettledOk (lockKey : Uuid → Int) (table : Table Int (Row Event)) (tx : Nat)
    (call : Stored Event) : Prop :=
  Placed (table.visible tx) call ∧
    (call.request.events ≠ [] → table.owner (lockKey call.request.streamId) = some tx)

/-- The invariant of the store. -/
structure StoreOk (lockKey : Uuid → Int) (store : Store Event) : Prop where
  sound : SoundTable lockKey store.table
  fresh : ∀ stored, store.table.Known (.event stored) → stored.seq < store.nextSeq
  phase : ∀ tx, PhaseOk lockKey store.table tx (store.phase tx)
  unsettled : ∀ tx, ∀ call ∈ store.unsettled tx, UnsettledOk lockKey store.table tx call
  settled : ∀ call ∈ store.settled, Placed store.table.rows call

theorem Placed.append {more : List (Row Event)} {call : Stored Event} (h : Placed rows call) : Placed (rows ++ more) call := by
  refine ⟨h.1, fun hevents => ?_⟩
  obtain ⟨before, after, hblock, hexpected⟩ := h.2 hevents
  refine ⟨before, after ++ eventsOf call.request.streamId more, ?_, hexpected⟩
  rw [eventsOf_append, hblock, List.append_assoc]

/-- The stream reads the same in both. -/
def SameStream (streamId : Uuid) (rows rows' : List (Row Event)) : Prop :=
  eventsOf streamId rows' = eventsOf streamId rows ∧
    ∀ epoch, .dataKey streamId epoch ∈ rows → .dataKey streamId epoch ∈ rows'

theorem sameStream_of_logOf {rows' : List (Row Event)}
    (h : logOf (rowLock lockKey) (lockKey streamId) rows' = logOf (rowLock lockKey) (lockKey streamId) rows) : SameStream streamId rows rows' := by
  refine ⟨?_, fun epoch hkey => ?_⟩
  · rw [← @eventsOf_logOf _ lockKey, h, eventsOf_logOf]
  · rw [← @dataKey_mem_logOf _ lockKey, h, dataKey_mem_logOf]
    exact hkey

/-- What a transaction knows stays true while it keeps its locks and what it sees of them. -/
theorem PhaseOk.frame (h : PhaseOk lockKey table tx phase)
    (hframe : ∀ streamId, table.owner (lockKey streamId) = some tx → next.owner (lockKey streamId) = some tx ∧ SameStream streamId (table.visible tx) (next.visible tx)) :
    PhaseOk lockKey next tx phase := by
  cases phase with
  | idle => trivial
  | aborted => trivial
  | locking => exact h
  | locked request => exact ⟨h.1, (hframe _ h.2).1⟩
  | checked request base =>
    obtain ⟨hevents, hheld, hbase, hexpected⟩ := h
    obtain ⟨hkept, hsame, -⟩ := hframe _ hheld
    exact ⟨hevents, hkept, by rw [hsame]; exact hbase, hexpected⟩
  | inserting request base epoch out =>
    obtain ⟨hevents, hheld, hkey, hexpected, hout, before, hblock, hbase⟩ := h
    obtain ⟨hkept, hsame, hkeys⟩ := hframe _ hheld
    exact ⟨hevents, hkept, hkeys _ hkey, hexpected, hout, before, by rw [hsame]; exact hblock, hbase⟩

theorem UnsettledOk.frame {call : Stored Event} (h : UnsettledOk lockKey table tx call)
    (hframe : ∀ streamId, table.owner (lockKey streamId) = some tx → next.owner (lockKey streamId) = some tx ∧ SameStream streamId (table.visible tx) (next.visible tx)) :
    UnsettledOk lockKey next tx call := by
  obtain ⟨⟨hout, hplaced⟩, hheld⟩ := h
  refine ⟨⟨hout, fun hevents => ?_⟩, fun hevents => (hframe _ (hheld hevents)).1⟩
  obtain ⟨before, after, hblock, hexpected⟩ := hplaced hevents
  exact ⟨before, after, by rw [(hframe _ (hheld hevents)).2.1]; exact hblock, hexpected⟩

theorem moved_other {other : Nat} (hsound : SoundTable lockKey table)
    (hmove : Move (rowLock lockKey) table other next) (hother : other ≠ tx) (streamId : Uuid)
    (hheld : table.owner (lockKey streamId) = some tx) :
    next.owner (lockKey streamId) = some tx ∧ SameStream streamId (table.visible tx) (next.visible tx) := by
  obtain ⟨hkept, hsame⟩ := hmove.frame hsound.guarded hother hheld
  exact ⟨hkept, sameStream_of_logOf hsame⟩

/-! ## One step -/

/-- A step keeps the invariant if its transaction moves soundly and knows where it stands. -/
theorem StoreOk.of_move {next : Store Event} (h : StoreOk lockKey store) (tx : Nat)
    (hmove : Move (rowLock lockKey) store.table tx next.table)
    (hsound : SoundTable lockKey next.table)
    (hfresh : ∀ stored, next.table.Known (.event stored) → stored.seq < next.nextSeq)
    (hphase : PhaseOk lockKey next.table tx (next.phase tx))
    (hunsettled : ∀ call ∈ next.unsettled tx, UnsettledOk lockKey next.table tx call)
    (hsettled : ∀ call ∈ next.settled, Placed next.table.rows call)
    (hothers : ∀ other, other ≠ tx → next.phase other = store.phase other ∧ next.unsettled other = store.unsettled other) :
    StoreOk lockKey next where
  sound := hsound
  fresh := hfresh
  phase other := by
    by_cases hother : other = tx
    · exact hother ▸ hphase
    · rw [(hothers other hother).1]
      exact (h.phase other).frame (moved_other h.sound hmove (Ne.symm hother))
  unsettled other call hcall := by
    by_cases hother : other = tx
    · subst hother
      exact hunsettled call hcall
    · rw [(hothers other hother).2] at hcall
      exact (h.unsettled other call hcall).frame (moved_other h.sound hmove (Ne.symm hother))
  settled := hsettled

theorem StoreOk.goto (h : StoreOk lockKey store) (hphase : PhaseOk lockKey store.table tx phase) :
    StoreOk lockKey (store.goto tx phase) := by
  refine h.of_move tx .stay h.sound h.fresh ?_ (h.unsettled tx) h.settled fun other hother => ?_
  · show PhaseOk lockKey store.table tx (update store.phase tx phase tx)
    rw [update_self]
    exact hphase
  · exact ⟨update_of_ne hother _ _, rfl⟩

theorem StoreOk.fail (h : StoreOk lockKey store) (request : AppendRequest Event)
    (error : StoreError) (hphase : PhaseOk lockKey store.table tx phase) :
    StoreOk lockKey (store.fail tx request error phase) := by
  obtain ⟨hsound, hfresh, hphases, hunsettled, hsettled⟩ := h.goto hphase
  exact ⟨hsound, hfresh, hphases, hunsettled, hsettled⟩

/-- A call that succeeds has its rows placed. -/
theorem StoreOk.succeed (h : StoreOk lockKey store)
    (hplaced : UnsettledOk lockKey store.table tx ⟨request, out⟩) :
    StoreOk lockKey (store.succeed tx request out) := by
  refine h.of_move tx .stay h.sound h.fresh ?_ (fun call hcall => ?_) h.settled fun other hother => ?_
  · show PhaseOk lockKey store.table tx (update store.phase tx .idle tx)
    rw [update_self]
    trivial
  · have hmem : call ∈ store.unsettled tx ++ [⟨request, out⟩] := by
      simpa [Store.succeed, Store.goto] using hcall
    rcases List.mem_append.1 hmem with hold | hnew
    · exact h.unsettled tx call hold
    · obtain rfl := List.mem_singleton.1 hnew
      exact hplaced
  · exact ⟨update_of_ne hother _ _, update_of_ne hother _ _⟩

theorem UnsettledOk.write {call : Stored Event} (h : UnsettledOk lockKey table tx call) (row : Row Event) :
    UnsettledOk lockKey (table.write tx row) tx call := by
  refine ⟨?_, h.2⟩
  rw [view_write_self]
  exact h.1.append

/-- The stream's key, where one is active. -/
theorem dataKey_of_activeEpoch (h : activeEpoch? streamId rows = some epoch) : .dataKey streamId epoch ∈ rows := by
  obtain ⟨row, hrow, hfound⟩ := List.exists_of_findSome?_eq_some h
  cases row with
  | event => cases hfound
  | dataKey other stored =>
    dsimp only at hfound
    split_ifs at hfound with hother
    obtain rfl := Option.some.inj hfound
    exact hother ▸ hrow

section

variable (h : StoreOk lockKey store)
include h

theorem StoreOk.call (request : AppendRequest Event) : StoreOk lockKey (store.call tx request) := by
  unfold Store.call
  split_ifs with hempty
  · have hnone : request.events = [] := List.isEmpty_iff.1 hempty
    exact h.succeed ⟨⟨hnone.symm, fun hevents => absurd hnone hevents⟩, fun hevents => absurd hnone hevents⟩
  · exact h.goto fun hnone => hempty (by rw [hnone]; rfl)

theorem StoreOk.lock (hwaiting : store.phase tx = .locking request)
    (hfree : store.table.Free tx (lockKey request.streamId)) :
    StoreOk lockKey { store.goto tx (.locked request) with
      table := store.table.acquire tx (lockKey request.streamId) } := by
  have hevents := h.phase tx
  rw [hwaiting] at hevents
  refine h.of_move tx (.acquire hfree) (Sound.acquire h.sound hfree) h.fresh ?_
    (fun call hcall => ?_) h.settled fun other hother => ?_
  · show PhaseOk lockKey _ tx (update store.phase tx (.locked request) tx)
    rw [update_self]
    exact ⟨hevents, owner_acquire_self _⟩
  · obtain ⟨hplaced, hheld⟩ := h.unsettled tx call hcall
    exact ⟨hplaced, fun hcallEvents => owner_acquire_keep (hheld hcallEvents)⟩
  · exact ⟨update_of_ne hother _ _, rfl⟩

theorem StoreOk.checkHead (hready : store.phase tx = .locked request) :
    StoreOk lockKey (store.checkHead tx request) := by
  have hlocked := h.phase tx
  rw [hready] at hlocked
  obtain ⟨hevents, hheld⟩ := hlocked
  unfold Store.checkHead
  dsimp only
  split_ifs with hstale
  · exact h.fail request _ trivial
  · refine h.goto ⟨hevents, hheld, head_eq_length (h.sound.held_ok hheld), fun expected hexpected => ?_⟩
    rw [hexpected] at hstale
    simpa using hstale

/-- A write by the transaction that moves it on in its call. -/
theorem StoreOk.write {row : Row Event} {nextSeq : Int}
    (hheld : store.table.owner (lockKey row.streamId) = some tx)
    (hstream : StreamOk row.streamId (store.table.visible tx ++ [row]))
    (hseq : store.nextSeq ≤ nextSeq) (hrow : ∀ stored, row = .event stored → stored.seq < nextSeq)
    (hphase : PhaseOk lockKey (store.table.write tx row) tx phase) :
    StoreOk lockKey { store.goto tx phase with table := store.table.write tx row, nextSeq } := by
  refine h.of_move tx (.write hheld) (h.sound.write_ok hheld hstream) (fun stored hknown => ?_) ?_
    (fun call hcall => (h.unsettled tx call hcall).write row) h.settled fun other hother => ?_
  · rcases known_write hknown with hold | hnew
    · exact Int.lt_of_lt_of_le (h.fresh stored hold) hseq
    · exact hrow stored hnew.symm
  · show PhaseOk lockKey _ tx (update store.phase tx phase tx)
    rw [update_self]
    exact hphase
  · exact ⟨update_of_ne hother _ _, rfl⟩

theorem StoreOk.readyKey (hready : store.phase tx = .checked request base) :
    StoreOk lockKey (store.readyKey tx request base) := by
  have hchecked := h.phase tx
  rw [hready] at hchecked
  obtain ⟨hevents, hheld, hbase, hexpected⟩ := hchecked
  unfold Store.readyKey
  split
  · rename_i epoch hepoch
    exact h.goto ⟨hevents, hheld, dataKey_of_activeEpoch hepoch, hexpected, rfl, _,
      (List.append_nil _).symm, hbase⟩
  · have hok := h.sound.held_ok hheld
    have hsame : eventsOf request.streamId
        (store.table.visible tx ++ [.dataKey request.streamId 1]) =
        eventsOf request.streamId (store.table.visible tx) := by
      rw [eventsOf_append, eventsOf_dataKey, List.append_nil]
    refine h.write hheld ⟨?_, ?_, fun stored hstored => List.mem_append_left _ ?_⟩ (Int.le_refl _)
      (fun _ hrow => nomatch hrow) ⟨hevents, hheld, ?_, hexpected, rfl, _, ?_, hbase⟩
    · exact hsame ▸ hok.numbered
    · exact hsame ▸ hok.increasing
    · exact hok.keyed stored (hsame ▸ hstored)
    · rw [view_write_self]
      exact List.mem_append_right _ List.mem_cons_self
    · rw [view_write_self, hsame, List.append_nil]

theorem StoreOk.insert {event : Event} (hready : store.phase tx = .inserting request base epoch out)
    (hnext : request.events[out.length]? = some event) :
    StoreOk lockKey (store.insert tx request base epoch out
      (store.nextRow request base epoch out event)) := by
  have hinserting := h.phase tx
  rw [hready] at hinserting
  obtain ⟨hevents, hheld, hkey, hexpected, hout, before, hblock, hbase⟩ := hinserting
  have hok := h.sound.held_ok hheld
  let row := store.nextRow request base epoch out event
  have hrows : eventsOf request.streamId (store.table.visible tx ++ [.event row]) =
      eventsOf request.streamId (store.table.visible tx) ++ [row] := by
    rw [eventsOf_append, eventsOf_event, if_pos (show row.streamId = request.streamId from rfl)]
  have hseq : row.streamSeq = (eventsOf request.streamId (store.table.visible tx)).length + 1 := by
    rw [hblock, List.length_append]
    show base + 1 + (out.length : Int) = _
    omega
  refine h.write hheld ⟨?_, ?_, fun stored hstored => ?_⟩ (by omega) (fun stored hrow => ?_)
    ⟨hevents, hheld, ?_, hexpected, ?_, before, ?_, hbase⟩
  · show Numbered (eventsOf request.streamId (store.table.visible tx ++ [.event row]))
    rw [hrows]
    exact hok.numbered.snoc hseq
  · show ((eventsOf request.streamId (store.table.visible tx ++ [.event row])).map _).Pairwise _
    rw [hrows, List.map_append, List.pairwise_append]
    refine ⟨hok.increasing, List.pairwise_singleton _ _, fun seq hold new hnew => ?_⟩
    obtain ⟨stored, hstored, rfl⟩ := List.mem_map.1 hold
    obtain rfl : new = store.nextSeq := by simpa [row, Store.nextRow] using hnew
    exact h.fresh stored (known_of_visible (event_mem_of_eventsOf hstored))
  · rw [show eventsOf (Row.event row).streamId (store.table.visible tx ++ [.event row]) =
      eventsOf request.streamId (store.table.visible tx) ++ [row] from hrows] at hstored
    rcases List.mem_append.1 hstored with hold | hnew
    · exact List.mem_append_left _ (hok.keyed stored hold)
    · obtain rfl := List.mem_singleton.1 hnew
      exact List.mem_append_left _ hkey
  · obtain rfl := (Row.event.inj hrow).symm
    show store.nextSeq < store.nextSeq + 1
    omega
  · rw [view_write_self]
    exact List.mem_append_left _ hkey
  · rw [List.map_append, hout, List.length_append, List.length_singleton, List.take_add_one, hnext]
    rfl
  · rw [view_write_self]
    exact hrows.trans (by rw [hblock, List.append_assoc])

theorem StoreOk.done (hready : store.phase tx = .inserting request base epoch out)
    (hall : out.length = request.events.length) :
    StoreOk lockKey (store.succeed tx request out) := by
  have hinserting := h.phase tx
  rw [hready] at hinserting
  obtain ⟨-, hheld, -, hexpected, hout, before, hblock, hbase⟩ := hinserting
  refine h.succeed ⟨⟨?_, fun _ => ⟨before, [], ?_, fun expected hcall => ?_⟩⟩, fun _ => hheld⟩
  · show out.map _ = request.events
    rw [hout, hall, List.take_length]
  · rw [List.append_nil]
    exact hblock
  · rw [hexpected expected hcall, hbase]

theorem StoreOk.commit (hidle : store.phase tx = .idle) : StoreOk lockKey (store.commit tx) := by
  refine h.of_move tx .commit h.sound.commit (fun stored hknown => h.fresh stored (known_commit hknown))
    ?_ (fun call hcall => ?_) (fun call hcall => ?_) fun other hother => ?_
  · show PhaseOk lockKey _ tx (store.phase tx)
    rw [hidle]
    trivial
  · exact absurd hcall (by simp [Store.commit])
  · rcases List.mem_append.1 hcall with hold | hnew
    · exact (h.settled call hold).append
    · exact (h.unsettled tx call hnew).1
  · exact ⟨rfl, update_of_ne hother _ _⟩

theorem StoreOk.rollback (tx : Nat) : StoreOk lockKey (store.rollback tx) := by
  refine h.of_move tx .rollback h.sound.rollback
    (fun stored hknown => h.fresh stored (known_rollback hknown)) ?_ (fun call hcall => ?_)
    h.settled fun other hother => ?_
  · show PhaseOk lockKey _ tx (update store.phase tx .idle tx)
    rw [update_self]
    trivial
  · exact absurd hcall (by simp [Store.rollback])
  · exact ⟨update_of_ne hother _ _, update_of_ne hother _ _⟩

/-- Every step keeps the invariant. -/
theorem StoreOk.step {next : Store Event} (hstep : Step lockKey store tx next) : StoreOk lockKey next := by
  cases hstep with
  | call request _ => exact h.call request
  | lock hwaiting hfree => exact h.lock hwaiting hfree
  | check hready => exact h.checkHead hready
  | key hready => exact h.readyKey hready
  | keyFails => exact h.fail _ _ trivial
  | insert hready hnext _ => exact h.insert hready hnext
  | sealFails => exact h.fail _ _ trivial
  | duplicate => exact h.fail _ _ trivial
  | done hready hall => exact h.done hready hall
  | dbFails => exact h.fail _ _ trivial
  | commit hidle => exact h.commit hidle
  | rollback => exact h.rollback tx

end

/-! ## Every run -/

theorem storeOk_empty (lockKey : Uuid → Int) : StoreOk lockKey ({} : Store Event) where
  sound := Sound.empty fun _ _ _ => ⟨rfl, List.Pairwise.nil, fun _ h => absurd h List.not_mem_nil⟩
  fresh _ hknown := by
    rcases hknown with hrow | ⟨_, hpending⟩
    · exact absurd hrow List.not_mem_nil
    · exact absurd hpending List.not_mem_nil
  phase _ := trivial
  unsettled _ _ hcall := absurd hcall List.not_mem_nil
  settled _ hcall := absurd hcall List.not_mem_nil

theorem Reachable.ok (h : Reachable lockKey store) : StoreOk lockKey store := by
  induction h with
  | refl => exact storeOk_empty lockKey
  | tail _ hstep ih =>
    obtain ⟨tx, hstep⟩ := hstep
    exact ih.step hstep

theorem Reachable.streamOk (h : Reachable lockKey store) (streamId : Uuid) :
    StreamOk streamId store.table.rows :=
  h.ok.sound.committed_ok streamId

/-- The call is over, without a row: its transaction's rows are as before, or rolled back. -/
def Fails (store next : Store Event) (tx : Nat) (request : AppendRequest Event) : Prop :=
  (next.phase tx = .idle ∨ next.phase tx = .aborted) ∧
    (next.table = store.table ∨ next.table = store.table.rollback tx) ∧
    ∀ out, next.returned ≠ store.returned ++ [(request, .ok out)]

theorem fails_fail (store : Store Event) (tx : Nat) (request : AppendRequest Event)
    (error : StoreError) (hphase : phase = .idle ∨ phase = .aborted) :
    Fails store (store.fail tx request error phase) tx request := by
  refine ⟨?_, .inl rfl, fun out hreturned => ?_⟩
  · show update store.phase tx phase tx = _ ∨ update store.phase tx phase tx = _
    rw [update_self]
    exact hphase
  · have hlast := List.append_cancel_left hreturned
    exact absurd (Prod.mk.inj (List.cons.inj hlast).1).2 (by simp)

/-- A call that holds the lock and expects another head than the stream's only fails. -/
theorem stale_fails {next : Store Event} {expected : Int}
    (hlocked : store.phase tx = .locked request) (hexpected : request.expected = some expected)
    (hstale : expected ≠ store.head tx request.streamId) (hstep : Step lockKey store tx next) :
    Fails store next tx request := by
  cases hstep with
  | check hready =>
    obtain rfl := Phase.locked.inj (hlocked.symm.trans hready)
    unfold Store.checkHead
    dsimp only
    rw [hexpected, if_pos (by simpa using hstale)]
    exact fails_fail store tx request _ (.inl rfl)
  | @dbFails other =>
    refine ⟨?_, .inl rfl, ?_⟩
    · exact (fails_fail store tx other .db (.inr rfl)).1
    · intro out hreturned
      have hlast := List.append_cancel_left hreturned
      exact absurd (Prod.mk.inj (List.cons.inj hlast).1).2 (by simp)
  | rollback =>
    refine ⟨.inl (update_self ..), .inr rfl, fun out hreturned => ?_⟩
    exact absurd (congrArg List.length hreturned) (by simp [Store.rollback, Store.goto])
  | call _ hidle | commit hidle => cases hidle.symm.trans hlocked
  | lock hwaiting => cases hwaiting.symm.trans hlocked
  | key hready
  | keyFails hready
  | insert hready
  | sealFails hready
  | duplicate hready
  | done hready => cases hready.symm.trans hlocked

/-- In every state reached by concurrent appends: each stream's events are numbered from one, each
committed call's events are one block past its expected head, and a call that brings events but
expects another head than the stream's only fails. -/
theorem appends_stored {store : Store Event} (h : Reachable lockKey store) :
    (∀ streamId, Numbered (eventsOf streamId store.table.rows)) ∧
      (∀ call ∈ store.settled, Placed store.table.rows call) ∧
      ∀ tx request expected next, store.phase tx = .locked request →
        request.expected = some expected → expected ≠ store.head tx request.streamId →
        Step lockKey store tx next → Fails store next tx request :=
  ⟨fun streamId => (h.streamOk streamId).numbered, h.ok.settled,
    fun _ _ _ _ hlocked hexpected hstale hstep => stale_fails hlocked hexpected hstale hstep⟩

theorem Step.rows_prefix {next : Store Event} (hstep : Step lockKey store tx next) :
    store.table.rows <+: next.table.rows := by
  cases hstep with
  | commit => exact List.prefix_append ..
  | call | check | key =>
    simp only [Store.call, Store.checkHead, Store.readyKey]
    split <;> exact List.prefix_rfl
  | lock | keyFails | insert | sealFails | duplicate | done | dbFails | rollback => exact List.prefix_rfl

/-- A stream only grows, in the order of the store's positions, and the data key of each event is committed. -/
theorem streams_grow {store later : Store Event} (h : Reachable lockKey store)
    (hlater : Relation.ReflTransGen (fun store next => ∃ tx, Step lockKey store tx next) store later)
    (streamId : Uuid) : eventsOf streamId store.table.rows <+: eventsOf streamId later.table.rows ∧
      ((eventsOf streamId later.table.rows).map (·.seq)).Pairwise (· < ·) ∧
      ∀ stored ∈ eventsOf streamId later.table.rows, .dataKey streamId stored.keyEpoch ∈ later.table.rows := by
  have hlog := Reachable.streamOk (h.trans hlater) streamId
  refine ⟨?_, hlog.increasing, hlog.keyed⟩
  induction hlater with
  | refl => exact List.prefix_rfl
  | tail hrun hstep ih =>
    obtain ⟨_, hstep⟩ := hstep
    exact (ih (Reachable.streamOk (h.trans hrun) streamId)).trans (hstep.rows_prefix.filterMap _)

end Locked

/-- An append of no events to a stream that is empty, which expects it to have five. -/
def emptyAppend : AppendRequest String := ⟨7, some 5, []⟩

/-- It succeeds without a look at the head. -/
theorem emptyAppend_unchecked :
    Step (fun _ => 0) ({} : Store String) 0 (({} : Store String).succeed 0 emptyAppend []) ∧
      emptyAppend.expected ≠ some (({} : Store String).head 0 emptyAppend.streamId) ∧
      (({} : Store String).succeed 0 emptyAppend []).returned = [(emptyAppend, .ok [])] :=
  ⟨.call emptyAppend rfl, by decide, rfl⟩

/-- An append of one event to an empty stream. -/
def firstAppend : AppendRequest String := ⟨7, some 0, ["GameCreated"]⟩

/-- The store in which the first append holds its key and is to insert. -/
def keyedStore : Store String :=
  let called := ({} : Store String).call 0 firstAppend
  let locked := { called.goto 0 (.locked firstAppend) with table := called.table.acquire 0 0 }
  (locked.checkHead 0 firstAppend).readyKey 0 firstAppend 0

/-- The row of its event. -/
def firstRow : StoredEvent String := keyedStore.nextRow firstAppend 0 1 [] "GameCreated"

/-- The store in which it is committed. -/
def committedStore : Store String :=
  ((keyedStore.insert 0 firstAppend 0 1 [] firstRow).succeed 0 firstAppend [firstRow]).commit 0

theorem keyedStore_reachable : Reachable (fun _ => 0) keyedStore :=
  (((Relation.ReflTransGen.single ⟨0, .call firstAppend rfl⟩).tail
    ⟨0, .lock rfl (.inl rfl)⟩).tail ⟨0, .check rfl⟩).tail ⟨0, .key rfl⟩

theorem keyedStore_unique (other : Nat) : ¬ TakenIn (keyedStore.table.visible other) firstRow := by
  rintro ⟨stored, hstored, -⟩
  by_cases hother : other = 0
  · subst hother
    exact absurd hstored List.not_mem_nil
  · have hempty : keyedStore.table.visible other = [] := by
      show [] ++ update (fun _ => ([] : List (Row String))) 0 _ other = []
      rw [update_of_ne hother, List.append_nil]
    rw [hempty] at hstored
    exact absurd hstored List.not_mem_nil

theorem committedStore_reachable : Reachable (fun _ => 0) committedStore :=
  ((keyedStore_reachable.tail ⟨0, .insert rfl rfl keyedStore_unique⟩).tail ⟨0, .done rfl rfl⟩).tail
    ⟨0, .commit rfl⟩

/-- An append that expects the stream to have three events. -/
def staleAppend : AppendRequest String := ⟨7, some 3, ["PhaseLocked"]⟩

/-- The store in which it holds the lock. -/
def staleStore : Store String :=
  let called := committedStore.call 1 staleAppend
  { called.goto 1 (.locked staleAppend) with table := called.table.acquire 1 0 }

theorem staleStore_reachable : Reachable (fun _ => 0) staleStore :=
  (committedStore_reachable.tail ⟨1, .call staleAppend rfl⟩).tail ⟨1, .lock rfl (.inl rfl)⟩

/-- The committed event is the stream's first, and the stale append fails. -/
theorem staleStore_appends : Numbered (eventsOf 7 staleStore.table.rows) ∧
      Placed staleStore.table.rows ⟨firstAppend, [firstRow]⟩ ∧
      Fails staleStore (staleStore.checkHead 1 staleAppend) 1 staleAppend :=
  ⟨(appends_stored staleStore_reachable).1 7,
    (appends_stored staleStore_reachable).2.1 _ (List.mem_singleton.2 rfl),
    (appends_stored staleStore_reachable).2.2 1 staleAppend 3 _ rfl rfl (by decide) (.check rfl)⟩

theorem streams_grow_committed : [firstRow] <+: eventsOf 7 staleStore.table.rows :=
  (streams_grow committedStore_reachable
    ((Relation.ReflTransGen.single ⟨1, .call staleAppend rfl⟩).tail ⟨1, .lock rfl (.inl rfl)⟩) 7).1

end Fmarch.Eventstore
