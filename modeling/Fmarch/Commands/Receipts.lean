import Fmarch.Lib.Locking
import Fmarch.Lib.Steps
import Fmarch.Platform.Values

/-!
# Idempotent commands (`handle_idempotent`, `handle_in_tx`)

A command that comes with an id leaves a receipt in the transaction that carries it out. A call first
claims the receipt: the insertion waits for whoever else is inserting the same key, and finds the row if
that one commits. Then the command is handled, its events are appended, and its acknowledgement is
stored in the receipt. A call that finds a receipt answers from it, or refuses if the receipt is for
another command.

Any number of calls run at once, each in its own transaction. Between any two of its steps a call may
fail or be cancelled, and the answer to its commit may be lost; on an error its caller rolls back. The
handler is whatever it is: it may append any events, answer anything or refuse.

**`commands_run_once`**: of the calls with one key at most one appends, all that succeed answer the same,
one that comes with another command is refused with a conflict, and one that is refused leaves nothing
that would keep a later one from running.
-/

namespace Fmarch.Commands.Receipts

open Function (update update_self update_of_ne)

open Locking Platform

variable {Event : Type}

/-! ## The database -/

/-- The key of `command_receipt`. -/
structure ReceiptKey where
  principalId : Uuid
  commandId : Uuid
  deriving DecidableEq

/-- `command_receipt`. `xmin` is the system column that names the inserting transaction. -/
structure Receipt where
  key : ReceiptKey
  commandFingerprint : List UInt8
  streamId : Uuid
  streamSeqs : List Int
  xmin : Nat

/-- A row of `events`. -/
structure StoredEvent (Event : Type) where
  streamId : Uuid
  streamSeq : Int
  event : Event
  xmin : Nat

/-- `ReceiptClaim`, with the game of the command. -/
structure Call where
  key : ReceiptKey
  commandFingerprint : List UInt8
  game : Uuid

/-- The receipt that a call claims. -/
def Call.receipt (call : Call) (tx : Nat) (streamSeqs : List Int) : Receipt where
  key := call.key
  commandFingerprint := call.commandFingerprint
  streamId := call.game
  streamSeqs := streamSeqs
  xmin := tx

/-! ## Calls -/

abbrev Ack := List Int

inductive Reject where
  | commandIdConflict
  /-- What the handler and the check before it refuse with. -/
  | refused (reason : String)
  /-- A statement failed. -/
  | internal

/-- How a call ends. One that is cancelled, or whose commit is not answered, is `lost`. -/
inductive Outcome where
  | ok (ack : Ack)
  | rejected (reject : Reject)
  | lost

/-- Where a call is. -/
inductive Stage where
  | idle
  | begun
  | streamLocked
  | claimed
  | applied (ack : Ack)
  /-- `handle_in_tx` has returned. -/
  | answered (ack : Ack)
  | ended (outcome : Outcome)

/-- The database and the calls on it. -/
structure Server (Event : Type) where
  streams : Table Uuid (StoredEvent Event) := {}
  receipts : Table ReceiptKey Receipt := {}
  stage : Nat → Stage := fun _ => .idle

namespace Server

/-- The call goes on to another stage. -/
def goto (server : Server Event) (tx : Nat) (stage : Stage) : Server Event :=
  { server with stage := update server.stage tx stage }

/-- `lock_command_stream_in_tx`. -/
def lockStream (server : Server Event) (tx : Nat) (call : Call) : Server Event :=
  { server.goto tx .streamLocked with streams := server.streams.acquire tx call.game }

/-- The transaction is rolled back. -/
def rollback (server : Server Event) (tx : Nat) (outcome : Outcome) : Server Event :=
  { server.goto tx (.ended outcome) with
    streams := server.streams.rollback tx
    receipts := server.receipts.rollback tx }

/-- The transaction commits. -/
def commit (server : Server Event) (tx : Nat) (outcome : Outcome) : Server Event :=
  { server.goto tx (.ended outcome) with
    streams := server.streams.commit tx
    receipts := server.receipts.commit tx }

/-- `SELECT command_fingerprint, stream_seqs FROM command_receipt`. -/
def receipt? (server : Server Event) (tx : Nat) (key : ReceiptKey) : Option Receipt :=
  (server.receipts.visible tx).find? fun row => row.key = key

/-- `claim_or_replay_receipt_in_tx`, once nobody else is inserting the key. -/
def claimOrReplay (server : Server Event) (tx : Nat) (call : Call) : Server Event :=
  match server.receipt? tx call.key with
  | none =>
    { server.goto tx .claimed with
      receipts := (server.receipts.acquire tx call.key).write tx (call.receipt tx []) }
  | some row =>
    if row.commandFingerprint ≠ call.commandFingerprint then
      server.rollback tx (.rejected .commandIdConflict)
    else server.goto tx (.answered row.streamSeqs)

/-- `handle_command`: the events are appended. -/
def apply (server : Server Event) (tx : Nat) (events : List (StoredEvent Event)) (ack : Ack) : Server Event :=
  { server.goto tx (.applied ack) with streams := server.streams.writeEach tx events }

/-- `store_receipt_ack_in_tx`. The row is the transaction's own. -/
def storeReceiptAck (server : Server Event) (tx : Nat) (call : Call) (ack : Ack) : Server Event :=
  { server.goto tx (.answered ack) with
    receipts := server.receipts.amend tx fun row =>
      if row.key = call.key then { row with streamSeqs := ack } else row }

end Server

/-- A step of one call. -/
inductive Step (calls : Nat → Call) (server : Server Event) (tx : Nat) : Server Event → Prop where
  | begin (idle : server.stage tx = .idle) : Step calls server tx (server.goto tx .begun)
  | lockStream (begun : server.stage tx = .begun) (free : server.streams.Free tx (calls tx).game) :
      Step calls server tx (server.lockStream tx (calls tx))
  | claimOrReplay (locked : server.stage tx = .streamLocked)
      (free : server.receipts.Free tx (calls tx).key) :
      Step calls server tx (server.claimOrReplay tx (calls tx))
  | refuse (claimed : server.stage tx = .claimed) (reason : String) :
      Step calls server tx (server.rollback tx (.rejected (.refused reason)))
  | apply (claimed : server.stage tx = .claimed) (events : List (StoredEvent Event)) (ack : Ack)
      (own : ∀ event ∈ events, event.streamId = (calls tx).game ∧ event.xmin = tx) :
      Step calls server tx (server.apply tx events ack)
  | storeReceiptAck {ack : Ack} (applied : server.stage tx = .applied ack) :
      Step calls server tx (server.storeReceiptAck tx (calls tx) ack)
  | commit {ack : Ack} (answered : server.stage tx = .answered ack) :
      Step calls server tx (server.commit tx (.ok ack))
  | commitLost {ack : Ack} (answered : server.stage tx = .answered ack) :
      Step calls server tx (server.commit tx .lost)
  /-- A statement of `handle_in_tx` fails. -/
  | statementFails (running : server.stage tx ∈ [.begun, .streamLocked, .claimed] ∨
      ∃ ack, server.stage tx = .applied ack) :
      Step calls server tx (server.rollback tx (.rejected .internal))
  /-- The call is dropped, or its caller rolls back. -/
  | cancel (running : server.stage tx ∈ [.begun, .streamLocked, .claimed] ∨
      ∃ ack, server.stage tx = .applied ack ∨ server.stage tx = .answered ack) :
      Step calls server tx (server.rollback tx .lost)

/-- Some call takes a step. -/
def Next (calls : Nat → Call) (server next : Server Event) : Prop :=
  ∃ tx, Step calls server tx next

/-! ## The invariant -/

/-- The transaction has written nothing. -/
def Clean (receipts : Table ReceiptKey Receipt) (events : List (StoredEvent Event)) (tx : Nat) :
    Prop := receipts.pending tx = [] ∧ events = []

/-- No committed receipt is the call's. -/
def Unclaimed (receipts : Table ReceiptKey Receipt) (tx : Nat) : Prop :=
  ∀ row ∈ receipts.rows, row.xmin ≠ tx

/-- The call holds its key, with its receipt still to commit. -/
def Holds (call : Call) (receipts : Table ReceiptKey Receipt) (tx : Nat) (ack : Ack) : Prop :=
  receipts.pending tx = [call.receipt tx ack] ∧ receipts.owner call.key = some tx ∧ Unclaimed receipts tx

/-- The acknowledgement is the one in the committed receipt. -/
def Acked (call : Call) (receipts : Table ReceiptKey Receipt) (ack : Ack) : Prop :=
  ∃ row ∈ receipts.rows, row.key = call.key ∧ row.commandFingerprint = call.commandFingerprint ∧
    row.streamSeqs = ack

/-- What each stage of a call has behind it. -/
def StageOk (call : Call) (receipts : Table ReceiptKey Receipt) (events : List (StoredEvent Event))
    (tx : Nat) : Stage → Prop
  | .idle | .begun | .streamLocked => Clean receipts events tx ∧ Unclaimed receipts tx
  | .claimed => Holds call receipts tx [] ∧ events = []
  | .applied _ => Holds call receipts tx []
  | .answered ack => Holds call receipts tx ack ∨ (Clean receipts events tx ∧ Acked call receipts ack)
  | .ended (.ok ack) => Clean receipts events tx ∧ Acked call receipts ack
  | .ended (.rejected _) => Clean receipts events tx ∧ Unclaimed receipts tx
  | .ended .lost => Clean receipts events tx

/-- The call may hold a key. -/
def Stage.Open : Stage → Prop
  | .claimed | .applied _ | .answered _ => True
  | _ => False

/-- The key a receipt is under; a key has one receipt. -/
def AtMostOne (_ : ReceiptKey) (log : List Receipt) : Prop := log.length ≤ 1

/-- Receipts are one a key, and each is that of the call it says. -/
structure ServerOk (calls : Nat → Call) (server : Server Event) : Prop where
  unique : Sound Receipt.key AtMostOne server.receipts
  stages : ∀ tx, StageOk (calls tx) server.receipts (server.streams.pending tx) tx (server.stage tx)
  holders : ∀ key tx, server.receipts.owner key = some tx → (calls tx).key = key ∧ (server.stage tx).Open
  claims : ∀ row ∈ server.receipts.rows, row.key = (calls row.xmin).key ∧
    row.commandFingerprint = (calls row.xmin).commandFingerprint
  events : ∀ event ∈ server.streams.rows, ∃ row ∈ server.receipts.rows, row.xmin = event.xmin
  own : ∀ tx, ∀ event ∈ server.streams.pending tx, event.xmin = tx

section Invariant

variable {calls : Nat → Call} {server next : Server Event} {tx : Nat}

theorem ServerOk.empty : ServerOk calls ({} : Server Event) where
  unique := Sound.empty fun _ => Nat.zero_le _
  stages _ := ⟨⟨rfl, rfl⟩, nofun⟩
  holders _ _ h := absurd h (by simp)
  claims _ h := absurd h List.not_mem_nil
  events _ h := absurd h List.not_mem_nil
  own _ _ h := absurd h List.not_mem_nil

/-- Two committed receipts of one key are the same. -/
theorem ServerOk.same_row (h : ServerOk calls server) {a b : Receipt}
    (ha : a ∈ server.receipts.rows) (hb : b ∈ server.receipts.rows) (hkey : a.key = b.key) :
    a = b := by
  have hlog : (logOf Receipt.key b.key server.receipts.rows).length ≤ 1 := h.unique.committed b.key
  have hmem : ∀ row ∈ server.receipts.rows, row.key = b.key →
      row ∈ logOf Receipt.key b.key server.receipts.rows := fun row hrow hrowKey =>
    List.mem_filter.2 ⟨hrow, decide_eq_true hrowKey⟩
  obtain ⟨single, hsingle⟩ := List.length_eq_one_iff.1
    (Nat.le_antisymm hlog (List.length_pos_of_mem (hmem b hb rfl)))
  have ha' := hmem a ha hkey
  have hb' := hmem b hb rfl
  rw [hsingle, List.mem_singleton] at ha' hb'
  exact ha'.trans hb'.symm

/-- A call's stage does not depend on what other calls do. -/
theorem StageOk.frame {call : Call} {before after : Table ReceiptKey Receipt}
    {events : List (StoredEvent Event)} {stage : Stage}
    (hpending : after.pending tx = before.pending tx)
    (howner : before.owner call.key = some tx → after.owner call.key = some tx)
    (hrows : ∀ row ∈ before.rows, row ∈ after.rows)
    (hnew : ∀ row ∈ after.rows, row.xmin = tx → row ∈ before.rows)
    (h : StageOk call before events tx stage) : StageOk call after events tx stage := by
  have hclean : Clean before events tx → Clean after events tx := fun h => ⟨hpending.trans h.1, h.2⟩
  have hunclaimed : Unclaimed before tx → Unclaimed after tx :=
    fun h row hrow hxmin => h row (hnew row hrow hxmin) hxmin
  have hholds : ∀ ack, Holds call before tx ack → Holds call after tx ack :=
    fun ack h => ⟨hpending.trans h.1, howner h.2.1, hunclaimed h.2.2⟩
  have hacked : ∀ ack, Acked call before ack → Acked call after ack :=
    fun ack ⟨row, hrow, h⟩ => ⟨row, hrows row hrow, h⟩
  cases stage with
  | idle | begun | streamLocked => exact ⟨hclean h.1, hunclaimed h.2⟩
  | claimed => exact ⟨hholds _ h.1, h.2⟩
  | applied => exact hholds _ h
  | answered ack => exact h.imp (hholds ack) fun h => ⟨hclean h.1, hacked ack h.2⟩
  | ended outcome =>
    cases outcome with
    | ok ack => exact ⟨hclean h.1, hacked ack h.2⟩
    | rejected => exact ⟨hclean h.1, hunclaimed h.2⟩
    | lost => exact hclean h

/-- What a step of one call has to show: its own part, and that it leaves the other calls alone. -/
structure Local (calls : Nat → Call) (server : Server Event) (tx : Nat) (next : Server Event) :
    Prop where
  stage : ∀ other, other ≠ tx → next.stage other = server.stage other
  events : ∀ other, other ≠ tx → next.streams.pending other = server.streams.pending other
  pending : ∀ other, other ≠ tx → next.receipts.pending other = server.receipts.pending other
  owner : ∀ other, other ≠ tx → ∀ key,
    next.receipts.owner key = some other ↔ server.receipts.owner key = some other
  kept : ∀ row ∈ server.receipts.rows, row ∈ next.receipts.rows
  added : ∀ row ∈ next.receipts.rows, row ∈ server.receipts.rows ∨ row.xmin = tx

theorem ServerOk.of_local (h : ServerOk calls server) (hlocal : Local calls server tx next)
    (hunique : Sound Receipt.key AtMostOne next.receipts)
    (hstage : StageOk (calls tx) next.receipts (next.streams.pending tx) tx (next.stage tx))
    (hholder : ∀ key, next.receipts.owner key = some tx → (calls tx).key = key ∧ (next.stage tx).Open)
    (hclaims : ∀ row ∈ next.receipts.rows, row ∈ server.receipts.rows ∨ (row.key = (calls row.xmin).key ∧
        row.commandFingerprint = (calls row.xmin).commandFingerprint))
    (hevents : ∀ event ∈ next.streams.rows, event ∈ server.streams.rows ∨
      ∃ row ∈ next.receipts.rows, row.xmin = event.xmin)
    (hown : ∀ event ∈ next.streams.pending tx, event.xmin = tx) : ServerOk calls next where
  unique := hunique
  stages other := by
    by_cases hother : other = tx
    · subst hother
      exact hstage
    · rw [hlocal.stage other hother, hlocal.events other hother]
      refine StageOk.frame (hlocal.pending other hother) (hlocal.owner other hother _).2 hlocal.kept
        (fun row hrow hxmin => ?_) (h.stages other)
      rcases hlocal.added row hrow with hold | hnew
      · exact hold
      · exact absurd (hxmin.symm.trans hnew) hother
  holders key other howner := by
    by_cases hother : other = tx
    · subst hother
      exact hholder key howner
    · rw [hlocal.stage other hother]
      exact h.holders key other ((hlocal.owner other hother key).1 howner)
  claims row hrow := (hclaims row hrow).elim (h.claims row) id
  events event hevent := by
    rcases hevents event hevent with hold | hnew
    · obtain ⟨row, hrow, hxmin⟩ := h.events event hold
      exact ⟨row, hlocal.kept row hrow, hxmin⟩
    · exact hnew
  own other event hevent := by
    by_cases hother : other = tx
    · subst hother
      exact hown event hevent
    · rw [hlocal.events other hother] at hevent
      exact h.own other event hevent

/-! ## One step -/

theorem goto_local (stage : Stage) : Local calls server tx (server.goto tx stage) where
  stage _ hother := update_of_ne hother _ _
  events _ _ := rfl
  pending _ _ := rfl
  owner _ _ _ := Iff.rfl
  kept _ hrow := hrow
  added _ hrow := .inl hrow

/-- A call that only goes on. -/
theorem ServerOk.goto (h : ServerOk calls server) {stage : Stage}
    (hstage : StageOk (calls tx) server.receipts (server.streams.pending tx) tx stage)
    (hopen : (server.stage tx).Open → stage.Open) : ServerOk calls (server.goto tx stage) := by
  have hself : (server.goto tx stage).stage tx = stage := update_self ..
  refine h.of_local (goto_local stage) h.unique ?_ (fun key howner => ?_) (fun _ hrow => .inl hrow)
    (fun _ hevent => .inl hevent) (h.own tx)
  · rw [hself]
    exact hstage
  · rw [hself]
    exact ⟨(h.holders key tx howner).1, hopen (h.holders key tx howner).2⟩

theorem ServerOk.lockStream (h : ServerOk calls server) (hbegun : server.stage tx = .begun) :
    ServerOk calls (server.lockStream tx (calls tx)) := by
  have hbefore := h.stages tx
  rw [hbegun] at hbefore
  have hgoto : ServerOk calls (server.goto tx .streamLocked) :=
    h.goto hbefore fun hopen => absurd hopen (by rw [hbegun]; exact id)
  exact
    { unique := hgoto.unique
      stages := hgoto.stages
      holders := hgoto.holders
      claims := hgoto.claims
      events := hgoto.events
      own := hgoto.own }

theorem owner_finish_iff {K R : Type} [DecidableEq K] {table : Table K R} {rows : List R}
    {other : Nat} (hother : other ≠ tx) {key : K} :
    (table.finish tx rows).owner key = some other ↔ table.owner key = some other :=
  ⟨fun h => (Sound.owner_of_finish h).1, fun h => owner_finish_other rows h (Ne.symm hother)⟩

theorem rollback_local (outcome : Outcome) : Local calls server tx (server.rollback tx outcome) where
  stage _ hother := update_of_ne hother _ _
  events _ hother := update_of_ne hother _ _
  pending _ hother := update_of_ne hother _ _
  owner _ hother _ := owner_finish_iff hother
  kept _ hrow := hrow
  added _ hrow := .inl hrow

theorem ServerOk.rollback (h : ServerOk calls server) {outcome : Outcome} (hok : ∀ ack, outcome ≠ .ok ack)
    (hrejected : ∀ reject, outcome = .rejected reject → Unclaimed server.receipts tx) :
    ServerOk calls (server.rollback tx outcome) := by
  have hself : (server.rollback tx outcome).stage tx = .ended outcome := update_self ..
  have hevents : (server.rollback tx outcome).streams.pending tx = [] := update_self ..
  have hclean : Clean (server.rollback tx outcome).receipts
      ((server.rollback tx outcome).streams.pending tx) tx :=
    ⟨update_self .., hevents⟩
  refine h.of_local (rollback_local outcome) h.unique.rollback ?_ (fun key howner => ?_)
    (fun _ hrow => .inl hrow) (fun _ hevent => .inl hevent) fun event hevent => ?_
  · rw [hself]
    cases outcome with
    | ok ack => exact absurd rfl (hok ack)
    | rejected reject => exact ⟨hclean, hrejected reject rfl⟩
    | lost => exact hclean
  · exact absurd rfl (Sound.owner_of_finish howner).2
  · rw [hevents] at hevent
    exact absurd hevent List.not_mem_nil

/-- A call that answered commits what it wrote, or nothing if it answered from a receipt. -/
theorem ServerOk.commit (h : ServerOk calls server) {ack : Ack} {outcome : Outcome}
    (hanswered : server.stage tx = .answered ack) (houtcome : outcome = .ok ack ∨ outcome = .lost) :
    ServerOk calls (server.commit tx outcome) := by
  have hbefore := h.stages tx
  rw [hanswered] at hbefore
  have hself : (server.commit tx outcome).stage tx = .ended outcome := update_self ..
  have hevents : (server.commit tx outcome).streams.pending tx = [] := update_self ..
  have hclean : Clean (server.commit tx outcome).receipts
      ((server.commit tx outcome).streams.pending tx) tx :=
    ⟨update_self .., hevents⟩
  have hrows : (server.commit tx outcome).receipts.rows =
      server.receipts.rows ++ server.receipts.pending tx := rfl
  have hmine : ∀ row ∈ server.receipts.pending tx, row = (calls tx).receipt tx ack := by
    intro row hrow
    rcases hbefore with hholds | ⟨hnone, -⟩
    · rw [hholds.1] at hrow
      exact List.mem_singleton.1 hrow
    · rw [hnone.1] at hrow
      exact absurd hrow List.not_mem_nil
  have hlocal : Local calls server tx (server.commit tx outcome) :=
    { stage := fun _ hother => update_of_ne hother _ _
      events := fun _ hother => update_of_ne hother _ _
      pending := fun _ hother => update_of_ne hother _ _
      owner := fun _ hother _ => owner_finish_iff hother
      kept := fun _ hrow => List.mem_append_left _ hrow
      added := fun row hrow => (List.mem_append.1 hrow).imp id fun hnew => by
        rw [hmine row hnew]
        rfl }
  have hacked : Acked (calls tx) (server.commit tx outcome).receipts ack := by
    rcases hbefore with hholds | ⟨-, row, hrow, hrest⟩
    · refine ⟨(calls tx).receipt tx ack, ?_, rfl, rfl, rfl⟩
      rw [hrows, hholds.1]
      exact List.mem_append_right _ (List.mem_singleton_self _)
    · exact ⟨row, List.mem_append_left _ hrow, hrest⟩
  refine h.of_local hlocal h.unique.commit ?_ (fun key howner => ?_) (fun row hrow => ?_)
    (fun event hevent => ?_) fun event hevent => ?_
  · rw [hself]
    rcases houtcome with rfl | rfl
    · exact ⟨hclean, hacked⟩
    · exact hclean
  · exact absurd rfl (Sound.owner_of_finish howner).2
  · rw [hrows] at hrow
    refine (List.mem_append.1 hrow).imp id fun hnew => ?_
    rw [hmine row hnew]
    exact ⟨rfl, rfl⟩
  · refine (List.mem_append.1 hevent).imp id fun hnew => ?_
    rcases hbefore with hholds | ⟨hnone, -⟩
    · refine ⟨(calls tx).receipt tx ack, ?_, (h.own tx event hnew).symm⟩
      rw [hrows, hholds.1]
      exact List.mem_append_right _ (List.mem_singleton_self _)
    · rw [hnone.2] at hnew
      exact absurd hnew List.not_mem_nil
  · rw [hevents] at hevent
    exact absurd hevent List.not_mem_nil

/-- With no receipt to be seen, the key is the call's to claim. -/
theorem ServerOk.claim (h : ServerOk calls server) (hlocked : server.stage tx = .streamLocked)
    (hfree : server.receipts.Free tx (calls tx).key)
    (hnone : server.receipt? tx (calls tx).key = none) :
    ServerOk calls (server.claimOrReplay tx (calls tx)) := by
  have hbefore := h.stages tx
  rw [hlocked] at hbefore
  obtain ⟨hclean, hunclaimed⟩ := hbefore
  unfold Server.claimOrReplay
  rw [hnone]
  dsimp only
  have hlog : logOf Receipt.key (calls tx).key
      ((server.receipts.acquire tx (calls tx).key).visible tx) = [] := by
    refine List.filter_eq_nil_iff.2 fun row hrow hkey => ?_
    have hnot := List.find?_eq_none.1 hnone row hrow
    exact hnot hkey
  have hunique : Sound Receipt.key AtMostOne
      ((server.receipts.acquire tx (calls tx).key).write tx ((calls tx).receipt tx [])) := by
    refine (h.unique.acquire hfree).write (owner_acquire_self _) ?_
    show (logOf Receipt.key (calls tx).key _ ++ _).length ≤ 1
    rw [hlog]
    exact Nat.le_refl 1
  refine h.of_local ?_ hunique ?_ (fun key howner => ?_) (fun _ hrow => .inl hrow)
    (fun _ hevent => .inl hevent) (h.own tx)
  · exact
      { stage := fun _ hother => update_of_ne hother _ _
        events := fun _ _ => rfl
        pending := fun _ hother => update_of_ne hother _ _
        owner := fun other hother key => by
          show update server.receipts.owner _ _ key = _ ↔ _
          by_cases hkey : key = (calls tx).key
          · subst hkey
            rw [update_self]
            refine iff_of_false (fun heq => hother (Option.some.inj heq).symm) fun heq => ?_
            rcases hfree with hnobody | hheld
            · cases hnobody.symm.trans heq
            · exact hother (Option.some.inj (heq.symm.trans hheld))
          · rw [update_of_ne hkey]
        kept := fun _ hrow => hrow
        added := fun _ hrow => .inl hrow }
  · have hself : update server.stage tx Stage.claimed tx = .claimed :=
      update_self ..
    show StageOk _ _ _ _ (update server.stage tx Stage.claimed tx)
    rw [hself]
    refine ⟨⟨?_, update_self .., hunclaimed⟩, hclean.2⟩
    show update server.receipts.pending tx _ tx = _
    rw [update_self]
    show server.receipts.pending tx ++ _ = _
    rw [hclean.1, List.nil_append]
  · have howner' : update server.receipts.owner (calls tx).key (some tx) key = some tx :=
      howner
    show _ ∧ (update server.stage tx Stage.claimed tx).Open
    rw [update_self]
    refine ⟨?_, trivial⟩
    by_cases hkey : key = (calls tx).key
    · exact hkey.symm
    · rw [update_of_ne hkey] at howner'
      exact (h.holders key tx howner').1

theorem ServerOk.claimOrReplay (h : ServerOk calls server)
    (hlocked : server.stage tx = .streamLocked) (hfree : server.receipts.Free tx (calls tx).key) :
    ServerOk calls (server.claimOrReplay tx (calls tx)) := by
  cases hfound : server.receipt? tx (calls tx).key with
  | none => exact h.claim hlocked hfree hfound
  | some row =>
    have hbefore := h.stages tx
    rw [hlocked] at hbefore
    obtain ⟨hclean, hunclaimed⟩ := hbefore
    unfold Server.claimOrReplay
    rw [hfound]
    dsimp only
    split
    case isTrue =>
      exact h.rollback (fun _ => by simp) fun _ _ => hunclaimed
    case isFalse hsame =>
      have hrow : row ∈ server.receipts.rows := by
        have hvisible := List.mem_of_find?_eq_some hfound
        unfold Table.visible at hvisible
        rwa [hclean.1, List.append_nil] at hvisible
      have hkey := List.find?_some hfound
      exact h.goto (.inr ⟨hclean, row, hrow, of_decide_eq_true hkey, not_not.1 hsame, rfl⟩)
        fun _ => trivial

theorem ServerOk.apply (h : ServerOk calls server) (hclaimed : server.stage tx = .claimed)
    {events : List (StoredEvent Event)} (hown : ∀ event ∈ events, event.xmin = tx) (ack : Ack) :
    ServerOk calls (server.apply tx events ack) := by
  have hbefore := h.stages tx
  rw [hclaimed] at hbefore
  have hself : (server.apply tx events ack).stage tx = .applied ack := update_self ..
  have hlocal : Local calls server tx (server.apply tx events ack) :=
    { stage := fun _ hother => update_of_ne hother _ _
      events := fun _ hother => update_of_ne hother _ _
      pending := fun _ _ => rfl
      owner := fun _ _ _ => Iff.rfl
      kept := fun _ hrow => hrow
      added := fun _ hrow => .inl hrow }
  refine h.of_local hlocal h.unique ?_ (fun key howner => ?_) (fun _ hrow => .inl hrow)
    (fun _ hevent => .inl hevent) fun event hevent => ?_
  · rw [hself]
    exact hbefore.1
  · rw [hself]
    exact ⟨(h.holders key tx howner).1, trivial⟩
  · have hwritten : event ∈ server.streams.pending tx ++ events := by
      simpa [Server.apply, Table.writeEach] using hevent
    rw [hbefore.2, List.nil_append] at hwritten
    exact hown event hwritten

theorem length_logOf_map {f : Receipt → Receipt} (hf : ∀ row, (f row).key = row.key)
    (key : ReceiptKey) (rows : List Receipt) :
    (logOf Receipt.key key (rows.map f)).length = (logOf Receipt.key key rows).length := by
  unfold logOf
  rw [List.filter_map, List.length_map]
  congr 2
  funext row
  simp [hf]

theorem ServerOk.storeReceiptAck (h : ServerOk calls server) {ack : Ack}
    (happlied : server.stage tx = .applied ack) :
    ServerOk calls (server.storeReceiptAck tx (calls tx) ack) := by
  have hbefore := h.stages tx
  rw [happlied] at hbefore
  obtain ⟨hpending, howner, hunclaimed⟩ := hbefore
  have hself : (server.storeReceiptAck tx (calls tx) ack).stage tx = .answered ack :=
    update_self ..
  have hlocal : Local calls server tx (server.storeReceiptAck tx (calls tx) ack) :=
    { stage := fun _ hother => update_of_ne hother _ _
      events := fun _ _ => rfl
      pending := fun _ hother => update_of_ne hother _ _
      owner := fun _ _ _ => Iff.rfl
      kept := fun _ hrow => hrow
      added := fun _ hrow => .inl hrow }
  have hkey : ∀ row : Receipt,
      (if row.key = (calls tx).key then { row with streamSeqs := ack } else row).key = row.key := by
    intro row
    split <;> rfl
  have hunique : Sound Receipt.key AtMostOne
      (server.storeReceiptAck tx (calls tx) ack).receipts := by
    refine h.unique.amend hkey fun key _ hlog => ?_
    show (logOf Receipt.key key (_ ++ _)).length ≤ 1
    rw [logOf_append, List.length_append, length_logOf_map hkey, ← List.length_append, ← logOf_append]
    exact hlog
  refine h.of_local hlocal hunique ?_ (fun key howner => ?_) (fun _ hrow => .inl hrow)
    (fun _ hevent => .inl hevent) (h.own tx)
  · rw [hself]
    refine .inl ⟨?_, howner, hunclaimed⟩
    show update server.receipts.pending tx _ tx = _
    rw [update_self, hpending]
    show [if (calls tx).key = (calls tx).key then _ else _] = _
    rw [if_pos rfl]
    rfl
  · rw [hself]
    exact ⟨(h.holders key tx howner).1, trivial⟩

/-- A call that has not answered has no receipt that is committed. -/
theorem ServerOk.unclaimed (h : ServerOk calls server)
    (hrunning : server.stage tx ∈ [.begun, .streamLocked, .claimed] ∨
      ∃ ack, server.stage tx = .applied ack) : Unclaimed server.receipts tx := by
  have hbefore := h.stages tx
  rcases hrunning with hmem | ⟨ack, happlied⟩
  · simp only [List.mem_cons, List.not_mem_nil, or_false] at hmem
    rcases hmem with hstage | hstage | hstage
    · rw [hstage] at hbefore
      exact hbefore.2
    · rw [hstage] at hbefore
      exact hbefore.2
    · rw [hstage] at hbefore
      exact hbefore.1.2.2
  · rw [happlied] at hbefore
    exact hbefore.2.2

theorem ServerOk.step (h : ServerOk calls server) (hstep : Step calls server tx next) :
    ServerOk calls next := by
  have hlost : ∀ ack, Outcome.lost ≠ .ok ack := fun _ => by simp
  have hrejected : ∀ reject ack, Outcome.rejected reject ≠ .ok ack := fun _ _ => by simp
  cases hstep with
  | begin hidle =>
    have hbefore := h.stages tx
    rw [hidle] at hbefore
    exact h.goto hbefore fun hopen => absurd hopen (by rw [hidle]; exact id)
  | lockStream hbegun => exact h.lockStream hbegun
  | claimOrReplay hlocked hfree => exact h.claimOrReplay hlocked hfree
  | refuse hclaimed =>
    exact h.rollback (hrejected _) fun _ _ => h.unclaimed (.inl (by rw [hclaimed]; simp))
  | apply hclaimed events ack hown => exact h.apply hclaimed (fun e he => (hown e he).2) ack
  | storeReceiptAck happlied => exact h.storeReceiptAck happlied
  | commit hanswered => exact h.commit hanswered (.inl rfl)
  | commitLost hanswered => exact h.commit hanswered (.inr rfl)
  | statementFails hrunning => exact h.rollback (hrejected _) fun _ _ => h.unclaimed hrunning
  | cancel => exact h.rollback hlost fun _ heq => absurd heq (by simp)

theorem ServerOk.reachable (h : Relation.ReflTransGen (Next calls) ({} : Server Event) server) :
    ServerOk calls server :=
  Steps.preserved (ServerOk calls) (fun _ _ ⟨_, hstep⟩ hok => hok.step hstep) h ServerOk.empty

/-! ## What callers see -/

/-- The call has committed events. -/
def Appended (server : Server Event) (tx : Nat) : Prop :=
  ∃ event ∈ server.streams.rows, event.xmin = tx

/-- Another command has the call's receipt. -/
def Conflicting (calls : Nat → Call) (server : Server Event) (tx : Nat) : Prop :=
  ∃ row ∈ server.receipts.rows, row.key = (calls tx).key ∧
    row.commandFingerprint ≠ (calls tx).commandFingerprint

theorem ServerOk.appended (h : ServerOk calls server) (happended : Appended server tx) :
    ∃ row ∈ server.receipts.rows, row.xmin = tx ∧ row.key = (calls tx).key ∧
      row.commandFingerprint = (calls tx).commandFingerprint := by
  obtain ⟨event, hevent, rfl⟩ := happended
  obtain ⟨row, hrow, hxmin⟩ := h.events event hevent
  obtain ⟨hkey, hfingerprint⟩ := h.claims row hrow
  rw [hxmin] at hkey hfingerprint
  exact ⟨row, hrow, hxmin, hkey, hfingerprint⟩

/-- A call whose receipt another command has appends nothing and does not succeed. -/
theorem ServerOk.conflicting (h : ServerOk calls server) (hconflict : Conflicting calls server tx) :
    ¬ Appended server tx ∧ ∀ ack, server.stage tx ≠ .ended (.ok ack) := by
  obtain ⟨row, hrow, hkey, hfingerprint⟩ := hconflict
  constructor
  · intro happended
    obtain ⟨mine, hmine, -, hmineKey, hmineFingerprint⟩ := h.appended happended
    rw [h.same_row hmine hrow (hmineKey.trans hkey.symm)] at hmineFingerprint
    exact hfingerprint hmineFingerprint
  · intro ack hstage
    have hbefore := h.stages tx
    rw [hstage] at hbefore
    obtain ⟨-, acked, hacked, hackedKey, hackedFingerprint, -⟩ := hbefore
    rw [h.same_row hacked hrow (hackedKey.trans hkey.symm)] at hackedFingerprint
    exact hfingerprint hackedFingerprint

/-- Another call's step leaves a call where it is, and receipts stay. -/
theorem Step.frame (h : Step calls server tx next) :
    (∀ other, other ≠ tx → next.stage other = server.stage other) ∧
      ∀ row ∈ server.receipts.rows, row ∈ next.receipts.rows := by
  have hstage : ∀ stage other, other ≠ tx → update server.stage tx stage other = server.stage other :=
    fun stage _ hother => update_of_ne hother _ _
  cases h with
  | claimOrReplay =>
    unfold Server.claimOrReplay
    split
    case h_1 => exact ⟨hstage _, fun _ hrow => hrow⟩
    case h_2 =>
      split
      case isTrue | isFalse => exact ⟨hstage _, fun _ hrow => hrow⟩
  | commit | commitLost => exact ⟨hstage _, fun _ hrow => List.mem_append_left _ hrow⟩
  | begin
  | lockStream
  | refuse
  | apply
  | storeReceiptAck
  | statementFails
  | cancel => exact ⟨hstage _, fun _ hrow => hrow⟩

/-- A call that has yet to claim, or has been turned away. -/
def TurnedAway (stage : Stage) : Prop :=
  stage ∈ [.idle, .begun, .streamLocked, .ended (.rejected .commandIdConflict),
    .ended (.rejected .internal), .ended .lost]

theorem ServerOk.turned_away (h : ServerOk calls server) (hstep : Next calls server next)
    (hconflict : Conflicting calls server tx) (hstage : TurnedAway (server.stage tx)) :
    TurnedAway (next.stage tx) := by
  obtain ⟨actor, hstep⟩ := hstep
  by_cases hactor : tx = actor
  · subst hactor
    have hmoved : ∀ stage, TurnedAway stage → TurnedAway (update server.stage tx stage tx) := by
      intro stage haway
      rw [update_self]
      exact haway
    cases hstep with
    | begin => exact hmoved .begun (by simp [TurnedAway])
    | lockStream => exact hmoved .streamLocked (by simp [TurnedAway])
    | claimOrReplay hlocked =>
      obtain ⟨row, hrow, hkey, hfingerprint⟩ := hconflict
      have hclean := h.stages tx
      rw [hlocked] at hclean
      have hvisible : server.receipts.visible tx = server.receipts.rows := by
        unfold Table.visible
        rw [hclean.1.1, List.append_nil]
      have hfound : server.receipt? tx (calls tx).key = some row := by
        cases hfind : server.receipt? tx (calls tx).key with
        | none =>
          have hnot := List.find?_eq_none.1 hfind row (by rw [hvisible]; exact hrow)
          exact absurd (decide_eq_true hkey) hnot
        | some other =>
          have hother := List.mem_of_find?_eq_some hfind
          have hotherKey := List.find?_some hfind
          rw [hvisible] at hother
          rw [h.same_row hother hrow ((of_decide_eq_true hotherKey).trans hkey.symm)]
      unfold Server.claimOrReplay
      rw [hfound]
      dsimp only
      rw [if_pos hfingerprint]
      exact hmoved (.ended (.rejected .commandIdConflict)) (by simp [TurnedAway])
    | refuse hclaimed | apply hclaimed => exact absurd hstage (by rw [hclaimed]; simp [TurnedAway])
    | storeReceiptAck happlied => exact absurd hstage (by rw [happlied]; simp [TurnedAway])
    | commit hanswered | commitLost hanswered => exact absurd hstage (by rw [hanswered]; simp [TurnedAway])
    | statementFails =>
      exact hmoved (.ended (.rejected .internal)) (by simp [TurnedAway])
    | cancel => exact hmoved (.ended .lost) (by simp [TurnedAway])
  · rw [hstep.frame.1 tx hactor]
    exact hstage

/-- It stays so for the rest of the run. -/
theorem ServerOk.stays_away {later : Server Event} (h : ServerOk calls server)
    (hconflict : Conflicting calls server tx) (hstage : TurnedAway (server.stage tx))
    (hrun : Relation.ReflTransGen (Next calls) server later) :
    ¬ Appended later tx ∧ TurnedAway (later.stage tx) := by
  have hlater : ServerOk calls later ∧ Conflicting calls later tx ∧ TurnedAway (later.stage tx) := by
    refine Steps.preserved (fun server => ServerOk calls server ∧ Conflicting calls server tx ∧
      TurnedAway (server.stage tx)) ?_ hrun ⟨h, hconflict, hstage⟩
    rintro a b hstep ⟨hok, ⟨row, hrow, hrest⟩, haway⟩
    have haway' := hok.turned_away hstep ⟨row, hrow, hrest⟩ haway
    obtain ⟨actor, hstep⟩ := hstep
    exact ⟨hok.step hstep, ⟨row, hstep.frame.2 row hrow, hrest⟩, haway'⟩
  exact ⟨(hlater.1.conflicting hlater.2.1).1, hlater.2.2⟩

/-- Where every other call of the key was refused or has not begun, the call claims the key. -/
theorem ServerOk.claims_alone (h : ServerOk calls server) (hlocked : server.stage tx = .streamLocked)
    (halone : ∀ other, other ≠ tx → (calls other).key = (calls tx).key →
      server.stage other = .idle ∨ ∃ reject, server.stage other = .ended (.rejected reject)) :
    ∃ next, Step calls server tx next ∧ next.stage tx = .claimed := by
  have hmine := h.stages tx
  rw [hlocked] at hmine
  have hfree : server.receipts.Free tx (calls tx).key := by
    cases howner : server.receipts.owner (calls tx).key with
    | none => exact .inl howner
    | some holder =>
      obtain ⟨hkey, hopen⟩ := h.holders _ _ howner
      by_cases hholder : holder = tx
      · subst hholder
        exact .inr howner
      · rcases halone holder hholder hkey with hidle | ⟨reject, hrejected⟩
        · rw [hidle] at hopen
          exact absurd hopen id
        · rw [hrejected] at hopen
          exact absurd hopen id
  have hnone : server.receipt? tx (calls tx).key = none := by
    refine List.find?_eq_none.2 fun row hrow hkey => ?_
    unfold Table.visible at hrow
    rw [hmine.1.1, List.append_nil] at hrow
    have hxmin : row.xmin ≠ tx := hmine.2 row hrow
    have hother := h.stages row.xmin
    rcases halone row.xmin hxmin ((h.claims row hrow).1.symm.trans (of_decide_eq_true hkey)) with
      hidle | ⟨reject, hrejected⟩
    · rw [hidle] at hother
      exact hother.2 row hrow rfl
    · rw [hrejected] at hother
      exact hother.2 row hrow rfl
  refine ⟨_, .claimOrReplay hlocked hfree, ?_⟩
  unfold Server.claimOrReplay
  rw [hnone]
  exact update_self ..

end Invariant

/-- In every run of any number of calls: with one key at most one appends; all that succeed answer the
same; one whose key another command has is turned away; and one that is refused leaves no receipt, so
that the next one claims the key. -/
theorem commands_run_once {calls : Nat → Call} {server : Server Event}
    (h : Relation.ReflTransGen (Next calls) {} server) :
    (∀ i j, (calls i).key = (calls j).key → Appended server i → Appended server j → i = j) ∧
    (∀ i j a b, (calls i).key = (calls j).key → server.stage i = .ended (.ok a) →
      server.stage j = .ended (.ok b) → a = b) ∧
    ((∀ i j a, (calls i).key = (calls j).key → (calls i).commandFingerprint ≠ (calls j).commandFingerprint →
        server.stage j = .ended (.ok a) → Conflicting calls server i) ∧
      ∀ i, Conflicting calls server i → (¬ Appended server i ∧ ∀ a, server.stage i ≠ .ended (.ok a)) ∧
        (server.stage i ∈ [.idle, .begun, .streamLocked] → ∀ later,
          Relation.ReflTransGen (Next calls) server later →
            ¬ Appended later i ∧ TurnedAway (later.stage i))) ∧
    (∀ i reject, server.stage i = .ended (.rejected reject) →
      ¬ Appended server i ∧ Unclaimed server.receipts i) ∧
    ∀ i, server.stage i = .streamLocked → (∀ j, j ≠ i → (calls j).key = (calls i).key →
        server.stage j = .idle ∨ ∃ reject, server.stage j = .ended (.rejected reject)) →
      ∃ next, Step calls server i next ∧ next.stage i = .claimed := by
  have hok := ServerOk.reachable h
  have hacked : ∀ i a, server.stage i = .ended (.ok a) → Acked (calls i) server.receipts a := by
    intro i a hi
    have hstage := hok.stages i
    rw [hi] at hstage
    exact hstage.2
  refine ⟨fun i j hkey hi hj => ?_, fun i j a b hkey hi hj => ?_,
    ⟨fun i j a hkey hfingerprint hj => ?_, fun i hconflict => ⟨hok.conflicting hconflict, ?_⟩⟩,
    fun i reject hi => ?_, fun i hi halone => hok.claims_alone hi halone⟩
  · obtain ⟨row, hrow, rfl, hrowKey, -⟩ := hok.appended hi
    obtain ⟨row', hrow', rfl, hrowKey', -⟩ := hok.appended hj
    rw [hok.same_row hrow hrow' (hrowKey.trans (hkey.trans hrowKey'.symm))]
  · obtain ⟨row, hrow, hrowKey, -, rfl⟩ := hacked i a hi
    obtain ⟨row', hrow', hrowKey', -, rfl⟩ := hacked j b hj
    rw [hok.same_row hrow hrow' (hrowKey.trans (hkey.trans hrowKey'.symm))]
  · obtain ⟨row, hrow, hrowKey, hrowFingerprint, -⟩ := hacked j a hj
    exact ⟨row, hrow, hrowKey.trans hkey.symm, fun heq =>
      hfingerprint (heq.symm.trans hrowFingerprint)⟩
  · intro hbefore later hrun
    refine hok.stays_away hconflict ?_ hrun
    simp only [List.mem_cons, List.not_mem_nil, or_false] at hbefore
    rcases hbefore with hstage | hstage | hstage
    · rw [hstage]; simp [TurnedAway]
    · rw [hstage]; simp [TurnedAway]
    · rw [hstage]; simp [TurnedAway]
  · have hstage := hok.stages i
    rw [hi] at hstage
    refine ⟨fun happended => ?_, hstage.2⟩
    obtain ⟨row, hrow, hxmin, -⟩ := hok.appended happended
    exact hstage.2 row hrow hxmin

/-- No event is committed without its receipt: of the key of its call there is one, and it is the call's own. -/
theorem events_receipted {calls : Nat → Call} {server : Server Event}
    (h : Relation.ReflTransGen (Next calls) {} server) : ∀ event ∈ server.streams.rows,
      ∃ row ∈ server.receipts.rows, row.xmin = event.xmin ∧
        row.commandFingerprint = (calls event.xmin).commandFingerprint ∧
        ∀ other ∈ server.receipts.rows, other.key = (calls event.xmin).key ↔ other = row := by
  intro event hevent
  have hok := ServerOk.reachable h
  obtain ⟨row, hrow, hxmin, hkey, hfingerprint⟩ := hok.appended ⟨event, hevent, rfl⟩
  exact ⟨row, hrow, hxmin, hfingerprint, fun other hother =>
    ⟨fun hsame => hok.same_row hother hrow (hsame.trans hkey.symm), fun heq => heq ▸ hkey⟩⟩

/-! ## A run -/

/-- A command, its repetition, and another one under its id. -/
def repeated (tx : Nat) : Call where
  key := ⟨11, 7⟩
  commandFingerprint := if tx < 2 then [1] else [2]
  game := 1

/-- The first call runs the command. -/
def ran : Server Unit :=
  (((((({} : Server Unit).goto 0 .begun).lockStream 0 (repeated 0)).claimOrReplay 0 (repeated 0)).apply
    0 [⟨1, 1, (), 0⟩] [1]).storeReceiptAck 0 (repeated 0) [1]).commit 0 (.ok [1])

/-- The second answers from the receipt. -/
def replayed : Server Unit :=
  (((ran.goto 1 .begun).lockStream 1 (repeated 1)).claimOrReplay 1 (repeated 1)).commit 1 (.ok [1])

/-- The third is refused. -/
def conflicted : Server Unit :=
  ((replayed.goto 2 .begun).lockStream 2 (repeated 2)).claimOrReplay 2 (repeated 2)

theorem conflicted_reached : Relation.ReflTransGen (Next repeated) {} conflicted := by
  have hran : Relation.ReflTransGen (Next repeated) {} ran :=
    ((((((Relation.ReflTransGen.refl.tail ⟨0, .begin rfl⟩).tail
      ⟨0, .lockStream rfl (.inl rfl)⟩).tail ⟨0, .claimOrReplay rfl (.inl rfl)⟩).tail
      ⟨0, .apply rfl [⟨1, 1, (), 0⟩] [1] (by simp [repeated])⟩).tail
      ⟨0, .storeReceiptAck rfl⟩).tail ⟨0, .commit rfl⟩)
  have hreplayed : Relation.ReflTransGen (Next repeated) ran replayed :=
    (((Relation.ReflTransGen.refl.tail ⟨1, .begin rfl⟩).tail
      ⟨1, .lockStream rfl (.inl rfl)⟩).tail ⟨1, .claimOrReplay rfl (.inl rfl)⟩).tail
      ⟨1, .commit rfl⟩
  have hconflicted : Relation.ReflTransGen (Next repeated) replayed conflicted :=
    ((Relation.ReflTransGen.refl.tail ⟨2, .begin rfl⟩).tail
      ⟨2, .lockStream rfl (.inl rfl)⟩).tail ⟨2, .claimOrReplay rfl (.inl rfl)⟩
  exact (hran.trans hreplayed).trans hconflicted

theorem conflicted_runs_once :
    (conflicted.stage 0 = .ended (.ok [1]) ∧ conflicted.stage 1 = .ended (.ok [1]) ∧
      conflicted.stage 2 = .ended (.rejected .commandIdConflict) ∧ Appended conflicted 0) ∧
    (∀ i j, (repeated i).key = (repeated j).key → Appended conflicted i → Appended conflicted j →
      i = j) ∧ Unclaimed conflicted.receipts 2 := by
  have honce := commands_run_once conflicted_reached
  exact ⟨⟨rfl, rfl, rfl, ⟨1, 1, (), 0⟩, List.mem_singleton_self _, rfl⟩, honce.1,
    (honce.2.2.2.1 2 .commandIdConflict rfl).2⟩

theorem conflicted_receipted : ∃ row ∈ conflicted.receipts.rows, row.xmin = 0 :=
  have ⟨row, hrow, hxmin, _⟩ := events_receipted conflicted_reached ⟨1, 1, (), 0⟩ (List.mem_singleton_self _)
  ⟨row, hrow, hxmin⟩

end Fmarch.Commands.Receipts
