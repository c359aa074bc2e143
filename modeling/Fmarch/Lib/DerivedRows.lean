import Mathlib.Data.List.Infix
import Mathlib.Logic.Relation

/-!
# Rows derived from a log, in transactions

A log of events, and rows that a fold makes of them, in one database. Any number of transactions append to
the log and write what the new events make, or rebuild the rows: read the log, clear the rows, and write
what every event makes. The statements of the transactions interleave. A statement sees what is committed
when it runs, with the writes of its own transaction over it; the rows it writes it keeps locked until its
transaction ends. An append holds the log's lock from before it reads the log's length; a rebuild takes it
only if it is fenced. A transaction may fail at any statement, and then leaves nothing.

**`rows_derived`**: the committed rows are the fold of the committed log, in every state of every run in
which an unfenced rebuild never writes the root row when an append has been committed since it read the
log. Of fenced rebuilds nothing is asked.
-/

namespace DerivedRows

open Function (update update_self update_of_ne)

open Relation

/-! ## Statements -/

/-- An event in the log. -/
structure Entry (Event : Type) where
  seq : Int
  revision : Nat
  event : Event

section Statements

variable {Key Row : Type}

/-- A write: the rows it writes, inserts or deletes, which it locks, and what they are then. It may fail. -/
structure Write (Key Row : Type) where
  touches : (Key → Option Row) → Key → Bool
  run : (Key → Option Row) → Option (Key → Option Row)

/-- A statement: one that waits for the lock of what the transaction reads besides, or a write. -/
inductive Statement (Key Row : Type) where
  | hold (resource : Nat)
  | write (write : Write Key Row)

/-- The rows after a write that leaves `after` where it writes. -/
def Write.over (write : Write Key Row) (rows after : Key → Option Row) : Key → Option Row := fun key =>
  if write.touches rows key then after key else rows key

/-- The rows after a write. -/
def Write.apply (write : Write Key Row) (rows : Key → Option Row) : Option (Key → Option Row) :=
  (write.run rows).map (write.over rows)

/-- The rows after a statement. -/
def Statement.apply (rows : Key → Option Row) : Statement Key Row → Option (Key → Option Row)
  | .hold _ => some rows
  | .write change => change.apply rows

/-- The rows after some statements. -/
def runAll (statements : List (Statement Key Row)) (rows : Key → Option Row) : Option (Key → Option Row) :=
  statements.foldlM Statement.apply rows

@[simp] theorem runAll_nil (rows : Key → Option Row) : runAll [] rows = some rows := rfl

theorem runAll_cons (statement : Statement Key Row) (statements : List (Statement Key Row))
    (rows : Key → Option Row) :
    runAll (statement :: statements) rows = (statement.apply rows).bind (runAll statements) :=
  List.foldlM_cons

theorem runAll_write {write : Write Key Row} {rows after : Key → Option Row}
    (h : write.run rows = some after) (statements : List (Statement Key Row)) :
    runAll (.write write :: statements) rows = runAll statements (write.over rows after) := by
  rw [runAll_cons]
  simp [Statement.apply, Write.apply, h]

theorem runAll_append (first second : List (Statement Key Row)) (rows : Key → Option Row) :
    runAll (first ++ second) rows = (runAll first rows).bind (runAll second) :=
  List.foldlM_append

end Statements

/-! ## Programs -/

/-- How a log's rows are made, and made again. The logs are `lawful` as they are appended; a rebuild of one
that does not begin as it should does nothing; and `root` is the row that every event writes, as far as the
rebuild is not fenced. -/
structure Program (Event Key Row : Type) where
  fold : Entry Event → List (Statement Key Row)
  clear : List (Entry Event) → List (Statement Key Row)
  begins : List (Entry Event) → Bool
  fenced : Bool
  root : Key
  lawful : List (Entry Event) → Prop

namespace Program

variable {Event Key Row : Type} (program : Program Event Key Row)

/-- The rows the fold makes of a log. -/
def rowsOf (log : List (Entry Event)) : Option (Key → Option Row) :=
  runAll (log.flatMap program.fold) fun _ => none

/-- The statements of a rebuild that has read the log. -/
def rebuildStatements (log : List (Entry Event)) : List (Statement Key Row) :=
  program.clear log ++ log.flatMap program.fold

theorem rowsOf_append (log more : List (Entry Event)) :
    program.rowsOf (log ++ more) = (program.rowsOf log).bind (runAll (more.flatMap program.fold)) := by
  unfold rowsOf
  rw [List.flatMap_append, runAll_append]

/-- A write that always writes the root row. -/
def RootWrite (statement : Statement Key Row) : Prop :=
  ∃ write, statement = .write write ∧ ∀ rows, write.touches rows program.root = true

/-- What makes a rebuild repeat itself: over the rows of the log it gives them again; and if it is not
fenced, there is an event in what it folds, and every event writes the root. -/
structure Replays : Prop where
  nothing : program.lawful []
  replay : ∀ log rows, program.lawful log → program.begins log = true → program.rowsOf log = some rows →
    runAll (program.rebuildStatements log) rows = some rows
  begun : program.fenced = false → program.begins [] = false
  rooted : program.fenced = false → ∀ entry, ∃ statement ∈ program.fold entry, program.RootWrite statement

/-- A rebuild that clears the rows of the log repeats itself. -/
theorem replays_of_clears (hnothing : program.lawful [])
    (hclear : ∀ log rows, program.rowsOf log = some rows →
      runAll (program.clear log) rows = some fun _ => none)
    (hfenced : program.fenced = true) : program.Replays where
  nothing := hnothing
  replay log rows _ _ hrows := by
    unfold rebuildStatements
    rw [runAll_append, hclear log rows hrows]
    exact hrows
  begun hunfenced := absurd hfenced (by simp [hunfenced])
  rooted hunfenced := absurd hfenced (by simp [hunfenced])

end Program

/-! ## The database -/

/-- The locks: of the log, of what the transactions read besides, and of each row. -/
inductive Lock (Key : Type) where
  | log
  | other (resource : Nat)
  | row (key : Key)
  deriving DecidableEq

/-- What a transaction is asked to do. -/
inductive Call (Event : Type) where
  | append (expected : Option Nat) (events : List Event)
  | rebuild

/-- Where a transaction is. A rebuild keeps the log it has read. -/
inductive Phase (Event Key Row : Type) where
  | idle
  | locking (call : Call Event)
  | reading (call : Call Event)
  | inserting (base : Nat) (rest : List Event) (stored : List (Entry Event))
  | running (rest : List (Statement Key Row)) (loaded : Option (List (Entry Event)))

/-- What is committed, who holds each lock, and of each transaction the events and rows it wrote and where
it is. -/
structure Db (Event Key Row : Type) where
  log : List (Entry Event) := []
  rows : Key → Option Row := fun _ => none
  owner : Lock Key → Option Nat := fun _ => none
  own : Nat → List (Entry Event) := fun _ => []
  overlay : Nat → Key → Option (Option Row) := fun _ _ => none
  phase : Nat → Phase Event Key Row := fun _ => .idle

namespace Db

variable {Event Key Row : Type} (db : Db Event Key Row) (tx : Nat)

/-- The rows a transaction sees. -/
def view : Key → Option Row := fun key => (db.overlay tx key).getD (db.rows key)

/-- The log a transaction sees. -/
def seen : List (Entry Event) := db.log ++ db.own tx

/-- The transaction goes on. -/
def goto (phase : Phase Event Key Row) : Db Event Key Row :=
  { db with phase := update db.phase tx phase }

/-- The lock is free, or the transaction's own. -/
def Free (lock : Lock Key) : Prop := db.owner lock = none ∨ db.owner lock = some tx

/-- The transaction takes a lock. -/
def acquire [DecidableEq Key] (lock : Lock Key) : Db Event Key Row :=
  { db with owner := update db.owner lock (some tx) }

/-- The transaction writes an event. -/
def insert (entry : Entry Event) : Db Event Key Row :=
  { db with own := update db.own tx (db.own tx ++ [entry]) }

/-- The locks of the rows the transaction writes. -/
def writeOwner (touches : Key → Bool) : Lock Key → Option Nat
  | .row key => if touches key then some tx else db.owner (.row key)
  | lock => db.owner lock

/-- The transaction writes rows, and locks them. -/
def writeRows (touches : Key → Bool) (after : Key → Option Row) : Db Event Key Row :=
  { db with
    owner := db.writeOwner tx touches
    overlay := update db.overlay tx fun key =>
      if touches key then some (after key) else db.overlay tx key }

/-- The transaction ends with this log and these rows committed. -/
def finish (log : List (Entry Event)) (rows : Key → Option Row) : Db Event Key Row where
  log := log
  rows := rows
  owner lock := if db.owner lock = some tx then none else db.owner lock
  own := update db.own tx []
  overlay := update db.overlay tx fun _ => none
  phase := update db.phase tx .idle

def commit : Db Event Key Row := db.finish tx (db.seen tx) (db.view tx)

/-- `ROLLBACK`. -/
def abort : Db Event Key Row := db.finish tx db.log db.rows

/-- Nothing is written by the transaction. -/
def Clean : Prop := db.own tx = [] ∧ ∀ key, db.overlay tx key = none

end Db

/-! ## Steps -/

section Steps

variable {Event Key Row : Type} [DecidableEq Key] (program : Program Event Key Row)

/-- One statement of a transaction, or its end. -/
inductive Step (tx : Nat) : Db Event Key Row → Db Event Key Row → Prop where
  | append {db : Db Event Key Row} {expected : Option Nat} {events : List Event}
      (idle : db.phase tx = .idle) (some : events ≠ []) :
      Step tx db (db.goto tx (.locking (.append expected events)))
  | rebuild {db : Db Event Key Row} (idle : db.phase tx = .idle) (begun : db.Clean tx) :
      Step tx db (db.goto tx (if program.fenced then .locking .rebuild else .reading .rebuild))
  | lock {db : Db Event Key Row} {call : Call Event} (at_ : db.phase tx = .locking call)
      (free : db.Free tx .log) : Step tx db ((db.acquire tx .log).goto tx (.reading call))
  | readLength {db : Db Event Key Row} {expected : Option Nat} {events : List Event}
      (at_ : db.phase tx = .reading (.append expected events))
      (current : ∀ length ∈ expected, length = (db.seen tx).length) :
      Step tx db (db.goto tx (.inserting (db.seen tx).length events []))
  | insert {db : Db Event Key Row} {base : Nat} {event : Event} {rest : List Event}
      {stored : List (Entry Event)} (at_ : db.phase tx = .inserting base (event :: rest) stored)
      (seq : Int) :
      Step tx db ((db.insert tx ⟨seq, base + 1 + stored.length, event⟩).goto tx
        (.inserting base rest (stored ++ [⟨seq, base + 1 + stored.length, event⟩])))
  | inserted {db : Db Event Key Row} {base : Nat} {stored : List (Entry Event)}
      (at_ : db.phase tx = .inserting base [] stored) (lawful : program.lawful (db.seen tx)) :
      Step tx db (db.goto tx (.running (stored.flatMap program.fold) none))
  | load {db : Db Event Key Row} (at_ : db.phase tx = .reading .rebuild)
      (begun : program.begins (db.seen tx) = true) :
      Step tx db (db.goto tx (.running (program.rebuildStatements (db.seen tx)) (some (db.seen tx))))
  | hold {db : Db Event Key Row} {resource : Nat} {rest : List (Statement Key Row)}
      {loaded : Option (List (Entry Event))}
      (at_ : db.phase tx = .running (.hold resource :: rest) loaded) (free : db.Free tx (.other resource)) :
      Step tx db ((db.acquire tx (.other resource)).goto tx (.running rest loaded))
  | write {db : Db Event Key Row} {write : Write Key Row} {rest : List (Statement Key Row)}
      {loaded : Option (List (Entry Event))} {after : Key → Option Row}
      (at_ : db.phase tx = .running (.write write :: rest) loaded)
      (free : ∀ key, write.touches (db.view tx) key = true → db.Free tx (.row key))
      (run : write.run (db.view tx) = some after) :
      Step tx db ((db.writeRows tx (write.touches (db.view tx)) after).goto tx (.running rest loaded))
  | done {db : Db Event Key Row} {loaded : Option (List (Entry Event))}
      (at_ : db.phase tx = .running [] loaded) : Step tx db (db.goto tx .idle)
  | commit {db : Db Event Key Row} (idle : db.phase tx = .idle) : Step tx db (db.commit tx)
  | abort {db : Db Event Key Row} : Step tx db (db.abort tx)

/-- No append has been committed since the transaction's rebuild read the log, if what it does now is to
write the root. -/
def Current (tx : Nat) (db : Db Event Key Row) : Prop :=
  ∀ write rest loaded, db.phase tx = .running (.write write :: rest) (some loaded) →
    write.touches (db.view tx) program.root = true → db.log = loaded

/-- A step of some transaction; an unfenced rebuild writes the root only of a log it has read to the
end. -/
def CurrentStep (db db' : Db Event Key Row) : Prop :=
  ∃ tx, Step program tx db db' ∧ (program.fenced = false → Current program tx db)

end Steps

/-! ## What every state keeps -/

section Laws

variable {Event Key Row : Type} {program : Program Event Key Row} {db db' : Db Event Key Row}
  {tx other : Nat}

/-- The lock whose holder no commit of another transaction can overtake. -/
def Program.guard (program : Program Event Key Row) : Lock Key :=
  if program.fenced then .log else .row program.root

/-- The rows a transaction sees once it is through with its remaining statements. -/
def Settles (program : Program Event Key Row) (db : Db Event Key Row) (tx : Nat)
    (rest : List (Statement Key Row)) (log : List (Entry Event)) : Prop :=
  runAll rest (db.view tx) = program.rowsOf log

/-- The guard is held, or the write of the root is still to come. -/
def Guarded (program : Program Event Key Row) (db : Db Event Key Row) (tx : Nat)
    (rest : List (Statement Key Row)) : Prop :=
  db.owner program.guard = some tx ∨ ∃ statement ∈ rest, program.RootWrite statement

/-- A transaction between its calls sees the fold of the log it sees; one that wrote holds the guard. -/
structure Resting (program : Program Event Key Row) (db : Db Event Key Row) (tx : Nat) : Prop where
  settled : Settles program db tx [] (db.seen tx)
  lawful : program.lawful (db.seen tx)
  guarded : db.Clean tx ∨ db.owner program.guard = some tx

/-- What a call asks for: events to append, or a transaction that has written nothing before it rebuilds. -/
def Call.Admitted (db : Db Event Key Row) (tx : Nat) : Call Event → Prop
  | .append _ events => events ≠ []
  | .rebuild => db.Clean tx

/-- What a rebuild keeps while it runs. -/
structure Rebuilding (program : Program Event Key Row) (db : Db Event Key Row) (tx : Nat)
    (rest : List (Statement Key Row)) (loaded : List (Entry Event)) : Prop where
  own : db.own tx = []
  loads : loaded <+: db.log
  locked : program.fenced = true → db.owner .log = some tx
  fresh : db.owner program.guard = some tx → db.log = loaded
  settles : db.log = loaded → Settles program db tx rest loaded
  guarded : Guarded program db tx rest

/-- What a transaction keeps where it is. -/
def SoundAt (program : Program Event Key Row) (db : Db Event Key Row) (tx : Nat) : Phase Event Key Row → Prop
  | .idle => Resting program db tx
  | .locking call => Resting program db tx ∧ call.Admitted db tx
  | .reading call => Resting program db tx ∧ call.Admitted db tx ∧
      (call ≠ .rebuild ∨ program.fenced = true → db.owner .log = some tx)
  | .inserting _ rest stored => db.owner .log = some tx ∧ rest.length + stored.length ≠ 0 ∧
      ∃ before, db.seen tx = before ++ stored ∧ Settles program db tx [] before
  | .running rest none => db.owner .log = some tx ∧ Settles program db tx rest (db.seen tx) ∧
      program.lawful (db.seen tx) ∧ Guarded program db tx rest
  | .running rest (some loaded) => Rebuilding program db tx rest loaded

/-- What a transaction keeps. -/
structure Sound (program : Program Event Key Row) (db : Db Event Key Row) (tx : Nat) : Prop where
  locked : db.own tx ≠ [] → db.owner .log = some tx
  at_ : SoundAt program db tx (db.phase tx)

/-- The rows are the fold of the log, and every transaction is sound. -/
structure Derived (program : Program Event Key Row) (db : Db Event Key Row) : Prop where
  rows : program.rowsOf db.log = some db.rows
  lawful : program.lawful db.log
  sound : ∀ tx, Sound program db tx

/-- What a transaction sees and holds is as before. -/
structure SameFor (db db' : Db Event Key Row) (tx : Nat) : Prop where
  log : db'.log = db.log
  rows : db'.rows = db.rows
  own : db'.own tx = db.own tx
  overlay : db'.overlay tx = db.overlay tx
  phase : db'.phase tx = db.phase tx
  owner : ∀ lock, db'.owner lock = some tx ↔ db.owner lock = some tx

namespace SameFor

theorem trans {db'' : Db Event Key Row} (h : SameFor db db' tx) (h' : SameFor db' db'' tx) :
    SameFor db db'' tx :=
  ⟨h'.log.trans h.log, h'.rows.trans h.rows, h'.own.trans h.own, h'.overlay.trans h.overlay,
    h'.phase.trans h.phase, fun lock => (h'.owner lock).trans (h.owner lock)⟩

theorem view (h : SameFor db db' tx) : db'.view tx = db.view tx := by
  unfold Db.view
  rw [h.overlay, h.rows]

theorem seen (h : SameFor db db' tx) : db'.seen tx = db.seen tx := by
  unfold Db.seen
  rw [h.log, h.own]

theorem clean (h : SameFor db db' tx) (hclean : db.Clean tx) : db'.Clean tx := by
  unfold Db.Clean
  rw [h.own, h.overlay]
  exact hclean

variable {rest : List (Statement Key Row)}

theorem settles (h : SameFor db db' tx) {log : List (Entry Event)}
    (hsettles : Settles program db tx rest log) : Settles program db' tx rest log := by
  unfold Settles
  rw [h.view]
  exact hsettles

theorem guarded (h : SameFor db db' tx) (hguarded : Guarded program db tx rest) : Guarded program db' tx rest :=
  hguarded.imp (h.owner _).2 id

theorem resting (h : SameFor db db' tx) (hresting : Resting program db tx) : Resting program db' tx where
  settled := by
    rw [h.seen]
    exact h.settles hresting.settled
  lawful := by
    rw [h.seen]
    exact hresting.lawful
  guarded := hresting.guarded.imp h.clean (h.owner _).2

theorem rebuilding (h : SameFor db db' tx) {loaded : List (Entry Event)}
    (hrebuilding : Rebuilding program db tx rest loaded) : Rebuilding program db' tx rest loaded where
  own := h.own.trans hrebuilding.own
  loads := h.log ▸ hrebuilding.loads
  locked hfenced := (h.owner _).2 (hrebuilding.locked hfenced)
  fresh hheld := h.log.trans (hrebuilding.fresh ((h.owner _).1 hheld))
  settles hsame := h.settles (hrebuilding.settles (h.log.symm.trans hsame))
  guarded := h.guarded hrebuilding.guarded

end SameFor

theorem Call.Admitted.imp {call : Call Event} (h : call.Admitted db tx)
    (hclean : db.Clean tx → db'.Clean tx) : call.Admitted db' tx := by
  cases call with
  | append expected events => exact h
  | rebuild => exact hclean h

theorem SameFor.sound (h : SameFor db db' tx) (hsound : Sound program db tx) : Sound program db' tx := by
  obtain ⟨hlocked, hat⟩ := hsound
  refine ⟨fun hown => (h.owner _).2 (hlocked (h.own ▸ hown)), ?_⟩
  rw [h.phase]
  cases hphase : db.phase tx with
  | idle =>
    rw [hphase] at hat
    exact h.resting hat
  | locking call =>
    rw [hphase] at hat
    exact ⟨h.resting hat.1, hat.2.imp h.clean⟩
  | reading call =>
    rw [hphase] at hat
    exact ⟨h.resting hat.1, hat.2.1.imp h.clean, fun hneeds => (h.owner _).2 (hat.2.2 hneeds)⟩
  | inserting base rest stored =>
    rw [hphase] at hat
    obtain ⟨hheld, hcount, before, hseen, hsettles⟩ := hat
    exact ⟨(h.owner _).2 hheld, hcount, before, h.seen.trans hseen, h.settles hsettles⟩
  | running rest loaded =>
    rw [hphase] at hat
    cases loaded with
    | none =>
      obtain ⟨hheld, hsettles, hlawful, hguarded⟩ := hat
      refine ⟨(h.owner _).2 hheld, ?_, ?_, h.guarded hguarded⟩
      · rw [h.seen]
        exact h.settles hsettles
      · rw [h.seen]
        exact hlawful
    | some loaded => exact h.rebuilding hat

/-! ## Other transactions -/

theorem sameFor_goto (hne : other ≠ tx) (phase : Phase Event Key Row) : SameFor db (db.goto tx phase) other :=
  ⟨rfl, rfl, rfl, rfl, update_of_ne hne _ _, fun _ => Iff.rfl⟩

variable {lock : Lock Key} {after rows : Key → Option Row} {touches : Key → Bool}
   {log : List (Entry Event)} {rest : List (Statement Key Row)}
   {loaded : Option (List (Entry Event))} {base : Db Event Key Row}

theorem Db.Free.not_held (h : db.Free tx lock) (hne : other ≠ tx) : db.owner lock ≠ some other := by
  intro hother
  obtain hnone | hown := h
  · cases hnone.symm.trans hother
  · exact hne (Option.some.inj (hother.symm.trans hown))

/-- A lock that another transaction takes was not this one's. -/
theorem sameFor_acquire [DecidableEq Key] (hne : other ≠ tx) (hfree : db.Free tx lock) :
    SameFor db (db.acquire tx lock) other := by
  refine ⟨rfl, rfl, rfl, rfl, rfl, fun l => ?_⟩
  unfold Db.acquire
  dsimp only
  by_cases hl : l = lock
  · subst hl
    rw [update_self]
    constructor
    · intro h
      exact absurd (Option.some.inj h).symm hne
    · intro h
      exact absurd h (hfree.not_held hne)
  · rw [update_of_ne hl]

theorem sameFor_insert (hne : other ≠ tx) (entry : Entry Event) : SameFor db (db.insert tx entry) other :=
  ⟨rfl, rfl, update_of_ne hne _ _, rfl, rfl, fun _ => Iff.rfl⟩

theorem sameFor_writeRows (hne : other ≠ tx) (hfree : ∀ key, touches key = true → db.Free tx (.row key)) :
    SameFor db (db.writeRows tx touches after) other := by
  refine ⟨rfl, rfl, rfl, update_of_ne hne _ _, rfl, fun lock => ?_⟩
  cases lock with
  | log => exact Iff.rfl
  | other resource => exact Iff.rfl
  | row key =>
    change (if touches key then some tx else db.owner (.row key)) = some other ↔ _
    by_cases htouches : touches key = true
    · rw [if_pos htouches]
      constructor
      · intro h
        exact absurd (Option.some.inj h).symm hne
      · intro h
        exact absurd h ((hfree key htouches).not_held hne)
    · rw [if_neg htouches]

/-- A transaction that ends releases its own locks alone. -/
theorem sameFor_finish (hne : other ≠ tx) (hlog : log = db.log) (hrows : rows = db.rows) : SameFor db (db.finish tx log rows) other := by
  refine ⟨hlog, hrows, update_of_ne hne _ _, update_of_ne hne _ _, update_of_ne hne _ _, fun lock => ?_⟩
  unfold Db.finish
  dsimp only
  split
  case isTrue hown =>
    rw [hown]
    constructor
    · intro h
      cases h
    · intro h
      exact absurd (Option.some.inj h).symm hne
  case isFalse => exact Iff.rfl

/-! ## The transaction itself -/

/-- Where a transaction is is not in what its place asks of it. -/
theorem SoundAt.goto {place : Phase Event Key Row} (h : SoundAt program db tx place)
    (phase : Phase Event Key Row) : SoundAt program (db.goto tx phase) tx place := by
  have hresting : Resting program db tx → Resting program (db.goto tx phase) tx :=
    fun hresting => ⟨hresting.settled, hresting.lawful, hresting.guarded⟩
  cases place with
  | idle => exact hresting h
  | locking call => exact ⟨hresting h.1, h.2.imp id⟩
  | reading call => exact ⟨hresting h.1, h.2.1.imp id, h.2.2⟩
  | inserting base rest stored => exact h
  | running rest loaded =>
    cases loaded with
    | none => exact h
    | some loaded =>
      obtain ⟨hown, hloads, hlocked, hfresh, hsettles, hguarded⟩ := h
      exact ⟨hown, hloads, hlocked, hfresh, hsettles, hguarded⟩

theorem sound_goto {phase : Phase Event Key Row} (hown : db.own tx ≠ [] → db.owner .log = some tx)
    (h : SoundAt program db tx phase) : Sound program (db.goto tx phase) tx := by
  refine ⟨hown, ?_⟩
  have hphase : (db.goto tx phase).phase tx = phase := update_self _ _ _
  rw [hphase]
  exact h.goto phase

theorem owner_acquire_self [DecidableEq Key] (lock : Lock Key) : (db.acquire tx lock).owner lock = some tx :=
  update_self _ _ _

theorem owner_acquire_other [DecidableEq Key] {held : Lock Key} (hne : held ≠ lock) :
    (db.acquire tx lock).owner held = db.owner held :=
  update_of_ne hne _ _

theorem acquire_keeps [DecidableEq Key] {held : Lock Key} (h : db.owner held = some tx) :
    (db.acquire tx lock).owner held = some tx := by
  by_cases hl : held = lock
  · rw [hl]
    exact owner_acquire_self lock
  · exact (owner_acquire_other hl).trans h

theorem view_writeRows {write : Write Key Row} (after : Key → Option Row) :
    (db.writeRows tx (write.touches (db.view tx)) after).view tx = write.over (db.view tx) after := by
  funext key
  unfold Write.over
  unfold Db.view Db.writeRows
  simp only [update_self]
  split <;> rfl

theorem writeRows_keeps (h : db.owner lock = some tx) : (db.writeRows tx touches after).owner lock = some tx := by
  cases lock with
  | log => exact h
  | other resource => exact h
  | row key =>
    change (if touches key then some tx else db.owner (.row key)) = some tx
    split
    · rfl
    · exact h

/-- A write takes no lock but those of the rows it writes. -/
theorem owner_writeRows (h : (db.writeRows tx touches after).owner lock = some tx) :
    db.owner lock = some tx ∨ ∃ key, lock = .row key ∧ touches key = true := by
  cases lock with
  | log => exact .inl h
  | other resource => exact .inl h
  | row key =>
    by_cases htouches : touches key = true
    · exact .inr ⟨key, rfl, htouches⟩
    · left
      change (if touches key then some tx else db.owner (.row key)) = some tx at h
      rwa [if_neg htouches] at h

theorem owner_writeRows_self {key : Key} (h : touches key = true) : (db.writeRows tx touches after).owner (.row key) = some tx :=
  if_pos h

/-! ## Guards -/

/-- Statements that fold an event are guarded. -/
theorem guarded_fold (hprogram : program.Replays) (hlog : program.fenced = true → db.owner .log = some tx)
    (hne : program.fenced = false → log ≠ [])
    (hrest : ∀ statement ∈ log.flatMap program.fold, statement ∈ rest) : Guarded program db tx rest := by
  unfold Guarded Program.guard
  cases hfenced : program.fenced with
  | true => exact .inl (hlog hfenced)
  | false =>
    obtain ⟨entry, log, rfl⟩ := List.exists_cons_of_ne_nil (hne hfenced)
    obtain ⟨statement, hmem, hroot⟩ := hprogram.rooted hfenced entry
    exact .inr ⟨statement, hrest _ (List.mem_flatMap.2 ⟨entry, List.mem_cons_self, hmem⟩), hroot⟩

/-- After the write of the root the guard is held. -/
theorem Guarded.write {write : Write Key Row} (h : Guarded program db tx (.write write :: rest))
    (hfenced : program.fenced = true → db.owner .log = some tx) :
    Guarded program (db.writeRows tx (write.touches rows) after) tx rest := by
  obtain hheld | ⟨statement, hmem, hroot⟩ := h
  · exact .inl (writeRows_keeps hheld)
  · obtain rfl | hmem := List.mem_cons.1 hmem
    · obtain ⟨change, hchange, htouches⟩ := hroot
      obtain rfl := Statement.write.inj hchange
      left
      unfold Program.guard
      split
      case isTrue hf => exact writeRows_keeps (hfenced hf)
      case isFalse => exact owner_writeRows_self (htouches rows)
    · exact .inr ⟨statement, hmem, hroot⟩

/-- The lock of what is read besides is no guard. -/
theorem Guarded.hold [DecidableEq Key] {resource : Nat} (h : Guarded program db tx (.hold resource :: rest)) :
    Guarded program (db.acquire tx (.other resource)) tx rest := by
  obtain hheld | ⟨statement, hmem, hroot⟩ := h
  · exact .inl (acquire_keeps hheld)
  · obtain rfl | hmem := List.mem_cons.1 hmem
    · obtain ⟨write, hhold, -⟩ := hroot
      cases hhold
    · exact .inr ⟨statement, hmem, hroot⟩

theorem guard_ne_other (resource : Nat) : program.guard ≠ .other resource := by
  unfold Program.guard
  split <;> simp

/-! ## Steps -/

/-- A write keeps a running transaction sound. -/
theorem sound_write {write : Write Key Row} (hsound : Sound program db tx)
    (hat : db.phase tx = .running (.write write :: rest) loaded)
    (hrun : write.run (db.view tx) = some after)
    (hcurrent : program.fenced = false → Current program tx db) :
    Sound program ((db.writeRows tx (write.touches (db.view tx)) after).goto tx (.running rest loaded)) tx := by
  obtain ⟨hlocked, hsound⟩ := hsound
  rw [hat] at hsound
  have hsettles : ∀ log, Settles program db tx (.write write :: rest) log →
      Settles program (db.writeRows tx (write.touches (db.view tx)) after) tx rest log := by
    intro log hsettles
    unfold Settles at hsettles ⊢
    rw [view_writeRows, ← runAll_write hrun]
    exact hsettles
  refine sound_goto (fun hown => writeRows_keeps (hlocked hown)) ?_
  cases loaded with
  | none =>
    obtain ⟨hheld, hsettled, hlawful, hguarded⟩ := hsound
    exact ⟨writeRows_keeps hheld, hsettles _ hsettled, hlawful, hguarded.write fun _ => hheld⟩
  | some loaded =>
    obtain ⟨hown, hloads, hfenced, hfresh, hsettled, hguarded⟩ := hsound
    refine ⟨hown, hloads, fun hf => writeRows_keeps (hfenced hf), fun hheld => ?_,
      fun hsame => hsettles _ (hsettled hsame), hguarded.write hfenced⟩
    obtain hheld | ⟨key, hkey, htouches⟩ := owner_writeRows hheld
    · exact hfresh hheld
    · unfold Program.guard at hkey
      split at hkey
      case isTrue => cases hkey
      case isFalse hunfenced =>
        obtain rfl := Lock.row.inj hkey
        exact hcurrent (by simpa using hunfenced) write rest loaded hat htouches

/-- A lock of what is read besides keeps a running transaction sound. -/
theorem sound_hold [DecidableEq Key] {resource : Nat} (hsound : Sound program db tx)
    (hat : db.phase tx = .running (.hold resource :: rest) loaded) :
    Sound program ((db.acquire tx (.other resource)).goto tx (.running rest loaded)) tx := by
  obtain ⟨hlocked, hsound⟩ := hsound
  rw [hat] at hsound
  refine sound_goto (fun hown => acquire_keeps (hlocked hown)) ?_
  cases loaded with
  | none =>
    obtain ⟨hheld, hsettled, hlawful, hguarded⟩ := hsound
    exact ⟨acquire_keeps hheld, hsettled, hlawful, hguarded.hold⟩
  | some loaded =>
    obtain ⟨hown, hloads, hfenced, hfresh, hsettled, hguarded⟩ := hsound
    exact ⟨hown, hloads, fun hf => acquire_keeps (hfenced hf),
      fun hheld => hfresh ((owner_acquire_other (guard_ne_other resource)).symm.trans hheld), hsettled,
      hguarded.hold⟩

/-- A transaction that is through with its statements rests. -/
theorem resting_done (h : Derived program db) (hat : db.phase tx = .running [] loaded) : Resting program db tx := by
  have hsound := (h.sound tx).at_
  rw [hat] at hsound
  cases loaded with
  | none =>
    obtain ⟨-, hsettled, hlawful, hguarded⟩ := hsound
    exact ⟨hsettled, hlawful, .inr (hguarded.resolve_right (by simp))⟩
  | some loaded =>
    obtain ⟨hown, -, -, hfresh, hsettled, hguarded⟩ := hsound
    have hheld := hguarded.resolve_right (by simp)
    have hseen : db.seen tx = db.log := by
      unfold Db.seen
      rw [hown, List.append_nil]
    refine ⟨?_, ?_, .inr hheld⟩
    · rw [hseen, hfresh hheld]
      exact hsettled (hfresh hheld)
    · rw [hseen]
      exact h.lawful

/-- A transaction that has ended sees the fold of the log. -/
theorem sound_finish (hrows : program.rowsOf log = some rows) (hlawful : program.lawful log) :
    Sound program (db.finish tx log rows) tx := by
  have hown : (db.finish tx log rows).own tx = [] := update_self _ _ _
  have hoverlay : (db.finish tx log rows).overlay tx = fun _ => none := update_self _ _ _
  have hphase : (db.finish tx log rows).phase tx = .idle := update_self _ _ _
  have hseen : (db.finish tx log rows).seen tx = log := by
    unfold Db.seen
    rw [hown, List.append_nil]
    rfl
  have hview : (db.finish tx log rows).view tx = rows := by
    unfold Db.view
    rw [hoverlay]
    rfl
  refine ⟨fun hsome => absurd hown hsome, ?_⟩
  rw [hphase]
  refine ⟨?_, ?_, .inl ⟨hown, fun key => by rw [hoverlay]⟩⟩
  · unfold Settles
    rw [hseen, hview, hrows]
    rfl
  · rw [hseen]
    exact hlawful

/-- The commit of a transaction that has added to the log leaves another sound: it held the log and the
guard, so the other holds neither. -/
theorem sound_commit_other (hcommits : Resting program db tx) (hlogHeld : db.owner .log = some tx)
    (hown : db.own tx ≠ []) (hsound : Sound program db other) (hne : other ≠ tx) :
    Sound program (db.commit tx) other := by
  have hguardHeld : db.owner program.guard = some tx :=
    hcommits.guarded.resolve_left fun hclean => hown hclean.1
  have hnotLog : db.owner .log ≠ some other := fun hheld =>
    hne (Option.some.inj (hheld.symm.trans hlogHeld))
  have hnotGuard : db.owner program.guard ≠ some other := fun hheld =>
    hne (Option.some.inj (hheld.symm.trans hguardHeld))
  have howner : ∀ lock, (db.commit tx).owner lock = some other ↔ db.owner lock = some other :=
    (sameFor_finish hne rfl rfl : SameFor db (db.finish tx db.log db.rows) other).owner
  have hkeptOwn : (db.commit tx).own other = db.own other := update_of_ne hne _ _
  have hkeptOverlay : (db.commit tx).overlay other = db.overlay other := update_of_ne hne _ _
  have hkeptPhase : (db.commit tx).phase other = db.phase other := update_of_ne hne _ _
  have hclean : db.Clean other → (db.commit tx).Clean other := fun hclean =>
    ⟨hkeptOwn.trans hclean.1, fun key => hkeptOverlay ▸ hclean.2 key⟩
  have hresting : Resting program db other → Resting program (db.commit tx) other := by
    rintro ⟨-, -, hguarded⟩
    have hwrote := hguarded.resolve_right hnotGuard
    have hview : (db.commit tx).view other = db.view tx := by
      funext key
      unfold Db.view
      rw [hkeptOverlay, hwrote.2 key]
      rfl
    have hseen : (db.commit tx).seen other = db.seen tx := by
      unfold Db.seen
      rw [hkeptOwn, hwrote.1, List.append_nil]
      rfl
    refine ⟨?_, ?_, .inl (hclean hwrote)⟩
    · unfold Settles
      rw [hview, hseen]
      exact hcommits.settled
    · rw [hseen]
      exact hcommits.lawful
  obtain ⟨hlocked, hat⟩ := hsound
  refine ⟨fun hsome => absurd (hlocked (hkeptOwn ▸ hsome)) hnotLog, ?_⟩
  rw [hkeptPhase]
  cases hphase : db.phase other with
  | idle =>
    rw [hphase] at hat
    exact hresting hat
  | locking call =>
    rw [hphase] at hat
    exact ⟨hresting hat.1, hat.2.imp hclean⟩
  | reading call =>
    rw [hphase] at hat
    exact ⟨hresting hat.1, hat.2.1.imp hclean, fun hneeds => absurd (hat.2.2 hneeds) hnotLog⟩
  | inserting base rest stored =>
    rw [hphase] at hat
    exact absurd hat.1 hnotLog
  | running rest loaded =>
    rw [hphase] at hat
    cases loaded with
    | none => exact absurd hat.1 hnotLog
    | some loaded =>
      obtain ⟨hnone, hloads, hfenced, -, -, hguarded⟩ := hat
      have hlonger : (db.commit tx).log ≠ loaded := by
        intro hsame
        have hlength : (db.log ++ db.own tx).length ≤ db.log.length := by
          rw [show db.log ++ db.own tx = loaded from hsame]
          exact hloads.length_le
        rw [List.length_append] at hlength
        exact hown (List.length_eq_zero_iff.1 (by omega))
      exact
        { own := hkeptOwn.trans hnone
          loads := hloads.trans (List.prefix_append _ _)
          locked := fun hf => absurd (hfenced hf) hnotLog
          fresh := fun hheld => absurd ((howner _).1 hheld) hnotGuard
          settles := fun hsame => absurd hsame hlonger
          guarded := hguarded.imp (howner _).2 id }

/-- The commit of a transaction keeps the rows derived. -/
theorem Derived.commit (h : Derived program db) (hidle : db.phase tx = .idle) :
    Derived program (db.commit tx) := by
  have hat := (h.sound tx).at_
  rw [hidle] at hat
  have hrows : program.rowsOf (db.seen tx) = some (db.view tx) := hat.settled.symm
  refine ⟨hrows, hat.lawful, fun t => ?_⟩
  by_cases ht : t = tx
  · subst ht
    exact sound_finish hrows hat.lawful
  · by_cases hown : db.own tx = []
    · -- Nothing is added to the log, and the rows are its fold before and after.
      have hlog : db.seen tx = db.log := by
        unfold Db.seen
        rw [hown, List.append_nil]
      have hview : db.view tx = db.rows := Option.some.inj (hrows.symm.trans (hlog ▸ h.rows))
      exact (sameFor_finish ht hlog hview).sound (h.sound t)
    · exact sound_commit_other hat ((h.sound tx).locked hown) hown (h.sound t) ht

theorem Derived.of_sound (h : Derived program db) (hlog : db'.log = db.log) (hrows : db'.rows = db.rows)
    (hself : Sound program db' tx) (hothers : ∀ other, other ≠ tx → SameFor db db' other) :
    Derived program db' := by
  refine ⟨by rw [hlog, hrows, h.rows], hlog ▸ h.lawful, fun t => ?_⟩
  by_cases ht : t = tx
  · exact ht ▸ hself
  · exact (hothers t ht).sound (h.sound t)

/-- **Every statement keeps the rows derived.** -/
theorem Derived.step [DecidableEq Key] (hprogram : program.Replays) (h : Derived program db)
    (hstep : Step program tx db db') (hcurrent : program.fenced = false → Current program tx db) :
    Derived program db' := by
  obtain ⟨hlocked, hat⟩ := h.sound tx
  cases hstep with
  | append hidle hsome =>
    rw [hidle] at hat
    exact h.of_sound rfl rfl (sound_goto hlocked ⟨hat, hsome⟩) fun t ht => sameFor_goto ht _
  | rebuild hidle hclean =>
    rw [hidle] at hat
    refine h.of_sound rfl rfl (sound_goto hlocked ?_) fun t ht => sameFor_goto ht _
    split
    case isTrue => exact ⟨hat, hclean⟩
    case isFalse hunfenced => exact ⟨hat, hclean, fun hneeds => absurd hneeds (by simp [hunfenced])⟩
  | @lock call hphase hfree =>
    rw [hphase] at hat
    obtain ⟨hresting, hadmitted⟩ := hat
    have hheld : (db.acquire tx .log).owner .log = some tx := owner_acquire_self _
    refine h.of_sound rfl rfl (sound_goto (fun _ => hheld) ⟨?_, hadmitted.imp id, fun _ => hheld⟩)
      fun t ht => (sameFor_acquire ht hfree).trans (sameFor_goto ht _)
    exact ⟨hresting.settled, hresting.lawful, hresting.guarded.imp id acquire_keeps⟩
  | @readLength expected events hphase _ =>
    rw [hphase] at hat
    obtain ⟨hresting, hsome, hheld⟩ := hat
    have hlength : events.length ≠ 0 := fun hzero => hsome (List.length_eq_zero_iff.1 hzero)
    exact h.of_sound rfl rfl (sound_goto hlocked ⟨hheld (.inl (by simp)), by simpa using hlength,
      db.seen tx, (List.append_nil _).symm, hresting.settled⟩) fun t ht => sameFor_goto ht _
  | @insert base event rest stored hphase seq =>
    rw [hphase] at hat
    obtain ⟨hheld, -, before, hseen, hsettled⟩ := hat
    refine h.of_sound rfl rfl (sound_goto (fun _ => hheld) ⟨hheld, by simp, before, ?_, hsettled⟩)
      fun t ht => (sameFor_insert ht _).trans (sameFor_goto ht _)
    have hown : (db.insert tx ⟨seq, base + 1 + stored.length, event⟩).own tx =
        db.own tx ++ [⟨seq, base + 1 + stored.length, event⟩] := update_self _ _ _
    unfold Db.seen at hseen ⊢
    rw [hown, ← List.append_assoc, ← List.append_assoc, ← hseen]
    rfl
  | @inserted base stored hphase hlawful =>
    rw [hphase] at hat
    obtain ⟨hheld, hcount, before, hseen, hsettled⟩ := hat
    have hne : stored ≠ [] := by
      rintro rfl
      exact hcount rfl
    refine h.of_sound rfl rfl (sound_goto hlocked ⟨hheld, ?_, hlawful,
      guarded_fold hprogram (fun _ => hheld) (fun _ => hne) fun _ => id⟩) fun t ht => sameFor_goto ht _
    unfold Settles at hsettled ⊢
    rw [hseen, Program.rowsOf_append, ← hsettled]
    rfl
  | load hphase hbegun =>
    rw [hphase] at hat
    obtain ⟨hresting, hclean, hheld⟩ := hat
    have hseen : db.seen tx = db.log := by
      unfold Db.seen
      rw [hclean.1, List.append_nil]
    have hne : program.fenced = false → db.seen tx ≠ [] := by
      intro hunfenced hnil
      rw [hnil, hprogram.begun hunfenced] at hbegun
      cases hbegun
    refine h.of_sound rfl rfl (sound_goto hlocked
      { own := hclean.1
        loads := hseen ▸ List.prefix_refl _
        locked := fun hfenced => hheld (.inr hfenced)
        fresh := fun _ => hseen.symm
        settles := fun _ => ?_
        guarded := guarded_fold hprogram (fun hfenced => hheld (.inr hfenced)) hne fun _ hmem =>
          List.mem_append_right _ hmem }) fun t ht => sameFor_goto ht _
    have hsettled := hresting.settled
    unfold Settles at hsettled ⊢
    rw [hprogram.replay _ _ hresting.lawful hbegun hsettled.symm]
    exact hsettled
  | @hold resource rest loaded hphase hfree =>
    exact h.of_sound rfl rfl (sound_hold (h.sound tx) hphase)
      fun t ht => (sameFor_acquire ht hfree).trans (sameFor_goto ht _)
  | @write change rest loaded after hphase hfree hrun =>
    exact h.of_sound rfl rfl (sound_write (h.sound tx) hphase hrun hcurrent)
      fun t ht => (sameFor_writeRows ht hfree).trans (sameFor_goto ht _)
  | @done loaded hphase =>
    exact h.of_sound rfl rfl (sound_goto hlocked (resting_done h hphase)) fun t ht => sameFor_goto ht _
  | commit hidle => exact h.commit hidle
  | abort =>
    exact h.of_sound rfl rfl (sound_finish h.rows h.lawful) fun t ht => sameFor_finish ht rfl rfl

theorem derived_empty (hprogram : program.Replays) : Derived program ({} : Db Event Key Row) where
  rows := rfl
  lawful := hprogram.nothing
  sound _ := ⟨fun h => absurd rfl h, rfl, hprogram.nothing, .inl ⟨rfl, fun _ => rfl⟩⟩

/-- **The committed rows are the fold of the committed log.** -/
theorem rows_derived [DecidableEq Key] (hprogram : program.Replays)
    (hrun : ReflTransGen (CurrentStep program) {} db) : program.rowsOf db.log = some db.rows := by
  have h : Derived program db := by
    induction hrun with
    | refl => exact derived_empty hprogram
    | tail _ hstep ih =>
      obtain ⟨tx, hstep, hcurrent⟩ := hstep
      exact ih.step hprogram hstep hcurrent
  exact h.rows

/-! ## A transaction at rest -/

/-- No lock is held, and the transaction is between its calls and has written nothing. -/
structure Quiet (db : Db Event Key Row) (tx : Nat) : Prop where
  owner : ∀ lock, db.owner lock = none
  idle : db.phase tx = .idle
  clean : db.Clean tx

end Laws

end DerivedRows
