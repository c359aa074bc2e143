import Mathlib.Logic.Function.Basic
import Mathlib.Logic.Relation

/-!
# Objects that are created once

A store in which an object can be created under a key that has none, and nothing else. Any number of writers
share it. Each has some objects to put, in order: it creates the next one, or, where the key is taken, reads
what is there, and goes on if that is what it would have put and fails if it is not. A writer may stop
anywhere, and what it has created stays; it may also not hear that it has.

**`kept_run`**: whatever is stored was put by a writer, and all that this writer puts before it is stored
too. So what a writer puts last vouches for the rest.
-/

namespace CreateOnly

open Function (update update_self update_of_ne)

open Relation

variable {K V : Type}

/-- What a writer is at. -/
inductive Phase where
  | creating
  | conflicting
  | failed

/-- A writer: what it has put, with whether it was the one to create it, and what it has still to put. -/
structure Writer (K V : Type) where
  past : List (K × V) := []
  created : List Bool := []
  pending : List (K × V)
  phase : Phase := .creating

namespace Writer

/-- All that a writer puts. -/
def puts (writer : Writer K V) : List (K × V) := writer.past ++ writer.pending

/-- Everything has been put. -/
def Done (writer : Writer K V) : Prop := writer.pending = [] ∧ writer.phase = .creating

/-- The next object is there. -/
def advance (writer : Writer K V) (put : K × V) (rest : List (K × V)) (isNew : Bool) : Writer K V where
  past := writer.past ++ [put]
  created := writer.created ++ [isNew]
  pending := rest

theorem puts_advance {writer : Writer K V} {put : K × V} {rest : List (K × V)} {isNew : Bool}
    (hnext : writer.pending = put :: rest) : (writer.advance put rest isNew).puts = writer.puts := by
  simp [puts, advance, hnext]

end Writer

/-- The store and its writers. -/
structure World (K V : Type) where
  objects : K → Option V := fun _ => none
  writers : Nat → Option (Writer K V) := fun _ => none

/-- One writer changes. -/
def World.turn (world : World K V) (id : Nat) (writer : Writer K V) : World K V :=
  { world with writers := update world.writers id (some writer) }

section Steps

variable [DecidableEq K]

/-- An object is created. -/
def World.create (world : World K V) (put : K × V) : World K V :=
  { world with objects := update world.objects put.1 (some put.2) }

/-- One step of a writer; `Admitted` is what a writer may set out to put. -/
inductive Step (Admitted : List (K × V) → Prop) : World K V → World K V → Prop where
  | start {world : World K V} {id : Nat} {puts : List (K × V)} (fresh : world.writers id = none)
      (admitted : Admitted puts) : Step Admitted world (world.turn id { pending := puts })
  | created {world : World K V} {id : Nat} {writer : Writer K V} {put : K × V} {rest : List (K × V)}
      (writes : world.writers id = some writer) (phase : writer.phase = .creating)
      (next : writer.pending = put :: rest) (absent : world.objects put.1 = none) :
      Step Admitted world ((world.create put).turn id (writer.advance put rest true))
  /-- The object is created, and the writer does not hear of it and tries again. -/
  | unheard {world : World K V} {id : Nat} {writer : Writer K V} {put : K × V} {rest : List (K × V)}
      (writes : world.writers id = some writer) (phase : writer.phase = .creating)
      (next : writer.pending = put :: rest) (absent : world.objects put.1 = none) :
      Step Admitted world (world.create put)
  | conflict {world : World K V} {id : Nat} {writer : Writer K V} {put : K × V} {rest : List (K × V)} {value : V}
      (writes : world.writers id = some writer) (phase : writer.phase = .creating)
      (next : writer.pending = put :: rest) (taken : world.objects put.1 = some value) :
      Step Admitted world (world.turn id { writer with phase := .conflicting })
  | same {world : World K V} {id : Nat} {writer : Writer K V} {put : K × V} {rest : List (K × V)}
      (writes : world.writers id = some writer) (phase : writer.phase = .conflicting)
      (next : writer.pending = put :: rest) (equal : world.objects put.1 = some put.2) :
      Step Admitted world (world.turn id (writer.advance put rest false))
  | differs {world : World K V} {id : Nat} {writer : Writer K V} {put : K × V} {rest : List (K × V)} {value : V}
      (writes : world.writers id = some writer) (phase : writer.phase = .conflicting)
      (next : writer.pending = put :: rest) (taken : world.objects put.1 = some value) (other : value ≠ put.2) :
      Step Admitted world (world.turn id { writer with phase := .failed })
  /-- The store refuses, or the writer gives up. -/
  | broken {world : World K V} {id : Nat} {writer : Writer K V} (writes : world.writers id = some writer) :
      Step Admitted world (world.turn id { writer with phase := .failed })

end Steps

/-! ## What every run keeps -/

section Laws

variable {Admitted : List (K × V) → Prop} {world world' : World K V}

/-- What a store has of some puts. -/
def Stored (objects : K → Option V) (puts : List (K × V)) : Prop :=
  ∀ put ∈ puts, objects put.1 = some put.2

/-- What is stored was put by some writer after all that the writer puts before it. -/
def Founded (Admitted : List (K × V) → Prop) (objects : K → Option V) : Prop :=
  ∀ key value, objects key = some value → ∃ before after,
    Admitted (before ++ (key, value) :: after) ∧ Stored objects before

/-- What a run keeps. -/
structure Kept (Admitted : List (K × V) → Prop) (world : World K V) : Prop where
  admitted : ∀ id writer, world.writers id = some writer → Admitted writer.puts
  past : ∀ id writer, world.writers id = some writer → Stored world.objects writer.past
  founded : Founded Admitted world.objects

/-- No object is lost or replaced. -/
def Extends (objects objects' : K → Option V) : Prop :=
  ∀ key value, objects key = some value → objects' key = some value

theorem Stored.mono {objects objects' : K → Option V} {puts : List (K × V)} (h : Stored objects puts)
    (hext : Extends objects objects') : Stored objects' puts :=
  fun put hput => hext _ _ (h put hput)

variable {id : Nat} {writer : Writer K V} {put : K × V}

theorem turn_cases {other : Nat} {found : Writer K V}
    (h : (world.turn id writer).writers other = some found) :
    (other = id ∧ found = writer) ∨ world.writers other = some found := by
  by_cases hother : other = id
  · subst hother
    have hself : (world.turn other writer).writers other = some writer := update_self _ _ _
    exact .inl ⟨rfl, Option.some.inj (h.symm.trans hself)⟩
  · exact .inr ((update_of_ne hother _ _).symm.trans h)

/-- A writer goes on, with what it has put in the store. -/
theorem Kept.turn (h : Kept Admitted world) (hadmitted : Admitted writer.puts)
    (hpast : Stored world.objects writer.past) : Kept Admitted (world.turn id writer) where
  admitted other found hfound := by
    rcases turn_cases hfound with ⟨-, rfl⟩ | hold
    · exact hadmitted
    · exact h.admitted other found hold
  past other found hfound := by
    rcases turn_cases hfound with ⟨-, rfl⟩ | hold
    · exact hpast
    · exact h.past other found hold
  founded := h.founded

theorem kept_start : Kept Admitted ({} : World K V) where
  admitted _ _ hwriter := by cases hwriter
  past _ _ hwriter := by cases hwriter
  founded _ _ hvalue := by cases hvalue

theorem Stored.concat {objects : K → Option V} {past : List (K × V)} (h : Stored objects past)
    (hput : objects put.1 = some put.2) : Stored objects (past ++ [put]) := by
  intro other hother
  rcases List.mem_append.1 hother with hold | hnew
  · exact h other hold
  · obtain rfl := List.mem_singleton.1 hnew
    exact hput

theorem Kept.advance (h : Kept Admitted world) {rest : List (K × V)} {isNew : Bool}
    (hwrites : world.writers id = some writer) (hnext : writer.pending = put :: rest)
    (hput : world.objects put.1 = some put.2) :
    Kept Admitted (world.turn id (writer.advance put rest isNew)) := by
  refine h.turn ?_ ((h.past id writer hwrites).concat hput)
  rw [Writer.puts_advance hnext]
  exact h.admitted id writer hwrites

theorem Kept.done (h : Kept Admitted world) (hwriter : world.writers id = some writer)
    (hdone : writer.Done) : Stored world.objects writer.puts := by
  rw [Writer.puts, hdone.1, List.append_nil]
  exact h.past id writer hwriter

variable [DecidableEq K]

theorem extends_create (habsent : world.objects put.1 = none) :
    Extends world.objects (world.create put).objects := by
  intro key value hvalue
  have hne : key ≠ put.1 := by
    rintro rfl
    cases habsent.symm.trans hvalue
  exact (update_of_ne hne _ _).trans hvalue

theorem create_self : (world.create put).objects put.1 = some put.2 :=
  update_self _ _ _

/-- A writer creates its next object. -/
theorem Kept.create (h : Kept Admitted world) {rest : List (K × V)}
    (hwrites : world.writers id = some writer) (hnext : writer.pending = put :: rest)
    (habsent : world.objects put.1 = none) : Kept Admitted (world.create put) where
  admitted := h.admitted
  past other found hfound := (h.past other found hfound).mono (extends_create habsent)
  founded key value hvalue := by
    by_cases hkey : key = put.1
    · subst hkey
      obtain rfl : put.2 = value := Option.some.inj (create_self.symm.trans hvalue)
      have hadmitted := h.admitted id writer hwrites
      rw [Writer.puts, hnext] at hadmitted
      exact ⟨writer.past, rest, hadmitted, (h.past id writer hwrites).mono (extends_create habsent)⟩
    · have hold : world.objects key = some value := (update_of_ne hkey _ _).symm.trans hvalue
      obtain ⟨before, after, hadmitted, hstored⟩ := h.founded key value hold
      exact ⟨before, after, hadmitted, hstored.mono (extends_create habsent)⟩

/-- Every step keeps it. -/
theorem Kept.step (h : Kept Admitted world) (hstep : Step Admitted world world') : Kept Admitted world' := by
  cases hstep with
  | start fresh admitted => exact h.turn admitted nofun
  | created writes phase next absent => exact (h.create writes next absent).advance writes next create_self
  | unheard writes phase next absent => exact h.create writes next absent
  | conflict writes | differs writes | broken writes =>
    have hadmitted := h.admitted _ _ writes
    have hpast := h.past _ _ writes
    exact h.turn hadmitted hpast
  | same writes phase next equal => exact h.advance writes next equal

theorem kept_run (hrun : ReflTransGen (Step Admitted) {} world) : Kept Admitted world := by
  induction hrun with
  | refl => exact kept_start
  | tail _ hstep ih => exact ih.step hstep

/-! ## What stays -/

theorem step_extends (hstep : Step Admitted world world') : Extends world.objects world'.objects := by
  cases hstep with
  | created _ _ _ absent | unheard _ _ _ absent => exact extends_create absent
  | start | conflict | same | differs | broken => exact fun _ _ hvalue => hvalue

theorem run_extends (hrun : ReflTransGen (Step Admitted) world world') :
    Extends world.objects world'.objects := by
  induction hrun with
  | refl => exact fun _ _ hvalue => hvalue
  | tail _ hstep ih => exact fun key value hvalue => step_extends hstep key value (ih key value hvalue)

/-- A writer keeps to what it set out to put. -/
theorem step_puts (hstep : Step Admitted world world') (hwriter : world.writers id = some writer) :
    ∃ writer', world'.writers id = some writer' ∧ writer'.puts = writer.puts := by
  have hturn : ∀ (other : Nat) (before after : Writer K V) (between : World K V),
      world.writers other = some before → between.writers = world.writers → after.puts = before.puts →
        ∃ writer', (between.turn other after).writers id = some writer' ∧ writer'.puts = writer.puts := by
    intro other before after between hbefore hsame hputs
    by_cases hother : id = other
    · subst hother
      obtain rfl := Option.some.inj (hwriter.symm.trans hbefore)
      exact ⟨after, update_self _ _ _, hputs⟩
    · refine ⟨writer, (update_of_ne hother _ _).trans ?_, rfl⟩
      rw [hsame]
      exact hwriter
  cases hstep with
  | @start other puts fresh =>
    have hother : id ≠ other := by
      rintro rfl
      cases fresh.symm.trans hwriter
    exact ⟨writer, (update_of_ne hother _ _).trans hwriter, rfl⟩
  | created writes _ next | same writes _ next => exact hturn _ _ _ _ writes rfl (Writer.puts_advance next)
  | unheard => exact ⟨writer, hwriter, rfl⟩
  | conflict writes | differs writes | broken writes => exact hturn _ _ _ _ writes rfl rfl

theorem run_puts (hrun : ReflTransGen (Step Admitted) world world')
    (hwriter : world.writers id = some writer) :
    ∃ writer', world'.writers id = some writer' ∧ writer'.puts = writer.puts := by
  induction hrun with
  | refl => exact ⟨writer, hwriter, rfl⟩
  | tail _ hstep ih =>
    obtain ⟨between, hbetween, hputs⟩ := ih
    obtain ⟨writer', hwriter', hputs'⟩ := step_puts hstep hbetween
    exact ⟨writer', hwriter', hputs'.trans hputs⟩

/-- A writer that puts something else than what is stored is never done. -/
theorem Kept.differs (h : Kept Admitted world) {value : V}
    (hwriter : world.writers id = some writer) (hput : put ∈ writer.puts)
    (hvalue : world.objects put.1 = some value) (hother : value ≠ put.2)
    (hlater : ReflTransGen (Step Admitted) world world') {writer' : Writer K V}
    (hwriter' : world'.writers id = some writer') : ¬ writer'.Done := by
  intro hdone
  have hkept : Kept Admitted world' := by
    clear hwriter'
    induction hlater with
    | refl => exact h
    | tail _ hstep ih => exact ih.step hstep
  obtain ⟨found, hfound, hputs⟩ := run_puts hlater hwriter
  obtain rfl := Option.some.inj (hfound.symm.trans hwriter')
  have hstored := hkept.done hwriter' hdone put (hputs ▸ hput)
  exact hother (Option.some.inj ((run_extends hlater _ _ hvalue).symm.trans hstored))

/-- A writer that nobody disturbs, and that puts only what is not there yet, is done in the end. -/
theorem run_alone (hwriter : world.writers id = some writer) (hphase : writer.phase = .creating)
    (habsent : ∀ put ∈ writer.pending, world.objects put.1 = none)
    (hnodup : (writer.pending.map (·.1)).Nodup) :
    ∃ world' writer', ReflTransGen (Step Admitted) world world' ∧ world'.writers id = some writer' ∧
      writer'.Done ∧ writer'.puts = writer.puts := by
  generalize hpending : writer.pending = pending at habsent hnodup
  induction pending generalizing world writer with
  | nil => exact ⟨world, writer, .refl, hwriter, ⟨hpending, hphase⟩, rfl⟩
  | cons put rest ih =>
    rw [List.map_cons, List.nodup_cons] at hnodup
    have hnext : ((world.create put).turn id (writer.advance put rest true)).writers id =
        some (writer.advance put rest true) := update_self _ _ _
    have hrest : ∀ other ∈ rest, ((world.create put).turn id (writer.advance put rest true)).objects other.1 =
        none := by
      intro other hother
      have hne : other.1 ≠ put.1 := fun heq => hnodup.1 (heq ▸ List.mem_map_of_mem hother)
      exact (update_of_ne hne _ _).trans (habsent other (List.mem_cons_of_mem _ hother))
    obtain ⟨world', writer', hrun, hwriter', hdone, hputs⟩ := ih hnext rfl rfl hrest hnodup.2
    exact ⟨world', writer', .head (.created hwriter hphase hpending (habsent put List.mem_cons_self)) hrun,
      hwriter', hdone, hputs.trans (Writer.puts_advance hpending)⟩

end Laws

end CreateOnly
