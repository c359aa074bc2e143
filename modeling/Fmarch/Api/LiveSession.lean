import Fmarch.Api.LiveProjection
import Mathlib.Logic.Relation

/-!
# A live session (`ws_session`)

What a game's commits change reaches a session on two ways. A command of this server publishes what it left
dirty once it has committed, and the session delivers those surfaces. Commits of another instance or of the
scheduler publish nothing: a wake compares the game's last event with the session's cursor, and asks the
client to start again if there are later ones. A command in flight holds a guard, and a wake leaves its
events to its publication.

An update moves the cursor to the last event there is when it is taken, which may be one that no update is
for: it is neither delivered nor noticed by a later wake (`update_absorbs_commit`).

**`session_delivers_changes`**: if no update is taken that leaves an event behind the cursor unaccounted,
and no publication fails or falls short of an event the cursor has passed, then an open session of which
nothing is pending has delivered every surface after the last event that changes it.

The hiding of posts by moderation, which has a cursor of its own, is left out, and so is what ends a session
besides: it may end at any time.
-/

namespace Fmarch.Api.LiveSession

open Platform Relation

/-! ## Surfaces -/

/-- What a session shows. -/
inductive Surface where
  | votecount | thread | hostConsole | hostPrompts | playerPrivate | playerCommandState
  deriving DecidableEq

structure DirtySurfaces where
  thread : Bool := false
  hostConsole : Bool := false
  hostPrompts : Bool := false
  playerPrivate : Bool := false
  playerCommandState : Bool := false
  votecount : Bool := false

/-- An event of the game, by the surfaces it changes. Its `seq` is its place, from one. -/
structure GameEvent where
  changes : Surface → Bool

/-- The event at a place changes the surface. -/
def changesAt (events : List GameEvent) (surface : Surface) (seq : Nat) : Bool :=
  1 ≤ seq && (events[seq - 1]?).any (·.changes surface)

/-- `thread_high_water_seq`: the last event that changed the thread. -/
def threadHighWaterSeq (events : List GameEvent) : Nat :=
  ((List.range (events.length + 1)).filter (changesAt events .thread)).getLast?.getD 0

/-- The session delivers the surface when it takes the update: the vote counts if some have changed, the
thread whole or its posts after a place, if there are any, and the others if they are marked. -/
def delivers (update : LiveProjectionUpdate) (events : List GameEvent) : Surface → Bool
  | .votecount => !update.deltas.isEmpty
  | .thread =>
    match update.threadAfterSeq with
    | some afterSeq => (List.range (events.length + 1)).any fun seq =>
        decide (afterSeq < seq) && changesAt events .thread seq
    | none => update.threadDirty
  | .hostConsole => update.hostConsoleDirty
  | .hostPrompts => update.hostPromptsDirty
  | .playerPrivate => update.playerPrivateDirty
  | .playerCommandState => false

/-- The session delivers the surface, or ends with `ResyncRequired`. -/
def reaches (update : LiveProjectionUpdate) (events : List GameEvent) (surface : Surface) : Bool :=
  update.playerCommandStateDirty || delivers update events surface

/-! ## States -/

/-- Where a command of this server is. `first` and `last` are the places its events lie between: after the
one, up to the other. -/
inductive CommandState where
  | idle
  | classified (dirty : DirtySurfaces)
  | counted (dirty : DirtySurfaces) (previousVotecount : Option (List VoteCountDelta))
  | prepared (change : LiveProjectionChangeSet)
  | guarded (change : LiveProjectionChangeSet)
  | committed (change : LiveProjectionChangeSet) (first last : Nat)
  | publishing (change : LiveProjectionChangeSet) (current : List VoteCountDelta) (first last : Nat)
  | published

/-- The command holds a guard (`inflight_guard`). -/
def CommandState.inflight : CommandState → Bool
  | .guarded _ | .committed .. | .publishing .. | .published => true
  | _ => false

/-- The command has an event at the place that it has still to publish. -/
def CommandState.publishes (seq : Nat) : CommandState → Prop
  | .committed _ first last | .publishing _ _ first last => first < seq ∧ seq ≤ last
  | _ => False

/-- Where a session is: `deliveredAt` is the last event there was when it last delivered a surface. -/
inductive SessionState where
  | absent
  | subscribed
  | admitted (observedSeq : Nat)
  | opened (observedSeq : Nat) (deliveredAt : Surface → Nat)
  | ended

/-- The game's events and vote counts, the commands, the session and its receiver, which may have lost
updates; and that a wake has been handled since the last commit. -/
structure State where
  events : List GameEvent := []
  voteCounts : List VoteCountDelta := []
  commands : Nat → CommandState := fun _ => .idle
  queue : List LiveProjectionUpdate := []
  lagged : Bool := false
  session : SessionState := .absent
  wakeHandled : Bool := false

namespace State

variable (state : State)

def currentGameEventSeq : Nat := state.events.length

def hasInflight : Prop := ∃ command, (state.commands command).inflight = true

/-- The command goes on. -/
def goto (command : Nat) (next : CommandState) : State :=
  { state with commands := Function.update state.commands command next }

/-- Events are committed, and with them the vote counts they leave. -/
def commit (events : List GameEvent) (voteCounts : List VoteCountDelta) : State :=
  { state with events := state.events ++ events, voteCounts, wakeHandled := false }

/-- `sender.send`, to the session's receiver. -/
def send (update : Option LiveProjectionUpdate) : State :=
  { state with queue := state.queue ++ update.toList }

/-- The session takes the update at the head of its receiver. -/
def take (rest : List LiveProjectionUpdate) (session : SessionState) : State :=
  { state with queue := rest, session }

end State

/-- `DirtySurfaces`, with what has been read before the command. -/
def changeSet (game : Uuid) (dirty : DirtySurfaces) (previousVotecount : Option (List VoteCountDelta))
    (threadAfterSeq : Option Nat) : LiveProjectionChangeSet where
  game := game
  previousVoteCounts := previousVotecount
  threadAfterSeq := threadAfterSeq.map (↑)
  threadDirty := dirty.thread
  hostConsoleDirty := dirty.hostConsole
  hostPromptsDirty := dirty.hostPrompts
  playerPrivateDirty := dirty.playerPrivate
  playerCommandStateDirty := dirty.playerCommandState

/-! ## Steps -/

/-- What a step does, as far as an event can be lost by it. -/
inductive Label where
  | receive (update : LiveProjectionUpdate) (rest : List LiveProjectionUpdate)
  | publish (command : Nat) (change : LiveProjectionChangeSet) (current : List VoteCountDelta)
  | abandon (command : Nat)
  | other

/-- One step of a command of this server, of another instance or the scheduler, or of the session. -/
inductive Step (game : Uuid) : Label → State → State → Prop where
  | classify {state : State} {command : Nat} (dirty : DirtySurfaces)
      (at_ : state.commands command = .idle) :
      Step game .other state (state.goto command (.classified dirty))
  /-- `vote_count_rows(…).await.ok()`, if the command can change them. -/
  | readVotecount {state : State} {command : Nat} {dirty : DirtySurfaces}
      {previous : Option (List VoteCountDelta)} (at_ : state.commands command = .classified dirty)
      (read : ∀ counts ∈ previous, dirty.votecount = true ∧ counts = state.voteCounts) :
      Step game .other state (state.goto command (.counted dirty previous))
  /-- `thread_high_water_seq(…).await.ok()`. -/
  | readThread {state : State} {command : Nat} {dirty : DirtySurfaces}
      {previous : Option (List VoteCountDelta)} {afterSeq : Option Nat}
      (at_ : state.commands command = .counted dirty previous)
      (read : ∀ seq ∈ afterSeq, dirty.thread = true ∧ seq = threadHighWaterSeq state.events) :
      Step game .other state (state.goto command (.prepared (changeSet game dirty previous afterSeq)))
  | guard {state : State} {command : Nat} {change : LiveProjectionChangeSet}
      (at_ : state.commands command = .prepared change) :
      Step game .other state (state.goto command (.guarded change))
  | commit {state : State} {command : Nat} {change : LiveProjectionChangeSet} (events : List GameEvent)
      (voteCounts : List VoteCountDelta) (at_ : state.commands command = .guarded change) :
      Step game .other state ((state.commit events voteCounts).goto command
        (.committed change state.currentGameEventSeq (state.currentGameEventSeq + events.length)))
  | reject {state : State} {command : Nat} {change : LiveProjectionChangeSet}
      (at_ : state.commands command = .guarded change) :
      Step game .other state (state.goto command .idle)
  /-- The first lines of `publish`: the counts are read again if they were read before. -/
  | readCurrent {state : State} {command first last : Nat} {change : LiveProjectionChangeSet}
      (at_ : state.commands command = .committed change first last) :
      Step game .other state (state.goto command (.publishing change
        (if change.previousVoteCounts.isSome then state.voteCounts else []) first last))
  | publish {state : State} {command first last : Nat} {change : LiveProjectionChangeSet}
      {current : List VoteCountDelta} (at_ : state.commands command = .publishing change current first last) :
      Step game (.publish command change current) state
        ((state.goto command .published).send (assembleUpdate change current))
  /-- The counts cannot be read, the outcome of the commit is unknown, or the request is dropped. -/
  | abandon {state : State} {command : Nat} (inflight : (state.commands command).inflight = true) :
      Step game (.abandon command) state (state.goto command .idle)
  | finish {state : State} {command : Nat} (at_ : state.commands command = .published) :
      Step game .other state (state.goto command .idle)
  /-- Another instance or the scheduler commits. -/
  | elsewhere {state : State} (events : List GameEvent) (voteCounts : List VoteCountDelta) :
      Step game .other state (state.commit events voteCounts)
  /-- A command of another game publishes. -/
  | otherGame {state : State} {update : LiveProjectionUpdate} (other : update.game ≠ game) :
      Step game .other state (state.send (some update))
  /-- The receiver is full: the oldest updates are dropped. -/
  | overflow {state : State} (dropped : Nat) :
      Step game .other state { state with queue := state.queue.drop dropped, lagged := true }
  | subscribe {state : State} (at_ : state.session = .absent) :
      Step game .other state { state with session := .subscribed, queue := [], lagged := false }
  | baseline {state : State} (at_ : state.session = .subscribed) :
      Step game .other state { state with session := .admitted state.currentGameEventSeq }
  /-- `Hello`: the client reads everything anew. -/
  | hello {state : State} {observedSeq : Nat} (at_ : state.session = .admitted observedSeq) :
      Step game .other state
        { state with session := .opened observedSeq fun _ => state.currentGameEventSeq }
  | receiveOther {state : State} {update : LiveProjectionUpdate} {rest : List LiveProjectionUpdate}
      (queue : state.queue = update :: rest) (lagged : state.lagged = false) (other : update.game ≠ game) :
      Step game .other state { state with queue := rest }
  | receive {state : State} {observedSeq : Nat} {deliveredAt : Surface → Nat}
      {update : LiveProjectionUpdate} {rest : List LiveProjectionUpdate}
      (at_ : state.session = .opened observedSeq deliveredAt) (queue : state.queue = update :: rest)
      (lagged : state.lagged = false) (same : update.game = game)
      (clean : update.playerCommandStateDirty = false) :
      Step game (.receive update rest) state (state.take rest (.opened state.currentGameEventSeq fun surface =>
        if delivers update state.events surface then state.currentGameEventSeq else deliveredAt surface))
  /-- A wake that finds nothing to do: a command is in flight, or there is no later event. -/
  | wake {state : State} {observedSeq : Nat} {deliveredAt : Surface → Nat}
      (at_ : state.session = .opened observedSeq deliveredAt) (queue : state.queue = [])
      (lagged : state.lagged = false) (nothing : state.hasInflight ∨ state.currentGameEventSeq ≤ observedSeq) :
      Step game .other state { state with wakeHandled := true }
  /-- `ResyncRequired`, for an update that leaves the command state dirty, for updates that were lost, or for
  a wake that finds later events; or a close, for any reason. -/
  | endSession {state : State} : Step game .other state { state with session := .ended }

/-! ## What is accounted for -/

section Accounts

variable (game : Uuid) (shows : Surface → Bool) (state : State)

/-- An update that will reach the surface is in the receiver, or has been lost there and will end the
session, or a command in flight has still to publish the event. -/
def Pending (seq : Nat) (surface : Surface) : Prop :=
  state.lagged = true ∨ (∃ update ∈ state.queue, update.game = game ∧
    reaches update state.events surface = true) ∨ ∃ command, (state.commands command).publishes seq

/-- The session shows the surface, and the event at the place changes it. -/
def Concerns (seq : Nat) (surface : Surface) : Prop :=
  shows surface = true ∧ changesAt state.events surface seq = true

/-- The cursor has passed an event of which the session has not delivered the surface. -/
def Overtaken (seq : Nat) (surface : Surface) : Prop :=
  ∃ observedSeq deliveredAt, state.session = .opened observedSeq deliveredAt ∧ seq ≤ observedSeq ∧
    Concerns shows state seq surface ∧ deliveredAt surface < seq

/-- The step leaves no event behind the cursor that nothing is pending for: an update that is taken does not
pass over one, and a publication does not fail of one that has been passed, nor fall short of it. -/
def Accounts : Label → Prop
  | .receive update rest => ∀ seq surface, Concerns shows state seq surface →
      (∀ observedSeq deliveredAt, state.session = .opened observedSeq deliveredAt → observedSeq < seq) →
      reaches update state.events surface = true ∨ Pending game { state with queue := rest } seq surface
  | .publish command change current => ∀ seq surface, (state.commands command).publishes seq →
      Overtaken shows state seq surface →
      Pending game ((state.goto command .published).send (assembleUpdate change current)) seq surface
  | .abandon command => ∀ seq surface, (state.commands command).publishes seq →
      Overtaken shows state seq surface → Pending game (state.goto command .idle) seq surface
  | .other => True

/-- A step that accounts for every event. -/
def AccountedStep (state state' : State) : Prop :=
  ∃ label, Step game label state state' ∧ Accounts game shows state label

/-- No command is in flight, the receiver is empty, and a wake has been handled after the last commit. -/
structure Quiescent : Prop where
  inflight : ¬ state.hasInflight
  queue : state.queue = []
  lagged : state.lagged = false
  wakeHandled : state.wakeHandled = true

/-- An open session has delivered every surface it shows after the last event up to its cursor that changes
it. -/
def Delivered : Prop :=
  ∀ observedSeq deliveredAt, state.session = .opened observedSeq deliveredAt →
    ∀ seq surface, seq ≤ observedSeq → Concerns shows state seq surface → seq ≤ deliveredAt surface

/-- The events that a session's cursor has passed are there, and each is delivered or pending. -/
structure Kept : Prop where
  admitted : ∀ observedSeq, state.session = .admitted observedSeq → observedSeq ≤ state.currentGameEventSeq
  opened : ∀ observedSeq deliveredAt, state.session = .opened observedSeq deliveredAt →
    observedSeq ≤ state.currentGameEventSeq
  pending : ∀ seq surface, Overtaken shows state seq surface → Pending game state seq surface

end Accounts

/-! ## What a step keeps -/

variable {game : Uuid} {shows : Surface → Bool} {state state' : State} {seq : Nat} {surface : Surface}

variable {events : List GameEvent} {update : LiveProjectionUpdate} {command : Nat}
   {next : CommandState}

theorem changesAt_append (h : seq ≤ events.length) (more : List GameEvent) :
    changesAt (events ++ more) surface seq = changesAt events surface seq := by
  unfold changesAt
  by_cases hseq : 1 ≤ seq
  · rw [List.getElem?_append_left (by omega)]
  · simp [hseq]

theorem le_length_of_changesAt (h : changesAt events surface seq = true) : seq ≤ events.length := by
  unfold changesAt at h
  rw [Bool.and_eq_true, decide_eq_true_iff] at h
  obtain ⟨hseq, hsome⟩ := h
  cases hevent : events[seq - 1]? with
  | none => simp [hevent] at hsome
  | some event =>
    have hlt := (List.getElem?_eq_some_iff.1 hevent).1
    omega

/-- What an update delivers it delivers when more has been committed. -/
theorem delivers_append (h : delivers update events surface = true) (more : List GameEvent) :
    delivers update (events ++ more) surface = true := by
  cases surface with
  | thread =>
    unfold delivers at h ⊢
    cases hafter : update.threadAfterSeq with
    | none => simpa only [hafter] using h
    | some afterSeq =>
      simp only [hafter, List.any_eq_true, List.mem_range, Bool.and_eq_true, decide_eq_true_iff] at h ⊢
      obtain ⟨seq, hlt, hafterSeq, hchanges⟩ := h
      refine ⟨seq, by rw [List.length_append]; omega, hafterSeq, ?_⟩
      rw [changesAt_append (by omega)]
      exact hchanges
  | votecount => exact h
  | hostConsole => exact h
  | hostPrompts => exact h
  | playerPrivate => exact h
  | playerCommandState => exact h

theorem reaches_append (h : reaches update events surface = true) (more : List GameEvent) :
    reaches update (events ++ more) surface = true := by
  unfold reaches at h ⊢
  rw [Bool.or_eq_true] at h ⊢
  exact h.imp id fun hdelivers => delivers_append hdelivers more

section

variable (h : Pending game state seq surface)
include h

/-- What is pending stays so while the receiver keeps its updates and the commands what they have to
publish. -/
theorem Pending.mono (hlagged : state.lagged = true → state'.lagged = true)
    (hqueue : ∀ update ∈ state.queue, update ∈ state'.queue)
    (hevents : ∃ more, state'.events = state.events ++ more)
    (hcommands : ∀ command, (state.commands command).publishes seq → (state'.commands command).publishes seq) :
    Pending game state' seq surface := by
  obtain hlag | ⟨update, hmem, hsame, hreaches⟩ | ⟨command, hpublishes⟩ := h
  · exact .inl (hlagged hlag)
  · obtain ⟨more, hmore⟩ := hevents
    exact .inr (.inl ⟨update, hqueue update hmem, hsame, hmore ▸ reaches_append hreaches more⟩)
  · exact .inr (.inr ⟨command, hcommands command hpublishes⟩)

/-- A command that goes on, and has as much to publish as before. -/
theorem Pending.goto (hnext : (state.commands command).publishes seq → next.publishes seq) :
    Pending game (state.goto command next) seq surface := by
  refine h.mono id (fun _ => id) ⟨[], (List.append_nil _).symm⟩ fun other hother => ?_
  unfold State.goto
  dsimp only
  by_cases hsame : other = command
  · subst hsame
    rw [Function.update_self]
    exact hnext hother
  · rw [Function.update_of_ne hsame]
    exact hother

theorem Pending.goto_or (next : CommandState) :
    Pending game (state.goto command next) seq surface ∨ (state.commands command).publishes seq := by
  by_cases hpublishes : (state.commands command).publishes seq
  · exact .inr hpublishes
  · exact .inl (h.goto fun hpublishes' => absurd hpublishes' hpublishes)

theorem Pending.commit (events : List GameEvent)
    (voteCounts : List VoteCountDelta) : Pending game (state.commit events voteCounts) seq surface :=
  h.mono id (fun _ => id) ⟨events, rfl⟩ fun _ => id

theorem Pending.send (update : Option LiveProjectionUpdate) : Pending game (state.send update) seq surface :=
  h.mono id (fun _ hmem => List.mem_append_left _ hmem) ⟨[], (List.append_nil _).symm⟩ fun _ => id

end

theorem overtaken_of_commit (h : Kept game shows state) {voteCounts : List VoteCountDelta}
    (hover : Overtaken shows (state.commit events voteCounts) seq surface) :
    Overtaken shows state seq surface := by
  obtain ⟨observedSeq, deliveredAt, hat, hle, ⟨hshows, hchanges⟩, hlt⟩ := hover
  have hcursor : observedSeq ≤ state.events.length := h.opened observedSeq deliveredAt hat
  refine ⟨observedSeq, deliveredAt, hat, hle, ⟨hshows, ?_⟩, hlt⟩
  rw [← changesAt_append (by omega : seq ≤ state.events.length) events]
  exact hchanges

theorem le_currentGameEventSeq_commit (events : List GameEvent) (voteCounts : List VoteCountDelta) :
    state.currentGameEventSeq ≤ (state.commit events voteCounts).currentGameEventSeq := by
  unfold State.currentGameEventSeq State.commit
  rw [List.length_append]
  omega

theorem Kept.commit (h : Kept game shows state) (events : List GameEvent) (voteCounts : List VoteCountDelta) :
    Kept game shows (state.commit events voteCounts) where
  admitted observedSeq hat := Nat.le_trans (h.admitted observedSeq hat) (le_currentGameEventSeq_commit _ _)
  opened observedSeq deliveredAt hat :=
    Nat.le_trans (h.opened observedSeq deliveredAt hat) (le_currentGameEventSeq_commit _ _)
  pending seq surface hover := (h.pending seq surface (overtaken_of_commit h hover)).commit events voteCounts

theorem Kept.goto (h : Kept game shows state)
    (hnext : ∀ seq surface, (state.commands command).publishes seq → Overtaken shows state seq surface → Pending game (state.goto command next) seq surface) :
    Kept game shows (state.goto command next) :=
  { h with
    pending seq surface hover :=
      ((h.pending seq surface hover).goto_or next).elim id fun hpublishes => hnext seq surface hpublishes hover }

theorem Kept.goto_idle (h : Kept game shows state)
    (hat : ∀ seq, ¬ (state.commands command).publishes seq) : Kept game shows (state.goto command next) :=
  h.goto fun seq _ hpublishes _ => absurd hpublishes (hat seq)

/-- A session that is not open overtakes nothing. -/
theorem kept_of_not_opened {session : SessionState}
    (hadmitted : ∀ observedSeq, session = .admitted observedSeq → observedSeq ≤ state.currentGameEventSeq)
    (hopened : ∀ observedSeq deliveredAt, session ≠ .opened observedSeq deliveredAt)
    (queue : List LiveProjectionUpdate) (lagged : Bool) :
    Kept game shows { state with session, queue, lagged } where
  admitted := hadmitted
  opened observedSeq deliveredAt hat := absurd hat (hopened observedSeq deliveredAt)
  pending _ _ := by
    rintro ⟨observedSeq, deliveredAt, hat, -⟩
    exact absurd hat (hopened observedSeq deliveredAt)

/-- An update that is taken leaves every event behind the cursor delivered or pending. -/
theorem Kept.receive (h : Kept game shows state) {observedSeq : Nat} {deliveredAt : Surface → Nat}
    {rest : List LiveProjectionUpdate} (hat : state.session = .opened observedSeq deliveredAt)
    (hqueue : state.queue = update :: rest) (hlagged : state.lagged = false)
    (hclean : update.playerCommandStateDirty = false)
    (haccounts : Accounts game shows state (.receive update rest)) :
    Kept game shows (state.take rest (.opened state.currentGameEventSeq fun surface =>
      if delivers update state.events surface then state.currentGameEventSeq else deliveredAt surface)) where
  admitted _ hadmitted := by simp [State.take] at hadmitted
  opened observedSeq' deliveredAt' hopened := by
    obtain ⟨rfl, -⟩ := SessionState.opened.inj hopened
    exact Nat.le_refl _
  pending seq surface hover := by
    obtain ⟨observedSeq', deliveredAt', hopened, hle, hconcerns, hlt⟩ := hover
    obtain ⟨rfl, rfl⟩ := SessionState.opened.inj hopened
    dsimp only at hlt
    by_cases hdelivers : delivers update state.events surface = true
    · rw [if_pos hdelivers] at hlt
      omega
    · rw [if_neg hdelivers] at hlt
      have hnot : ¬ reaches update state.events surface = true := by
        unfold reaches
        simp [hclean, hdelivers]
      have hrest : Pending game { state with queue := rest } seq surface := by
        by_cases hpassed : seq ≤ observedSeq
        · obtain hlag | ⟨other, hmem, hsame, hreaches⟩ | hpublishes :=
            h.pending seq surface ⟨observedSeq, deliveredAt, hat, hpassed, hconcerns, hlt⟩
          · exact absurd hlag (by simp [hlagged])
          · rw [hqueue] at hmem
            obtain rfl | hmem := List.mem_cons.1 hmem
            · exact absurd hreaches hnot
            · exact .inr (.inl ⟨other, hmem, hsame, hreaches⟩)
          · exact .inr (.inr hpublishes)
        · refine (haccounts seq surface hconcerns fun observed delivered hopened => ?_).resolve_left hnot
          obtain ⟨rfl, -⟩ := SessionState.opened.inj (hat.symm.trans hopened)
          omega
      exact hrest

/-- **Every accounted step keeps what the cursor has passed delivered or pending.** -/
theorem Kept.step (h : Kept game shows state) (hstep : AccountedStep game shows state state') :
    Kept game shows state' := by
  obtain ⟨label, hstep, haccounts⟩ := hstep
  cases hstep with
  | classify dirty hat
  | readVotecount hat _
  | readThread hat _
  | guard hat
  | reject hat
  | finish hat => exact h.goto_idle fun seq => by simp [hat, CommandState.publishes]
  | commit events voteCounts hat =>
    refine (h.commit events voteCounts).goto_idle fun seq => ?_
    unfold State.commit
    simp [hat, CommandState.publishes]
  | readCurrent hat =>
    refine h.goto fun seq surface hpublishes hover => (h.pending seq surface hover).goto fun _ => ?_
    rw [hat] at hpublishes
    exact hpublishes
  | @publish command first last change current hat =>
    refine ⟨h.admitted, h.opened, fun seq surface hover => ?_⟩
    obtain hpending | hpublishes := (h.pending seq surface hover).goto_or .published
    · exact hpending.send _
    · exact haccounts seq surface hpublishes hover
  | abandon hinflight => exact h.goto haccounts
  | elsewhere events voteCounts => exact h.commit events voteCounts
  | otherGame hother =>
    exact ⟨h.admitted, h.opened, fun seq surface hover => (h.pending seq surface hover).send _⟩
  | overflow dropped => exact ⟨h.admitted, h.opened, fun _ _ _ => .inl rfl⟩
  | subscribe hat => exact kept_of_not_opened (by simp) (by simp) [] false
  | baseline hat =>
    refine kept_of_not_opened (fun observedSeq hadmitted => ?_) (by simp) state.queue state.lagged
    obtain rfl := SessionState.admitted.inj hadmitted
    exact Nat.le_refl _
  | hello hat =>
    refine ⟨by simp, fun observedSeq deliveredAt hopened => ?_, fun seq surface hover => ?_⟩
    · obtain ⟨rfl, -⟩ := SessionState.opened.inj hopened
      exact h.admitted _ hat
    · obtain ⟨observedSeq, deliveredAt, hopened, hle, -, hlt⟩ := hover
      obtain ⟨rfl, rfl⟩ := SessionState.opened.inj hopened
      have hcursor := h.admitted _ hat
      dsimp only at hlt
      omega
  | receiveOther hqueue hlagged hother =>
    refine ⟨h.admitted, h.opened, fun seq surface hover => ?_⟩
    obtain hlag | ⟨other, hmem, hsame, hreaches⟩ | hpublishes := h.pending seq surface hover
    · exact .inl hlag
    · rw [hqueue] at hmem
      obtain rfl | hmem := List.mem_cons.1 hmem
      · exact absurd hsame hother
      · exact .inr (.inl ⟨other, hmem, hsame, hreaches⟩)
    · exact .inr (.inr hpublishes)
  | receive hat hqueue hlagged _ hclean => exact h.receive hat hqueue hlagged hclean haccounts
  | wake hat _ _ _ => exact ⟨h.admitted, h.opened, h.pending⟩
  | endSession => exact kept_of_not_opened (by simp) (by simp) state.queue state.lagged

theorem kept_start (events : List GameEvent) (voteCounts : List VoteCountDelta) :
    Kept game shows { events, voteCounts } where
  admitted _ hat := by simp at hat
  opened _ _ hat := by simp at hat
  pending _ _ := by
    rintro ⟨observedSeq, deliveredAt, hat, -⟩
    simp at hat

theorem inflight_of_publishes {command : CommandState} (h : command.publishes seq) :
    command.inflight = true := by
  cases command <;> first | rfl | exact h.elim

/-- **An open session has delivered every surface it shows after the last event up to its cursor that
changes it**, once no command is in flight and its receiver is empty, in every run that accounts for every
event. -/
theorem session_delivers_changes {events : List GameEvent} {voteCounts : List VoteCountDelta}
    (hrun : ReflTransGen (AccountedStep game shows) { events, voteCounts } state)
    (hquiescent : Quiescent state) : Delivered shows state := by
  have hkept : Kept game shows state := by
    clear hquiescent
    induction hrun with
    | refl => exact kept_start events voteCounts
    | tail _ hstep ih => exact ih.step hstep
  intro observedSeq deliveredAt hat seq surface hle hconcerns
  by_contra hlate
  obtain hlag | ⟨update, hmem, -⟩ | ⟨command, hpublishes⟩ :=
    hkept.pending seq surface ⟨observedSeq, deliveredAt, hat, hle, hconcerns, by omega⟩
  · exact absurd hlag (by simp [hquiescent.lagged])
  · exact absurd hmem (by simp [hquiescent.queue])
  · exact hquiescent.inflight ⟨command, inflight_of_publishes hpublishes⟩

/-! ### A post and a phase that is locked -/

/-- A post in the main thread. -/
def posted : GameEvent where
  changes surface := surface = .thread

/-- A phase that the scheduler has locked at its deadline. -/
def lockedByScheduler : GameEvent where
  changes surface := surface = .hostConsole || surface = .playerCommandState

/-- What a command marks that submits a post. -/
def postDirty : DirtySurfaces := { thread := true, playerPrivate := true }

theorem not_hasInflight (h : ∀ command, command ≠ 0 → state.commands command = .idle)
    (hfirst : state.commands 0 = .idle) : ¬ state.hasInflight := by
  rintro ⟨command, hinflight⟩
  by_cases hcommand : command = 0
  · rw [hcommand, hfirst] at hinflight
    cases hinflight
  · rw [h command hcommand] at hinflight
    cases hinflight

theorem concerns_posted {state : State} (hevents : state.events = [posted])
    (h : Concerns (fun _ => true) state seq surface) : seq = 1 ∧ surface = .thread := by
  obtain ⟨-, hchanges⟩ := h
  rw [hevents] at hchanges
  have hle := le_length_of_changesAt hchanges
  unfold changesAt at hchanges
  rw [Bool.and_eq_true, decide_eq_true_iff] at hchanges
  obtain rfl : seq = 1 := by
    have hone : seq ≤ 1 := hle
    omega
  exact ⟨rfl, by simpa [posted] using hchanges.2⟩

/-- A post alone is delivered. -/
theorem post_delivered : ∃ state : State, state.events = [posted] ∧ Delivered (fun _ => true) state ∧
    ∃ deliveredAt, state.session = .opened 1 deliveredAt ∧ deliveredAt .thread = 1 := by
  have go {a b c : State} (h : ReflTransGen (AccountedStep 1 fun _ => true) a b)
      (hstep : Step 1 .other b c) : ReflTransGen (AccountedStep 1 fun _ => true) a c :=
    h.tail ⟨.other, hstep, trivial⟩
  have hopened := go (go (go (.refl (a := {})) (.subscribe rfl)) (.baseline rfl)) (.hello rfl)
  have hguarded := go (go (go (go hopened (@Step.classify 1 _ 0 postDirty rfl))
    (@Step.readVotecount 1 _ 0 _ none rfl (by simp)))
    (@Step.readThread 1 _ 0 _ _ (some 0) rfl fun seq hseq => by
      obtain rfl := Option.some.inj hseq
      exact ⟨rfl, rfl⟩))
    (@Step.guard 1 _ 0 _ rfl)
  have hread := go (go hguarded (@Step.commit 1 _ 0 _ [posted] [] rfl)) (@Step.readCurrent 1 _ 0 _ _ _ rfl)
  have hpublished := hread.tail ⟨_, @Step.publish 1 _ 0 _ _ _ _ rfl, fun seq surface _ hover => by
    obtain ⟨observedSeq, deliveredAt, hat, hle, hconcerns, -⟩ := hover
    obtain ⟨rfl, -⟩ := SessionState.opened.inj hat
    obtain ⟨rfl, -⟩ := concerns_posted rfl hconcerns
    exact absurd hle (by decide)⟩
  have hfinished := go hpublished (@Step.finish 1 _ 0 rfl)
  have hreceived := hfinished.tail ⟨_, .receive rfl rfl rfl rfl rfl, fun seq surface hconcerns _ => by
    obtain ⟨rfl, rfl⟩ := concerns_posted rfl hconcerns
    exact .inl (by decide)⟩
  have hwoken := go hreceived (.wake rfl rfl rfl (.inr (Nat.le_refl _)))
  refine ⟨_, rfl, session_delivers_changes hwoken
    ⟨not_hasInflight (fun command _ => ?_) rfl, rfl, rfl, rfl⟩, _, rfl, rfl⟩
  simp [State.take, State.send, State.goto, State.commit]

/-- A post is published after the scheduler has locked the phase: the session delivers the thread, moves its
cursor past the lock, and never shows it to the host. -/
theorem update_absorbs_commit : ∃ state, ReflTransGen (fun state state' => ∃ label, Step 1 label state state')
    {} state ∧ Quiescent state ∧ ¬ Delivered (fun _ => true) state := by
  have go {a b c : State} {label : Label} (h : ReflTransGen (fun state state' => ∃ label, Step 1 label state
      state') a b) (hstep : Step 1 label b c) :
      ReflTransGen (fun state state' => ∃ label, Step 1 label state state') a c := h.tail ⟨label, hstep⟩
  -- A host connects, and a post is submitted.
  have hopened := go (go (go (.refl (a := {})) (.subscribe rfl)) (.baseline rfl)) (.hello rfl)
  have hguarded := go (go (go (go hopened (@Step.classify 1 _ 0 postDirty rfl))
    (@Step.readVotecount 1 _ 0 _ none rfl (by simp)))
    (@Step.readThread 1 _ 0 _ _ (some 0) rfl fun seq hseq => by
      obtain rfl := Option.some.inj hseq
      exact ⟨rfl, rfl⟩))
    (@Step.guard 1 _ 0 _ rfl)
  -- It is committed, then the lock is, and then the post is published.
  have hcommitted := go (go hguarded (@Step.commit 1 _ 0 _ [posted] [] rfl)) (.elsewhere [lockedByScheduler] [])
  have hpublished := go (go (go hcommitted (@Step.readCurrent 1 _ 0 _ _ _ rfl)) (@Step.publish 1 _ 0 _ _ _ _ rfl))
    (@Step.finish 1 _ 0 rfl)
  -- The session takes the update, and is woken.
  have hwoken := go (go hpublished (.receive rfl rfl rfl rfl rfl)) (.wake rfl rfl rfl (.inr (Nat.le_refl _)))
  refine ⟨_, hwoken, ⟨not_hasInflight (fun command _ => ?_) rfl, rfl, rfl, rfl⟩, fun hdelivered => ?_⟩
  · simp [State.take, State.send, State.goto, State.commit]
  · have hle := hdelivered 2 _ rfl 2 .hostConsole (Nat.le_refl _) ⟨rfl, rfl⟩
    cases hle

end Fmarch.Api.LiveSession
