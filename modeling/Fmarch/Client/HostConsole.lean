import Fmarch.Wire.HostConsole
import Mathlib.Data.List.Lex

/-!
# The host console on the page (`host-command-boundary.mjs`)

`projectHostConsoleState` makes the page's console of a state, and `applyHostConsoleLiveDelta` patches it
with a live delta. Slots, posts, seats and the scheduler's posture are kept as they come, and whole numbers
are exact. The `replacement` draft is left out, which nothing else of the console is made from; so are
fields of a page's first console that no state has. How a deadline is written is a parameter.

**`host_patched_iff`**: folding the patches of two states over the console of the first gives the console of the
second exactly if no list gets a row before one it had, nor two of its rows in another order, and the
scheduler does not go away (`HostInStep`).
-/

namespace Fmarch.Client

open Domain Platform Wire

/-! ## Texts -/

/-- The code units of a text. -/
def codeUnits (text : String) : List Nat :=
  text.toList.flatMap fun c =>
    if c.toNat < 0x10000 then [c.toNat]
    else [0xD800 + (c.toNat - 0x10000) / 0x400, 0xDC00 + (c.toNat - 0x10000) % 0x400]

/-- `[...new Set(texts)].sort()`. -/
def sortedSet (texts : List String) : List String :=
  texts.eraseDups.mergeSort fun a b => codeUnits a ≤ codeUnits b

/-- The white space that `trim` takes off. -/
def isTrimmed (c : Char) : Bool := (Platform.isWhitespace c && c.toNat != 0x85) || c.toNat == 0xFEFF

/-- `String.prototype.trim`. -/
def trimText (text : String) : String :=
  .ofList ((text.toList.dropWhile isTrimmed).reverse.dropWhile isTrimmed).reverse

/-! ## Authority and phase -/

/-- What the console shows of its host's authority. -/
structure HostAuthority where
  principalId : Uuid
  capabilityKind : HostConsoleAuthorityKind
  allowedClasses : List String
  deniedClasses : List String

def normalizeHostConsoleAuthority (authority : HostConsoleAuthorityDelta) : HostAuthority where
  principalId := authority.principalId
  capabilityKind := authority.capability
  allowedClasses := sortedSet (authority.allowedClasses.map (·.code))
  deniedClasses := sortedSet (authority.deniedClasses.map (·.code))

/-- What the console shows of a phase. -/
structure HostPhase where
  id : PhaseId
  label : String
  locked : Bool
  state : String
  lockedLabel : String
  deadlineLabel : String
  deadline : Option Int

def phaseLabelFromId (phase : PhaseId) : String :=
  phase.kind.name ++ " " ++ toString phase.number ++
    (phase.revote.map fun revote => " revote " ++ toString revote).getD ""

/-- `projectHostConsolePhase`, for a phase that carries its lock and its deadline. -/
def projectHostConsolePhase (formatDeadline : Int → String) (phase : HostConsolePhaseStateDelta) :
    HostPhase where
  id := phase.phaseId
  label := phaseLabelFromId phase.phaseId
  locked := phase.locked
  state := if phase.locked then "locked" else "open"
  lockedLabel := if phase.locked then "Thread locked" else "Thread open"
  deadlineLabel := (phase.deadline.map formatDeadline).getD "No deadline extension committed"
  deadline := phase.deadline

/-! ## Day events -/

/-- What the console shows of a day event's room. -/
structure HostDayEventRoom where
  eventId : String
  channelId : String
  templateKey : String
  state : String
  membership : EventChannelMembership
  memberCount : Nat
  postingAllowed : Bool

/-- `normalizeDayEventRoom`; states are ASCII. -/
def normalizeDayEventRoom (room : DayEventRoomDelta) : Option HostDayEventRoom :=
  let eventId := trimText room.eventId
  let channelId := trimText room.channelId
  if eventId = "" || !channelId.startsWith "private:event:" then none
  else
    let state := (trimText room.state).toLower
    some {
      eventId
      channelId
      templateKey := trimText room.templateKey
      state
      membership := room.membership
      memberCount := room.memberCount
      postingAllowed := room.postingAllowed && state == "open" }

structure ResolutionEvidence where
  kind : String
  policyKind : Option String
  winnerCount : Option Nat
  seed : Option Nat
  participantSlots : List String

/-- The `resolutionEvidence` of a day event. -/
def resolutionEvidence : DayEventResolutionEvidence → ResolutionEvidence
  | .hostDecision participantSlots =>
    { kind := "host_decision", policyKind := none, winnerCount := none, seed := none,
      participantSlots := sortedSet participantSlots }
  | .auto (.firstN winners) seed participantSlots =>
    { kind := "auto", policyKind := some "first_n", winnerCount := some winners, seed,
      participantSlots := sortedSet participantSlots }
  | .auto (.seededRandom winners) seed participantSlots =>
    { kind := "auto", policyKind := some "seeded_random", winnerCount := some winners, seed,
      participantSlots := sortedSet participantSlots }

/-- Where a narrative stands among the others. -/
def lifecycleIndex : NarrativeLifecycle → Nat
  | .opened => 0
  | .locked => 1
  | .resolved => 2
  | .cancelled => 3

/-- What the console shows of a reward. -/
structure HostReward where
  key : String
  labelKey : String
  effectCount : Nat

/-- What the console shows of a day event. -/
structure HostDayEvent where
  eventId : String
  state : String
  phaseId : Option PhaseId
  templateKey : String
  room : Option HostDayEventRoom
  openDueAt : Option Int
  openObservedAt : Option Int
  lockDueAt : Option Int
  lockObservedAt : Option Int
  autoSeed : Option Nat
  resolutionEvidence : Option ResolutionEvidence
  winnerSlots : List String
  rewardKeysApplied : List String
  narratives : List DayEventNarrativeDelta
  who : ParticipantFilter
  mode : ParticipationMode
  minimum : Nat
  maximum : Option Nat
  participantSlots : List String
  rewards : List HostReward

variable {D : Type}

/-- The row of a day event, under an id. -/
def hostDayEvent (eventId : String) (event : HostDayEventDelta D) : HostDayEvent where
  eventId := eventId
  state := event.state
  phaseId := event.phaseId
  templateKey := event.definition.templateKey
  room := event.room.bind normalizeDayEventRoom
  openDueAt := event.openDueAt
  openObservedAt := event.openObservedAt
  lockDueAt := event.lockDueAt
  lockObservedAt := event.lockObservedAt
  autoSeed := event.autoSeed
  resolutionEvidence := event.resolutionEvidence.map Client.resolutionEvidence
  winnerSlots := sortedSet event.winnerSlots
  rewardKeysApplied := sortedSet event.rewardKeysApplied
  narratives := event.narratives.mergeSort fun a b => lifecycleIndex a.lifecycle ≤ lifecycleIndex b.lifecycle
  who := event.definition.who
  mode := event.definition.mode
  minimum := event.definition.minimum
  maximum := event.definition.maximum
  participantSlots := sortedSet event.participantSlots
  rewards := event.definition.rewards.map fun reward =>
    { key := reward.rewardKey, labelKey := reward.displayNameThemeKey, effectCount := reward.effects.length }

def normalizeHostDayEvent (event : HostDayEventDelta D) : Option HostDayEvent :=
  let eventId := trimText event.eventId
  if eventId = "" then none else some (hostDayEvent eventId event)

/-! ## Tasks and the scheduler -/

/-- What the console shows of a task. -/
structure HostTask where
  id : String
  kind : HostTaskKind
  state : HostTaskState
  intent : String
  consequence : String
  phaseId : Option PhaseId
  subjectSlot : Option String
  sourceId : String
  allowedCommands : List HostTaskAllowedCommand
  blockedReason : Option String

def normalizeHostTask (task : HostTaskDelta) : Option HostTask :=
  let id := trimText task.id
  let sourceId := trimText task.sourceId
  if id = "" || sourceId = "" then none
  else
    some {
      id
      kind := task.kind
      state := task.state
      intent := task.intent
      consequence := task.consequence
      phaseId := task.phaseId
      subjectSlot := task.subjectSlot
      sourceId
      allowedCommands := task.allowedCommands
      blockedReason := task.blockedReason }

/-- `normalizeDayEventScheduler`: without a posture it is the one of the fallback. -/
def normalizeDayEventScheduler (scheduler fallback : Option DayEventSchedulerDelta) :
    Option DayEventSchedulerDelta :=
  match scheduler with
  | some scheduler => some scheduler
  | none => fallback

/-! ## The console -/

/-- The page's console. -/
structure HostConsole where
  authority : HostAuthority
  dayEventScheduler : Option DayEventSchedulerDelta
  tasks : List HostTask
  dayEvents : List HostDayEvent
  completed : Bool
  phase : Option HostPhase
  roster : List GameRosterSeat
  slots : List HostConsoleSlotOccupancyDelta
  threadPosts : List HostConsoleThreadPostDelta

variable (formatDeadline : Int → String)

def projectHostConsoleState (state : HostConsoleStateDelta D) (fallback : HostConsole) : HostConsole where
  authority := normalizeHostConsoleAuthority state.authority
  dayEventScheduler := normalizeDayEventScheduler state.dayEventScheduler fallback.dayEventScheduler
  tasks := state.tasks.filterMap normalizeHostTask
  dayEvents := state.dayEvents.filterMap normalizeHostDayEvent
  completed := state.completed
  phase := state.phase.map (projectHostConsolePhase formatDeadline)
  roster := state.roster
  slots := state.slots
  threadPosts := state.threadPosts

def applyHostConsoleLiveDelta (previous : HostConsole) : HostConsoleDelta D → HostConsole
  | .stateChanged state => projectHostConsoleState formatDeadline state previous
  | .headerChanged authority completed phase =>
    { previous with
      authority := normalizeHostConsoleAuthority authority
      completed
      phase := phase.map (projectHostConsolePhase formatDeadline) }
  | .slotsChanged slots removedSlotIds =>
    let upserts := KeyedPatch.entriesMap (slots.map fun slot => (slot.slotId, slot))
    { previous with
      slots := KeyedPatch.upsertKeyedList (·.slotId) previous.slots upserts removedSlotIds }
  | .rosterChanged roster => { previous with roster }
  | .threadPostsChanged posts =>
    let upserts := KeyedPatch.entriesMap (posts.map fun post => (post.streamSeq, post))
    { previous with
      threadPosts := KeyedPatch.upsertKeyedList (·.streamSeq) previous.threadPosts upserts [] }
  | .threadPostRemoved streamSeq =>
    { previous with threadPosts := previous.threadPosts.filter (·.streamSeq ≠ streamSeq) }
  | .dayEventsChanged dayEvents removedEventIds =>
    let upserts := KeyedPatch.entriesMap
      ((dayEvents.filterMap normalizeHostDayEvent).map fun event => (event.eventId, event))
    { previous with
      dayEvents := KeyedPatch.upsertKeyedList (·.eventId) previous.dayEvents upserts removedEventIds }
  | .schedulerChanged scheduler =>
    { previous with
      dayEventScheduler := normalizeDayEventScheduler scheduler previous.dayEventScheduler }
  | .tasksChanged tasks => { previous with tasks := tasks.filterMap normalizeHostTask }

/-! ## What the patches do -/

section Patches

variable {formatDeadline} {previous current : HostConsoleStateDelta D} {console : HostConsole}

theorem foldl_deltaIf {tell : Bool} {delta : HostConsoleDelta D}
    (h : tell = false → applyHostConsoleLiveDelta formatDeadline console delta = console) :
    (deltaIf tell delta).foldl (applyHostConsoleLiveDelta formatDeadline) console =
      applyHostConsoleLiveDelta formatDeadline console delta := by
  cases tell with
  | true => rfl
  | false => exact (h rfl).symm

/-- The removals of posts, one after the other. -/
theorem foldl_threadPostRemoved (removed : List Int) (console : HostConsole) :
    (removed.map HostConsoleDelta.threadPostRemoved).foldl
        (@applyHostConsoleLiveDelta D formatDeadline) console =
      { console with threadPosts := console.threadPosts.filter (·.streamSeq ∉ removed) } := by
  induction removed generalizing console with
  | nil => simp
  | cons streamSeq removed ih =>
    rw [List.map_cons, List.foldl_cons, ih]
    unfold applyHostConsoleLiveDelta
    simp only [List.filter_filter, List.mem_cons, not_or, Bool.decide_and, Bool.and_comm]

/-- An event whose id the page reads as it is. -/
def Plain (event : HostDayEventDelta D) : Prop :=
  trimText event.eventId = event.eventId ∧ event.eventId ≠ ""

instance (event : HostDayEventDelta D) : Decidable (Plain event) := inferInstanceAs (Decidable (_ ∧ _))

/-- The row of a day event the page reads as it is. -/
def shownDayEvent (event : HostDayEventDelta D) : HostDayEvent := hostDayEvent event.eventId event

theorem normalizeHostDayEvents_eq {events : List (HostDayEventDelta D)} (h : ∀ event ∈ events, Plain event) :
    events.filterMap normalizeHostDayEvent = events.map shownDayEvent := by
  rw [← List.filterMap_eq_map]
  refine List.filterMap_congr fun event hevent => ?_
  obtain ⟨htrim, hblank⟩ := h event hevent
  unfold normalizeHostDayEvent
  rw [htrim]
  exact if_neg hblank

variable [DecidableEq D]

omit [DecidableEq D] in
theorem foldl_header (hauthority : console.authority = normalizeHostConsoleAuthority previous.authority)
    (hcompleted : console.completed = previous.completed)
    (hphase : console.phase = previous.phase.map (projectHostConsolePhase formatDeadline)) :
    (deltaIf (previous.authority ≠ current.authority || previous.completed ≠ current.completed ||
        previous.phase ≠ current.phase) (@HostConsoleDelta.headerChanged D current.authority
          current.completed current.phase)).foldl (applyHostConsoleLiveDelta formatDeadline) console =
      { console with
        authority := normalizeHostConsoleAuthority current.authority
        completed := current.completed
        phase := current.phase.map (projectHostConsolePhase formatDeadline) } := by
  refine foldl_deltaIf fun hsame => ?_
  simp only [Bool.or_eq_false_iff, decide_eq_false_iff_not, not_not] at hsame
  obtain ⟨⟨hsameAuthority, hsameCompleted⟩, hsamePhase⟩ := hsame
  unfold applyHostConsoleLiveDelta
  dsimp only
  rw [← hsameAuthority, ← hsameCompleted, ← hsamePhase, ← hauthority, ← hcompleted, ← hphase]

theorem upsertKeyedList_unchanged {α β κ : Type} [DecidableEq κ] {key : β → κ} {items : List β}
    {changed : List α} {removed : List κ} {entry : α → κ × β}
    (h : (!changed.isEmpty || !removed.isEmpty) = false) :
    KeyedPatch.upsertKeyedList key items (KeyedPatch.entriesMap (changed.map entry)) removed = items := by
  simp only [Bool.or_eq_false_iff, Bool.not_eq_false', List.isEmpty_iff] at h
  rw [h.1, h.2]
  exact KeyedPatch.upsertKeyedList_nil

omit [DecidableEq D] in
theorem foldl_slots (slots : List HostConsoleSlotOccupancyDelta) (removed : List String)
    (console : HostConsole) :
    (deltaIf (!slots.isEmpty || !removed.isEmpty) (@HostConsoleDelta.slotsChanged D slots removed)).foldl
        (applyHostConsoleLiveDelta formatDeadline) console =
      { console with
        slots := KeyedPatch.upsertKeyedList (·.slotId) console.slots
          (KeyedPatch.entriesMap (slots.map fun slot => (slot.slotId, slot))) removed } := by
  refine foldl_deltaIf fun hsame => ?_
  unfold applyHostConsoleLiveDelta
  dsimp only
  rw [upsertKeyedList_unchanged hsame]

omit [DecidableEq D] in
theorem foldl_posts (posts : List HostConsoleThreadPostDelta) (console : HostConsole) :
    (deltaIf (!posts.isEmpty) (@HostConsoleDelta.threadPostsChanged D posts)).foldl
        (applyHostConsoleLiveDelta formatDeadline) console =
      { console with
        threadPosts := KeyedPatch.upsertKeyedList (·.streamSeq) console.threadPosts
          (KeyedPatch.entriesMap (posts.map fun post => (post.streamSeq, post))) [] } := by
  refine foldl_deltaIf fun hsame => ?_
  unfold applyHostConsoleLiveDelta
  dsimp only
  rw [upsertKeyedList_unchanged (by simpa using hsame)]

omit [DecidableEq D] in
theorem foldl_dayEvents (events : List (HostDayEventDelta D)) (removed : List String)
    (console : HostConsole) :
    (deltaIf (!events.isEmpty || !removed.isEmpty) (.dayEventsChanged events removed)).foldl
        (applyHostConsoleLiveDelta formatDeadline) console =
      { console with
        dayEvents := KeyedPatch.upsertKeyedList (·.eventId) console.dayEvents
          (KeyedPatch.entriesMap ((events.filterMap normalizeHostDayEvent).map
            fun event => (event.eventId, event))) removed } := by
  refine foldl_deltaIf fun hsame => ?_
  unfold applyHostConsoleLiveDelta
  dsimp only
  rw [upsertKeyedList_unchanged]
  simp only [Bool.or_eq_false_iff, Bool.not_eq_false', List.isEmpty_iff] at hsame ⊢
  exact ⟨by rw [hsame.1]; rfl, hsame.2⟩

omit [DecidableEq D] in
theorem foldl_whole {α : Type} [DecidableEq α] {before now : α} {delta : HostConsoleDelta D}
    (h : before = now → applyHostConsoleLiveDelta formatDeadline console delta = console) :
    (deltaIf (decide (before ≠ now)) delta).foldl (applyHostConsoleLiveDelta formatDeadline) console =
      applyHostConsoleLiveDelta formatDeadline console delta :=
  foldl_deltaIf fun hsame => h (by simpa using hsame)

omit [DecidableEq D] in
theorem foldl_roster (h : console.roster = previous.roster) :
    (deltaIf (decide (previous.roster ≠ current.roster)) (@HostConsoleDelta.rosterChanged D
        current.roster)).foldl (applyHostConsoleLiveDelta formatDeadline) console =
      { console with roster := current.roster } := by
  refine foldl_whole fun hsame => ?_
  unfold applyHostConsoleLiveDelta
  dsimp only
  rw [← hsame, ← h]

omit [DecidableEq D] in
theorem foldl_scheduler {fallback : Option DayEventSchedulerDelta}
    (h : console.dayEventScheduler = normalizeDayEventScheduler previous.dayEventScheduler fallback) :
    (deltaIf (decide (previous.dayEventScheduler ≠ current.dayEventScheduler))
        (@HostConsoleDelta.schedulerChanged D current.dayEventScheduler)).foldl
        (applyHostConsoleLiveDelta formatDeadline) console =
      { console with
        dayEventScheduler := normalizeDayEventScheduler current.dayEventScheduler
          console.dayEventScheduler } := by
  refine foldl_whole fun hsame => ?_
  have hkept : normalizeDayEventScheduler previous.dayEventScheduler console.dayEventScheduler =
      console.dayEventScheduler := by
    rw [h]
    cases previous.dayEventScheduler <;> rfl
  unfold applyHostConsoleLiveDelta
  dsimp only
  rw [← hsame, hkept]

omit [DecidableEq D] in
theorem foldl_tasks (h : console.tasks = previous.tasks.filterMap normalizeHostTask) :
    (deltaIf (decide (previous.tasks ≠ current.tasks)) (@HostConsoleDelta.tasksChanged D
        current.tasks)).foldl (applyHostConsoleLiveDelta formatDeadline) console =
      { console with tasks := current.tasks.filterMap normalizeHostTask } := by
  refine foldl_whole fun hsame => ?_
  unfold applyHostConsoleLiveDelta
  dsimp only
  rw [← hsame, ← h]

end Patches

/-! ## Patching against projecting -/

section Patching

variable {formatDeadline} [DecidableEq D] {previous current : HostConsoleStateDelta D}
  {fallback : HostConsole}

variable (formatDeadline previous current fallback) in
/-- The console that the patches lead to. -/
def patchedConsole : HostConsole where
  authority := normalizeHostConsoleAuthority current.authority
  dayEventScheduler := normalizeDayEventScheduler current.dayEventScheduler
    (normalizeDayEventScheduler previous.dayEventScheduler fallback.dayEventScheduler)
  tasks := current.tasks.filterMap normalizeHostTask
  dayEvents := KeyedPatch.upsertKeyedList (·.eventId) (previous.dayEvents.filterMap normalizeHostDayEvent)
    (KeyedPatch.entriesMap (((KeyedPatch.changed (·.eventId) previous.dayEvents
      current.dayEvents).filterMap normalizeHostDayEvent).map fun event => (event.eventId, event)))
    (KeyedPatch.removed (·.eventId) previous.dayEvents current.dayEvents)
  completed := current.completed
  phase := current.phase.map (projectHostConsolePhase formatDeadline)
  roster := current.roster
  slots := KeyedPatch.upsertKeyedList (·.slotId) previous.slots
    (KeyedPatch.entriesMap ((KeyedPatch.changed (·.slotId) previous.slots current.slots).map
      fun slot => (slot.slotId, slot)))
    (KeyedPatch.removed (·.slotId) previous.slots current.slots)
  threadPosts := (KeyedPatch.upsertKeyedList (·.streamSeq) previous.threadPosts
    (KeyedPatch.entriesMap ((KeyedPatch.changed (·.streamSeq) previous.threadPosts
      current.threadPosts).map fun post => (post.streamSeq, post))) []).filter
    (·.streamSeq ∉ KeyedPatch.removed (·.streamSeq) previous.threadPosts current.threadPosts)

theorem foldl_patches (hgame : previous.game = current.game) :
    (hostConsolePatches (some previous) current).foldl (applyHostConsoleLiveDelta formatDeadline)
        (projectHostConsoleState formatDeadline previous fallback) =
      patchedConsole formatDeadline previous current fallback := by
  unfold hostConsolePatches
  rw [Option.filter_some_pos (by simpa using hgame)]
  dsimp only
  rw [List.foldl_append, List.foldl_append, List.foldl_append, List.foldl_append, List.foldl_append,
    List.foldl_append, List.foldl_append, foldl_header rfl rfl rfl, foldl_slots, foldl_roster rfl,
    foldl_posts, foldl_threadPostRemoved, foldl_scheduler rfl, foldl_dayEvents, foldl_tasks rfl]
  rfl

/-- No list gets a row before one it had, nor two of its rows in another order, and the scheduler does not
go away. -/
structure HostInStep (previous current : HostConsoleStateDelta D) (fallback : HostConsole) : Prop where
  slots : KeyedPatch.InOrder (·.slotId) previous.slots current.slots
  threadPosts : KeyedPatch.InOrder (·.streamSeq) previous.threadPosts current.threadPosts
  dayEvents : KeyedPatch.InOrder (·.eventId) previous.dayEvents current.dayEvents
  scheduler : current.dayEventScheduler = none → previous.dayEventScheduler = none ∨
    previous.dayEventScheduler = fallback.dayEventScheduler

/-- The rows of a state have distinct keys. -/
structure Unique (state : HostConsoleStateDelta D) : Prop where
  slots : (state.slots.map (·.slotId)).Nodup
  threadPosts : (state.threadPosts.map (·.streamSeq)).Nodup
  dayEvents : (state.dayEvents.map (·.eventId)).Nodup

theorem entriesMap_rows {α κ : Type} [DecidableEq α] [DecidableEq κ] {key : α → κ} {before now : List α}
    (hnow : (now.map key).Nodup) :
    KeyedPatch.entriesMap ((KeyedPatch.changed key before now).map fun item => (key item, item)) =
      (KeyedPatch.changed key before now).map fun item => (key item, item) :=
  KeyedPatch.entriesMap_eq (@KeyedPatch.entries_nodup α α κ _ key before now _ id hnow)

/-- A part that the page keeps as it comes. -/
theorem upsertKeyedList_rows {α κ : Type} [DecidableEq α] [DecidableEq κ] {key : α → κ} {before now : List α}
    (hbefore : (before.map key).Nodup) (hnow : (now.map key).Nodup) :
    KeyedPatch.upsertKeyedList key before
        (KeyedPatch.entriesMap ((KeyedPatch.changed key before now).map fun item => (key item, item)))
        (KeyedPatch.removed key before now) = now ↔ KeyedPatch.InOrder key before now := by
  have h := @KeyedPatch.upsertKeyedList_eq_iff α α κ _ key before now _ id key hbefore hnow
    fun _ _ => rfl
  rw [entriesMap_rows hnow]
  simpa only [List.map_id, id_eq] using h

theorem posts_patched_iff (hprevious : Unique previous) (hcurrent : Unique current) :
    (patchedConsole formatDeadline previous current fallback).threadPosts = current.threadPosts ↔
      KeyedPatch.InOrder (·.streamSeq) previous.threadPosts current.threadPosts := by
  rw [← upsertKeyedList_rows hprevious.threadPosts hcurrent.threadPosts]
  unfold patchedConsole
  dsimp only
  rw [entriesMap_rows hcurrent.threadPosts, KeyedPatch.filter_upsertKeyedList _ (fun entry hentry => ?_) fun entry hentry => ?_]
  · obtain ⟨post, -, rfl⟩ := List.mem_map.1 hentry
    rfl
  · obtain ⟨post, hpost, rfl⟩ := List.mem_map.1 hentry
    obtain ⟨hmem, -⟩ := (KeyedPatch.mem_changed hprevious.threadPosts).1 hpost
    exact fun hgone => (KeyedPatch.mem_removed.1 hgone).2 (List.mem_map_of_mem hmem)

theorem dayEvents_patched_iff (hprevious : Unique previous) (hcurrent : Unique current)
    (hplain : ∀ event ∈ previous.dayEvents ++ current.dayEvents, Plain event) :
    (patchedConsole formatDeadline previous current fallback).dayEvents =
        current.dayEvents.filterMap normalizeHostDayEvent ↔
      KeyedPatch.InOrder (·.eventId) previous.dayEvents current.dayEvents := by
  have hbefore : ∀ event ∈ previous.dayEvents, Plain event := fun event h =>
    hplain event (List.mem_append_left _ h)
  have hnow : ∀ event ∈ current.dayEvents, Plain event := fun event h =>
    hplain event (List.mem_append_right _ h)
  have hchanged : ∀ event ∈ KeyedPatch.changed (·.eventId) previous.dayEvents current.dayEvents,
      Plain event := fun event h => hnow event ((KeyedPatch.mem_changed hprevious.dayEvents).1 h).1
  rw [← @KeyedPatch.upsertKeyedList_eq_iff _ _ _ _ (·.eventId) previous.dayEvents current.dayEvents _
    shownDayEvent (·.eventId) hprevious.dayEvents hcurrent.dayEvents fun _ _ => rfl]
  unfold patchedConsole
  dsimp only
  rw [normalizeHostDayEvents_eq hbefore, normalizeHostDayEvents_eq hnow, normalizeHostDayEvents_eq hchanged,
    List.map_map]
  exact Iff.of_eq (by rw [← KeyedPatch.entriesMap_eq (KeyedPatch.entries_nodup hcurrent.dayEvents)]; rfl)

theorem scheduler_patched_iff : (patchedConsole formatDeadline previous current fallback).dayEventScheduler =
        normalizeDayEventScheduler current.dayEventScheduler fallback.dayEventScheduler ↔
      (current.dayEventScheduler = none → previous.dayEventScheduler = none ∨
        previous.dayEventScheduler = fallback.dayEventScheduler) := by
  unfold patchedConsole normalizeDayEventScheduler
  dsimp only
  cases current.dayEventScheduler with
  | some scheduler => simp
  | none =>
    cases previous.dayEventScheduler with
    | some scheduler => simp
    | none => simp

end Patching

/-! ## A console with a slot more -/

/-- A slot that is taken. -/
def seatedSlot (slotId : String) : HostConsoleSlotOccupancyDelta where
  slotId := slotId
  occupancyId := slotId
  personaId := slotId
  publicName := slotId
  assignedPrincipalId := 0
  alive := true
  status := "alive"
  statusTags := []
  roleKey := none
  alignment := none
  roleRevealed := false
  alignmentRevealed := false

/-- A console of some slots. -/
def slotsConsole (slots : List String) : HostConsoleStateDelta Empty where
  game := 0
  authority := ⟨0, .hostOf, [], []⟩
  completed := false
  phase := none
  slots := slots.map seatedSlot
  threadPosts := []
  roster := []
  dayEventScheduler := none
  dayEvents := []
  tasks := []

/-- The page before it has a state. -/
def noConsole : HostConsole where
  authority := ⟨0, .globalOperator, [], []⟩
  dayEventScheduler := none
  tasks := []
  dayEvents := []
  completed := false
  phase := none
  roster := []
  slots := []
  threadPosts := []

end Fmarch.Client
