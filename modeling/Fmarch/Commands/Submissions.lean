import Fmarch.Commands.ActionSubmission
import Fmarch.Domain.State

/-!
# The active submissions of a game (`current_submissions`, `action_submission`)

What players submit is read twice. The resolver gets the submissions folded from the stream, where a
withdrawal marks those of its actor and phase under its id. The commands read a projection, which has one
row for each id in the whole game: submitting under an id rewrites its row, whoever it was for.

**`submissions_agree_iff`**: in every run the two agree at every point, so that the capacity rule counts
what will be resolved and all of it can be withdrawn, exactly if nothing is submitted under an id that a
submission has which is neither withdrawn nor instantly resolved (`Unclaimed`). Two players who choose
one id are enough for them not to agree (`sharedId_disagrees`).

Every other command is one that appends no submission and no withdrawal; what it and a resolution write
to the other projections is left open.
-/

namespace Fmarch.Commands.ActionSubmission

open Domain StableSort

variable {F : Type} [Float64 F]

/-! ## The stream -/

/-- The events of a game that are read for submissions. -/
inductive Event where
  | voteSubmitted (actor : SlotId) (target : String) (phaseId : PhaseId)
  | voteWithdrawn (actor : SlotId) (phaseId : PhaseId)
  | actionSubmitted (payload : ActionSubmitted)
  | actionWithdrawn (payload : ActionWithdrawn)
  | other
  deriving DecidableEq

/-- The event is about an action. -/
def Event.isAction : Event → Bool
  | .actionSubmitted _ | .actionWithdrawn _ => true
  | _ => false

/-- The event submits an action. -/
def Event.submits : Event → Bool
  | .actionSubmitted _ => true
  | _ => false

structure StoredEvent where
  streamSeq : Nat
  event : Event

/-- `metadata_from_payload`, of a payload without `metadata`. -/
def metadataFromPayload (grantId : Option Tag) : BTreeMap String Json :=
  match grantId with
  | some grantId => (∅ : BTreeMap String Json).insert "grant_id" (.string grantId)
  | none => ∅

/-- The withdrawal is of the submission. -/
def ActionWithdrawn.names (payload : ActionWithdrawn) (submission : Submission) : Bool :=
  submission.actionId == payload.actionId && payload.actor == submission.actor

/-- One event of `current_submissions`. -/
def submissionStep (phaseId : PhaseId) (submissions : List Submission) (stored : StoredEvent) :
    List Submission :=
  let voteId (actor : SlotId) := "vote:" ++ toString stored.streamSeq ++ ":" ++ actor
  match stored.event with
  | .voteSubmitted actor target votePhase =>
    if votePhase = phaseId then
      submissions ++
        [{ actionId := voteId actor, actor, templateId := "day_vote", targets := [target], phaseId
           submittedAt := stored.streamSeq }]
    else submissions
  | .voteWithdrawn actor votePhase =>
    if votePhase = phaseId then
      submissions ++
        [{ actionId := voteId actor, actor, templateId := "day_vote", phaseId
           submittedAt := stored.streamSeq, withdrawn := true }]
    else submissions
  | .actionSubmitted payload =>
    if payload.phaseId = phaseId ∧ payload.instantResolved = false then
      submissions ++
        [{ actionId := payload.actionId, actor := payload.actor, templateId := payload.templateId
           targets := payload.targets, phaseId, submittedAt := stored.streamSeq
           metadata := metadataFromPayload payload.grantId }]
    else submissions
  | .actionWithdrawn payload =>
    if payload.phaseId = phaseId then
      submissions.map fun submission =>
        if payload.names submission then { submission with withdrawn := true } else submission
    else submissions
  | .other => submissions

def currentSubmissions (stream : List StoredEvent) (phaseId : PhaseId) : List Submission :=
  stream.foldl (submissionStep phaseId) []

/-! ## The projection -/

/-- The fold of one event into `action_submission`. -/
def project (rows : List SubmissionRow) : Event → List SubmissionRow
  | .actionSubmitted payload =>
    Keyed.upsert (·.actionId == payload.actionId)
      { phaseId := payload.phaseId, actorSlot := payload.actor, actionId := payload.actionId
        templateId := payload.templateId, grantId := payload.grantId, targets := payload.targets
        instantResolved := payload.instantResolved } rows
  | .actionWithdrawn payload =>
    rows.filter fun row =>
      !(row.actionId == payload.actionId && row.actorSlot == payload.actor && row.phaseId == payload.phaseId)
  | _ => rows

/-- A game: its stream, the projection of its submissions, and everything else its commands read. -/
structure Game (F : Type) [Float64 F] where
  stream : List StoredEvent := []
  submissions : List SubmissionRow := []
  view : View F

namespace Game

/-- One event appended and folded. -/
def append (game : Game F) (event : Event) : Game F :=
  { game with
    stream := game.stream ++ [{ streamSeq := game.stream.length + 1, event }]
    submissions := project game.submissions event }

def persist (game : Game F) (events : List Event) : Game F := events.foldl append game

end Game

/-- The commands. -/
inductive Command where
  | submit (request : ActionSubmissionRequest)
  | withdraw (actionId : String) (actorSlot : SlotId)
  | other

/-- The resolution and its trace that follow an instant action. -/
def instantEvents (payload : ActionSubmitted) : List Event :=
  if payload.instantResolved then [.other, .other] else []

/-- A command that is accepted, with its events appended. -/
inductive Step (game : Game F) : Command → Game F → Prop
  | submit {request : ActionSubmissionRequest} {payload : ActionSubmitted} {view : View F}
      (accepted : submitAction game.view game.submissions request = .ok payload)
      (kept : payload.instantResolved = false → view = game.view) :
      Step game (.submit request)
        { game.persist (.actionSubmitted payload :: instantEvents payload) with view }
  | withdraw {actionId : String} {actorSlot : SlotId} {payload : ActionWithdrawn}
      (accepted : withdrawAction game.view game.submissions actionId actorSlot = .ok payload) :
      Step game (.withdraw actionId actorSlot) (game.persist [.actionWithdrawn payload])
  | other {events : List Event} {view : View F} (plain : ∀ event ∈ events, event.isAction = false) :
      Step game .other { game.persist events with view }

/-- A run, with the commands and the games they are issued in. -/
inductive Run (start : Game F) : List (Game F × Command) → Game F → Prop
  | start : Run start [] start
  | step {moves : List (Game F × Command)} {game next : Game F} {command : Command}
      (run : Run start moves game) (step : Step game command next) :
      Run start (moves ++ [(game, command)]) next

/-- A game before its first event. -/
def Fresh (game : Game F) : Prop := game.stream = [] ∧ game.submissions = []

/-! ## What is to agree -/

/-- The submission is one of an action, and no vote. -/
def isOfAction (stream : List StoredEvent) (submission : Submission) : Bool :=
  stream.any fun stored => stored.streamSeq == submission.submittedAt && stored.event.submits

/-- The submitted actions of an actor that the resolver gets and that are not withdrawn. -/
def resolvable (stream : List StoredEvent) (phaseId : PhaseId) (actorSlot : SlotId) : List Submission :=
  (currentSubmissions stream phaseId).filter fun submission =>
    isOfAction stream submission && submission.actor == actorSlot && !submission.withdrawn

/-- What the projection keeps of a submission. -/
def submissionRow (submission : Submission) : ActionSubmissionRow :=
  { actionId := submission.actionId, templateId := submission.templateId
    grantId := (submission.metadata["grant_id"]?).bind (·.asStr)
    targets := submission.targets }

/-- The projection and the stream agree on the active submissions of every phase and actor. -/
structure Agrees (game : Game F) : Prop where
  active : ∀ phaseId actorSlot, (activeActionSubmissions game.submissions phaseId actorSlot).Perm
      ((resolvable game.stream phaseId actorSlot).map submissionRow)
  /-- The capacity rule counts what will be resolved. -/
  capacity : ∀ (view : View F) phaseId actorSlot template templateId grantId source,
    validateActionSlotCapacity view phaseId actorSlot template templateId grantId source
        (activeActionsFromRows (activeActionSubmissions game.submissions phaseId actorSlot)) =
      validateActionSlotCapacity view phaseId actorSlot template templateId grantId source
        (activeActionsFromRows ((resolvable game.stream phaseId actorSlot).map submissionRow))
  /-- What will be resolved can be withdrawn, as long as its phase is open and its actor lives. -/
  withdrawable : ∀ (view : View F) phaseId actorSlot,
    requireOpenPhase view = .ok phaseId → requireSlotAlive view actorSlot = .ok () →
    ∀ submission ∈ resolvable game.stream phaseId actorSlot,
      withdrawAction view game.submissions submission.actionId actorSlot =
        .ok { actionId := submission.actionId, actor := actorSlot, phaseId }

/-- Nothing is submitted under the id of a submission that is neither withdrawn nor instantly
resolved. -/
def Unclaimed (game : Game F) : Command → Prop
  | .submit request => ∀ phaseId, ∀ submission ∈ currentSubmissions game.stream phaseId,
      isOfAction game.stream submission → submission.actionId = request.actionId →
      submission.withdrawn = true
  | _ => True

/-- The active rows of an actor in a phase, in no order. -/
def activeRows (rows : List SubmissionRow) (phaseId : PhaseId) (actorSlot : SlotId) :
    List ActionSubmissionRow :=
  (rows.filter (SubmissionRow.isActive phaseId actorSlot)).map SubmissionRow.selected

/-! ## The invariant -/

/-- What every step keeps. -/
structure Ok (game : Game F) : Prop where
  seqs : ∀ stored ∈ game.stream, stored.streamSeq ≤ game.stream.length
  submitted : ∀ phaseId, ∀ submission ∈ currentSubmissions game.stream phaseId,
    submission.submittedAt ≤ game.stream.length
  /-- The primary key of the projection. -/
  keys : (game.submissions.map (·.actionId)).Nodup
  named : ∀ row ∈ game.submissions, isBlank row.actionId = false

section Append

variable {game : Game F} {event : Event}

/-- The event as the stream stores it. -/
def Game.stored (game : Game F) (event : Event) : StoredEvent :=
  { streamSeq := game.stream.length + 1, event }

theorem currentSubmissions_append (phaseId : PhaseId) :
    currentSubmissions (game.append event).stream phaseId =
      submissionStep phaseId (currentSubmissions game.stream phaseId) (game.stored event) := by
  unfold currentSubmissions Game.append
  rw [List.foldl_append]
  rfl

theorem submittedAt_step {phaseId : PhaseId} {submissions : List Submission} {stored : StoredEvent}
    (h : ∀ submission ∈ submissions, submission.submittedAt ≤ stored.streamSeq) :
    ∀ submission ∈ submissionStep phaseId submissions stored, submission.submittedAt ≤ stored.streamSeq := by
  intro submission hsubmission
  unfold submissionStep at hsubmission
  cases hevent : stored.event with
  | voteSubmitted | voteWithdrawn | actionSubmitted =>
    simp only [hevent] at hsubmission
    split at hsubmission
    · rcases List.mem_append.1 hsubmission with hbefore | hnew
      · exact h submission hbefore
      · simp [List.mem_singleton.1 hnew]
    · exact h submission hsubmission
  | actionWithdrawn payload =>
    simp only [hevent] at hsubmission
    split at hsubmission
    · obtain ⟨before, hbefore, rfl⟩ := List.mem_map.1 hsubmission
      have := h before hbefore
      split <;> exact this
    · exact h submission hsubmission
  | other =>
    simp only [hevent] at hsubmission
    exact h submission hsubmission

theorem Ok.append (ok : Ok game)
    (hnamed : ∀ payload, event = .actionSubmitted payload → isBlank payload.actionId = false) :
    Ok (game.append event) := by
  refine ⟨fun stored hstored => ?_, fun phaseId submission hsubmission => ?_, ?_, fun row hrow => ?_⟩
  · rw [Game.append, List.length_append]
    rcases List.mem_append.1 hstored with hbefore | hnew
    · exact (ok.seqs stored hbefore).trans (Nat.le_add_right ..)
    · simp [List.mem_singleton.1 hnew]
  · rw [currentSubmissions_append] at hsubmission
    rw [Game.append, List.length_append]
    exact submittedAt_step 
      (fun before hbefore => (ok.submitted phaseId before hbefore).trans (Nat.le_succ _))
      submission hsubmission
  · cases event with
    | actionSubmitted payload =>
      exact Keyed.map_upsert_nodup SubmissionRow.actionId (fun row hrow => by simpa using hrow)
        ok.keys
    | actionWithdrawn payload => exact Keyed.map_filter_nodup _ _ ok.keys
    | voteSubmitted | voteWithdrawn | other => exact ok.keys
  · cases event with
    | actionSubmitted payload =>
      rcases Keyed.mem_upsert.1 hrow with ⟨hbefore, -⟩ | rfl
      · exact ok.named row hbefore
      · exact hnamed payload rfl
    | actionWithdrawn payload => exact ok.named row (List.mem_of_mem_filter hrow)
    | voteSubmitted | voteWithdrawn | other => exact ok.named row hrow

theorem isOfAction_append (ok : Ok game) {phaseId : PhaseId} {submission : Submission}
    (h : submission ∈ currentSubmissions game.stream phaseId) :
    isOfAction (game.append event).stream submission = isOfAction game.stream submission := by
  have hle := ok.submitted phaseId submission h
  have hne : (game.stream.length + 1 == submission.submittedAt) = false := by
    simp only [beq_eq_false_iff_ne]
    omega
  simp [isOfAction, Game.append, hne]

/-- What is stored with an event is of an action exactly if the event submits one. -/
theorem isOfAction_new (ok : Ok game) {submission : Submission}
    (h : submission.submittedAt = game.stream.length + 1) :
    isOfAction (game.append event).stream submission = event.submits := by
  have hnone : isOfAction game.stream submission = false := by
    refine List.any_eq_false.2 fun stored hstored hsame => ?_
    have := ok.seqs stored hstored
    simp only [Bool.and_eq_true, beq_iff_eq] at hsame
    omega
  have happended : isOfAction (game.append event).stream submission = (isOfAction game.stream submission ||
        (game.stream.length + 1 == submission.submittedAt && event.submits)) := by
    simp [isOfAction, Game.append]
  rw [happended, hnone, h]
  simp

/-- The submissions the event adds to what an actor has in a phase. -/
def Event.adds (event : Event) (seq : Nat) (phaseId : PhaseId) (actorSlot : SlotId) : List Submission :=
  match event with
  | .actionSubmitted payload =>
    if payload.phaseId = phaseId ∧ payload.actor = actorSlot ∧ payload.instantResolved = false then
      [{ actionId := payload.actionId, actor := payload.actor, templateId := payload.templateId
         targets := payload.targets, phaseId, submittedAt := seq
         metadata := metadataFromPayload payload.grantId }]
    else []
  | _ => []

/-- The event withdraws what has the id from the actor in the phase. -/
def Event.removes (event : Event) (phaseId : PhaseId) (actorSlot : SlotId) (actionId : String) : Bool :=
  match event with
  | .actionWithdrawn payload =>
    payload.phaseId == phaseId && payload.actor == actorSlot && payload.actionId == actionId
  | _ => false

/-- A filter that passes nothing withdrawn does not see what else is withdrawn. -/
theorem filter_map_withdrawn {p names : Submission → Bool} {submissions : List Submission}
    (hp : ∀ submission : Submission, p { submission with withdrawn := true } = false) :
    (submissions.map fun submission =>
        if names submission then { submission with withdrawn := true } else submission).filter p =
      (submissions.filter p).filter fun submission => !names submission := by
  induction submissions with
  | nil => rfl
  | cons submission submissions ih =>
    by_cases hnames : names submission = true
    · cases hsubmission : p submission <;> simp_all
    · cases hsubmission : p submission <;> simp_all

/-- What an event does to the submissions the resolver gets. -/
theorem resolvable_append (ok : Ok game) (phaseId : PhaseId) (actorSlot : SlotId) :
    resolvable (game.append event).stream phaseId actorSlot =
      (resolvable game.stream phaseId actorSlot).filter
          (fun submission => !event.removes phaseId actorSlot submission.actionId) ++
        event.adds (game.stream.length + 1) phaseId actorSlot := by
  unfold resolvable
  rw [currentSubmissions_append]
  have hkept : (currentSubmissions game.stream phaseId).filter (fun submission =>
      isOfAction (game.append event).stream submission && submission.actor == actorSlot &&
        !submission.withdrawn) = (currentSubmissions game.stream phaseId).filter (fun submission =>
      isOfAction game.stream submission && submission.actor == actorSlot && !submission.withdrawn) :=
    List.filter_congr fun submission hsubmission => by rw [isOfAction_append ok hsubmission]
  have hadded {submission : Submission} (h : submission.submittedAt = game.stream.length + 1) :
      ((currentSubmissions game.stream phaseId ++ [submission]).filter fun submission =>
        isOfAction (game.append event).stream submission && submission.actor == actorSlot &&
          !submission.withdrawn) = ((currentSubmissions game.stream phaseId).filter fun submission =>
        isOfAction game.stream submission && submission.actor == actorSlot && !submission.withdrawn) ++
        if event.submits && submission.actor == actorSlot && !submission.withdrawn then [submission]
        else [] := by
    rw [List.filter_append, hkept, List.filter_singleton, isOfAction_new ok h, cond_eq_ite]
  cases event with
  | voteSubmitted | voteWithdrawn =>
    simp only [submissionStep, Game.stored, Event.removes, Event.adds]
    split
    · rw [hadded rfl]
      simp [Event.submits]
    · rw [hkept]
      simp
  | actionSubmitted payload =>
    simp only [submissionStep, Game.stored, Event.removes, Event.adds]
    split
    case isTrue h =>
      rw [hadded rfl]
      simp [Event.submits, h]
    case isFalse h =>
      rw [hkept, if_neg fun hall => h ⟨hall.1, hall.2.2⟩]
      simp
  | actionWithdrawn payload =>
    simp only [submissionStep, Game.stored, Event.removes, Event.adds]
    split
    case isTrue h =>
      rw [filter_map_withdrawn (fun _ => by simp), hkept, List.append_nil]
      refine List.filter_congr fun submission hsubmission => ?_
      have hactive := List.of_mem_filter hsubmission
      simp only [Bool.and_eq_true, beq_iff_eq] at hactive
      rw [ActionWithdrawn.names, hactive.1.2, beq_iff_eq.2 h, Bool.and_comm, Bool.true_and,
        Bool.beq_comm (a := submission.actionId)]
    case isFalse h =>
      rw [hkept, beq_false_of_ne h]
      simp
  | other =>
    simp only [submissionStep, Game.stored, Event.removes, Event.adds]
    rw [hkept]
    simp

/-- What the event writes adds to the active rows. -/
theorem selected_adds (seq : Nat) (phaseId : PhaseId) (actorSlot : SlotId) :
    (activeRows (project [] event) phaseId actorSlot) =
      (event.adds seq phaseId actorSlot).map submissionRow := by
  cases event with
  | actionSubmitted payload =>
    simp only [activeRows, project, Keyed.upsert, Event.adds, List.filter_nil, List.nil_append]
    split
    case isTrue h =>
      obtain ⟨rfl, rfl, hplain⟩ := h
      cases hgrant : payload.grantId <;>
        simp [SubmissionRow.isActive, hplain, SubmissionRow.selected, submissionRow,
          metadataFromPayload, Json.asStr]
    case isFalse h =>
      have : (payload.phaseId == phaseId && payload.actor == actorSlot && !payload.instantResolved) =
          false := by
        rw [← Bool.not_eq_true]
        simpa [and_assoc] using h
      simp [SubmissionRow.isActive, this]
  | voteSubmitted | voteWithdrawn | actionWithdrawn | other => rfl

/-- The event takes the row with the id from the active ones of an actor in a phase. -/
def Event.displaces (event : Event) (phaseId : PhaseId) (actorSlot : SlotId) (actionId : String) : Bool :=
  match event with
  | .actionSubmitted payload => actionId == payload.actionId
  | event => event.removes phaseId actorSlot actionId

/-- What an event does to the active rows. -/
theorem activeRows_project (rows : List SubmissionRow) (phaseId : PhaseId) (actorSlot : SlotId) :
    activeRows (project rows event) phaseId actorSlot = (activeRows rows phaseId actorSlot).filter
          (fun row => !event.displaces phaseId actorSlot row.actionId) ++
        activeRows (project [] event) phaseId actorSlot := by
  cases event with
  | actionSubmitted payload =>
    simp only [activeRows, project, Keyed.upsert, List.filter_append, List.map_append,
      List.filter_nil, List.nil_append, List.filter_map, List.filter_filter]
    congr 2
    exact List.filter_congr fun row _ => Bool.and_comm ..
  | actionWithdrawn payload =>
    simp only [activeRows, project, List.filter_nil, List.map_nil, List.append_nil,
      List.filter_map, List.filter_filter]
    congr 1
    refine List.filter_congr fun row _ => ?_
    cases hactive : row.isActive phaseId actorSlot with
    | false => simp
    | true =>
      simp only [SubmissionRow.isActive, Bool.and_eq_true, beq_iff_eq] at hactive
      obtain ⟨⟨rfl, rfl⟩, -⟩ := hactive
      simp [Event.displaces, Event.removes, SubmissionRow.selected, Bool.beq_comm (b := row.actionId),
        Bool.beq_comm (b := row.actorSlot), Bool.beq_comm (b := row.phaseId), Bool.or_comm,
        Bool.or_left_comm]
  | voteSubmitted | voteWithdrawn | other => simp [activeRows, project, Event.displaces, Event.removes]

/-- The active rows are those of what the resolver gets. -/
def ActiveAgree (game : Game F) : Prop :=
  ∀ phaseId actorSlot, (activeRows game.submissions phaseId actorSlot).Perm
    ((resolvable game.stream phaseId actorSlot).map submissionRow)

/-- Nothing that the resolver gets has an id. -/
def Free (stream : List StoredEvent) (actionId : String) : Prop :=
  ∀ phaseId actorSlot, ∀ submission ∈ resolvable stream phaseId actorSlot, submission.actionId ≠ actionId

theorem free_iff {stream : List StoredEvent} {actionId : String} :
    Free stream actionId ↔ ∀ phaseId, ∀ submission ∈ currentSubmissions stream phaseId,
      isOfAction stream submission → submission.actionId = actionId → submission.withdrawn = true := by
  constructor
  · intro h phaseId submission hsubmission haction hid
    by_contra hwithdrawn
    refine h phaseId submission.actor submission (List.mem_filter.2 ⟨hsubmission, ?_⟩) hid
    simpa [haction] using hwithdrawn
  · intro h phaseId actorSlot submission hsubmission hid
    obtain ⟨hcurrent, hactive⟩ := List.mem_filter.1 hsubmission
    simp only [Bool.and_eq_true, Bool.not_eq_true'] at hactive
    exact absurd (h phaseId submission hcurrent hactive.1.1 hid) (by simp [hactive.2])

/-- A submission keeps the two agreeing exactly if its id is free. -/
theorem activeAgree_submit (ok : Ok game) (h : ActiveAgree game) {payload : ActionSubmitted} :
    ActiveAgree (game.append (.actionSubmitted payload)) ↔ Free game.stream payload.actionId := by
  unfold ActiveAgree Free
  refine forall_congr' fun phaseId => forall_congr' fun actorSlot => ?_
  have hperm := h phaseId actorSlot
  rw [resolvable_append ok, List.map_append, ← selected_adds, Game.append, activeRows_project,
    List.perm_append_right_iff]
  have hkept : (resolvable game.stream phaseId actorSlot).filter (fun submission =>
      !(Event.actionSubmitted payload).removes phaseId actorSlot submission.actionId) =
      resolvable game.stream phaseId actorSlot := List.filter_eq_self.2 fun _ _ => rfl
  rw [hkept]
  constructor
  · intro hfiltered submission hsubmission hid
    -- As many rows are left as there were, so the row of the submission is among them.
    have hlength := (hfiltered.trans hperm.symm).length_eq
    rw [List.length_filter_eq_length_iff] at hlength
    have hrow := hperm.symm.subset (List.mem_map_of_mem (f := submissionRow) hsubmission)
    simpa [Event.displaces, submissionRow, hid] using hlength _ hrow
  · intro hfree
    refine (List.Perm.of_eq (List.filter_eq_self.2 fun row hrow => ?_)).trans hperm
    obtain ⟨submission, hsubmission, rfl⟩ := List.mem_map.1 (hperm.subset hrow)
    simpa [Event.displaces, submissionRow] using hfree submission hsubmission

/-- Every other event keeps the two agreeing. -/
theorem ActiveAgree.append (h : ActiveAgree game) (ok : Ok game) (hplain : event.submits = false) :
    ActiveAgree (game.append event) := by
  intro phaseId actorSlot
  rw [resolvable_append ok, List.map_append, ← selected_adds, Game.append, activeRows_project,
    List.perm_append_right_iff]
  have hdisplaces (actionId : String) : event.displaces phaseId actorSlot actionId =
      event.removes phaseId actorSlot actionId := by
    cases event with
    | actionSubmitted => exact absurd hplain (by simp [Event.submits])
    | voteSubmitted | voteWithdrawn | actionWithdrawn | other => rfl
  simp only [hdisplaces]
  have hmap : ((resolvable game.stream phaseId actorSlot).filter fun submission =>
      !event.removes phaseId actorSlot submission.actionId).map submissionRow =
      ((resolvable game.stream phaseId actorSlot).map submissionRow).filter fun row =>
        !event.removes phaseId actorSlot row.actionId := by
    rw [List.filter_map]
    rfl
  rw [hmap]
  exact (h phaseId actorSlot).filter _

/-- An event about no action changes neither side. -/
theorem activeAgree_plain (ok : Ok game) (hplain : event.isAction = false) :
    ActiveAgree (game.append event) ↔ ActiveAgree game := by
  unfold ActiveAgree
  refine forall_congr' fun phaseId => forall_congr' fun actorSlot => ?_
  rw [resolvable_append ok]
  cases event with
  | voteSubmitted | voteWithdrawn | other =>
    simp [Game.append, project, Event.removes, Event.adds]
  | actionSubmitted | actionWithdrawn => exact absurd hplain (by simp [Event.isAction])

end Append

/-! ## What follows from it -/

section Follows

variable {game : Game F}

theorem capacity_perm (view : View F) (phaseId : PhaseId) (actorSlot : SlotId)
    (template : ActionTemplate F) (templateId : String) (grantId : Option Tag)
    (source : ActionSource) {active active' : List ActiveAction} (h : active.Perm active') :
    validateActionSlotCapacity view phaseId actorSlot template templateId grantId source active =
      validateActionSlotCapacity view phaseId actorSlot template templateId grantId source active' := by
  unfold validateActionSlotCapacity
  simp only [h.any_eq, h.countP_eq]

theorem ActiveAgree.agrees (h : ActiveAgree game) (ok : Ok game) : Agrees game := by
  have hactive (phaseId : PhaseId) (actorSlot : SlotId) :
      (activeActionSubmissions game.submissions phaseId actorSlot).Perm
        ((resolvable game.stream phaseId actorSlot).map submissionRow) :=
    (sortBy_perm _ _).trans (h phaseId actorSlot)
  refine ⟨hactive, fun view phaseId actorSlot template templateId grantId source => ?_,
    fun view phaseId actorSlot hphase halive submission hsubmission => ?_⟩
  · exact capacity_perm view phaseId actorSlot template templateId grantId source
      ((hactive phaseId actorSlot).map _)
  · have hrow := (h phaseId actorSlot).symm.subset
      (List.mem_map_of_mem (f := submissionRow) hsubmission)
    obtain ⟨row, hrow, hselected⟩ := List.mem_map.1 hrow
    obtain ⟨hmem, hisActive⟩ := List.mem_filter.1 hrow
    have hid : row.actionId = submission.actionId := congrArg (·.actionId) hselected
    refine withdrawAction_iff.2 ⟨phaseId, hid ▸ ok.named row hmem, hphase, halive, ?_, rfl⟩
    exact List.any_eq_true.2 ⟨row, hmem, by simp [hisActive, hid]⟩

theorem agrees_iff (ok : Ok game) : Agrees game ↔ ActiveAgree game :=
  ⟨fun h phaseId actorSlot => (sortBy_perm _ _).symm.trans (h.active phaseId actorSlot), fun h => h.agrees ok⟩

end Follows

/-! ## Runs -/

section Runs

variable {start game next : Game F} {command : Command} {moves : List (Game F × Command)}

theorem Ok.view (ok : Ok game) (view : View F) : Ok { game with view } :=
  ⟨ok.seqs, ok.submitted, ok.keys, ok.named⟩

/-- Events about no action change neither side. -/
theorem persist_plain {events : List Event} (ok : Ok game)
    (hplain : ∀ event ∈ events, event.isAction = false) :
    Ok (game.persist events) ∧ (ActiveAgree (game.persist events) ↔ ActiveAgree game) := by
  induction events generalizing game with
  | nil => exact ⟨ok, Iff.rfl⟩
  | cons event events ih =>
    have hevent := hplain event List.mem_cons_self
    have hnext : Ok (game.append event) := ok.append fun payload heq => by
      simp [heq, Event.isAction] at hevent
    obtain ⟨hok, hiff⟩ := ih hnext fun event h => hplain event (List.mem_cons_of_mem _ h)
    exact ⟨hok, hiff.trans (activeAgree_plain ok hevent)⟩

theorem instantEvents_plain (payload : ActionSubmitted) :
    ∀ event ∈ instantEvents payload, event.isAction = false := by
  unfold instantEvents
  split <;> simp [Event.isAction]

/-- A step keeps the invariant; where the two agree it keeps that exactly if it is unclaimed. -/
theorem step_agrees (ok : Ok game) (step : Step game command next) :
    Ok next ∧ (ActiveAgree game → (ActiveAgree next ↔ Unclaimed game command)) := by
  cases step with
  | @submit request payload view accepted kept =>
    obtain ⟨hid, hblank⟩ := submitAction_ok accepted
    have hsubmitted : Ok (game.append (.actionSubmitted payload)) :=
      ok.append fun other heq => by rwa [← Event.actionSubmitted.inj heq]
    obtain ⟨hok, hiff⟩ := persist_plain hsubmitted (instantEvents_plain payload)
    refine ⟨hok.view view, fun hagree => hiff.trans ?_⟩
    rw [activeAgree_submit ok hagree, free_iff, hid]
    rfl
  | @withdraw actionId actorSlot payload accepted =>
    exact ⟨ok.append (by simp), fun hagree => iff_of_true (hagree.append ok rfl) trivial⟩
  | @other events view plain =>
    obtain ⟨hok, hiff⟩ := persist_plain ok plain
    exact ⟨hok.view view, fun hagree => iff_of_true (hiff.2 hagree) trivial⟩

theorem Fresh.ok (h : Fresh start) : Ok start ∧ ActiveAgree start := by
  obtain ⟨hstream, hrows⟩ := h
  refine ⟨⟨?_, ?_, ?_, ?_⟩, ?_⟩
  · simp [hstream]
  · simp [hstream, currentSubmissions]
  · simp [hrows]
  · simp [hrows]
  · intro phaseId actorSlot
    simp [activeRows, resolvable, currentSubmissions, hstream, hrows]

theorem Run.ok (run : Run start moves game) (fresh : Fresh start) : Ok game ∧ ∀ move ∈ moves, Ok move.1 := by
  induction run with
  | start => exact ⟨fresh.ok.1, by simp⟩
  | step _ step ih =>
    refine ⟨(step_agrees ih.1 step).1, fun move hmove => ?_⟩
    rcases List.mem_append.1 hmove with hbefore | hlast
    · exact ih.2 move hbefore
    · rw [List.mem_singleton.1 hlast]
      exact ih.1

/-- **In every run, projection and stream agree on the active submissions at every point, exactly if
nothing is submitted under an id that is claimed.** -/
theorem submissions_agree_iff (fresh : Fresh start) (run : Run start moves game) :
    (Agrees game ∧ ∀ move ∈ moves, Agrees move.1) ↔ ∀ move ∈ moves, Unclaimed move.1 move.2 := by
  induction run with
  | start => exact iff_of_true ⟨fresh.ok.2.agrees fresh.ok.1, by simp⟩ (by simp)
  | @step moves game next command run step ih =>
    have ok := (run.ok fresh).1
    obtain ⟨hnext, hiff⟩ := step_agrees ok step
    rw [agrees_iff hnext]
    simp only [List.forall_mem_append, List.forall_mem_singleton]
    constructor
    · rintro ⟨hagrees, hbefore, hgame⟩
      exact ⟨ih.1 ⟨hgame, hbefore⟩, (hiff ((agrees_iff ok).1 hgame)).1 hagrees⟩
    · rintro ⟨hmoves, hunclaimed⟩
      obtain ⟨hgame, hbefore⟩ := ih.2 hmoves
      exact ⟨(hiff ((agrees_iff ok).1 hgame)).2 hunclaimed, hbefore, hgame⟩

end Runs

/-! ## One id, two players -/

/-- A pack with a doctor. -/
def doctorPack : Pack Rat where
  roles := (∅ : BTreeMap RoleKey (Role Rat)).insert "doctor"
    { alignment := some "town"
      actions :=
        [{ id := "protect", ability := .protect, window := .night, targets := .one
           constraints :=
             { maxTargets := 1, selfAllowed := false, uniqueTargets := true, roleblockable := true
               priority := 70 } }] }
  redirects := { loopCap := 8, tieBreaker := .stable }
  vote :=
    { method := .majority, noLynchAllowed := true, selfVoteAllowed := false, hammer := false
      weights := .equal, tieBreaker := .noElimination }

/-- The first night of three doctors. -/
def doctors : View Rat where
  packName := "doctors"
  pack := doctorPack
  phase := some { phaseId := .first .night }
  slots := ["s1", "s2", "s3"].map fun slotId =>
    { slotId, roleKey := some "doctor", alignment := some "town" }

/-- A doctor protects the third, under an id. -/
def protects (actionId : String) (actorSlot : SlotId) : ActionSubmissionRequest :=
  { actionId, actorSlot, templateId := "protect", targets := ["s3"] }

/-- What is submitted. -/
def protection (actionId : String) (actor : SlotId) : ActionSubmitted :=
  { actionId, actor, templateId := "protect", targets := ["s3"], phaseId := .first .night
    instantResolved := false, grantId := none }

/-- Before anything is submitted. -/
def unsubmitted : Game Rat := { view := doctors }

/-- The first doctor has submitted. -/
def submittedOnce : Game Rat := unsubmitted.persist [.actionSubmitted (protection "a" "s1")]

theorem submittedOnce_run : Run unsubmitted [(unsubmitted, .submit (protects "a" "s1"))] submittedOnce :=
  .step .start (@Step.submit _ _ unsubmitted (protects "a" "s1") (protection "a" "s1") doctors
    (by decide +kernel) fun _ => rfl)

/-- One submission is one row. -/
theorem submittedOnce_agrees : Agrees submittedOnce :=
  ((submissions_agree_iff ⟨rfl, rfl⟩ submittedOnce_run).2
    (by simp [Unclaimed, currentSubmissions, unsubmitted])).1

/-- A second doctor submits under the id of the first: the first one's protection will be resolved, but
it counts for nothing, and cannot be withdrawn. -/
theorem sharedId_disagrees : ∃ moves game, Run unsubmitted moves game ∧ ¬ Agrees game ∧
      (resolvable game.stream (.first .night) "s1").map (·.actionId) = ["a"] ∧
      activeActionSubmissions game.submissions (.first .night) "s1" = [] ∧
      withdrawAction doctors game.submissions "a" "s1" = .error .invalidTarget := by
  have hresolvable : (resolvable (submittedOnce.persist [.actionSubmitted (protection "a" "s2")]).stream
      (.first .night) "s1").map (·.actionId) = ["a"] := by decide +kernel
  have hactive : activeActionSubmissions
      (submittedOnce.persist [.actionSubmitted (protection "a" "s2")]).submissions
      (.first .night) "s1" = [] := by decide +kernel
  refine ⟨_, submittedOnce.persist [.actionSubmitted (protection "a" "s2")],
    .step submittedOnce_run (@Step.submit _ _ submittedOnce (protects "a" "s2")
      (protection "a" "s2") doctors (by decide +kernel) fun _ => rfl),
    fun hagrees => ?_, hresolvable, hactive, by decide +kernel⟩
  have hlength := (hagrees.active (.first .night) "s1").length_eq
  rw [hactive, List.length_map] at hlength
  have hone := congrArg List.length hresolvable
  rw [List.length_map, ← hlength] at hone
  cases hone

end Fmarch.Commands.ActionSubmission
