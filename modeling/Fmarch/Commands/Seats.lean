import Fmarch.Lib.Fallible
import Fmarch.Lib.Steps
import Fmarch.Projections.Tables

/-!
# Who plays and who watches (`commands`, `game_persona_application`)

Four commands decide who is at a game: a slot is assigned to a principal, a principal replaces the
occupant of a slot, and a principal is let in to watch or sent out. A command holds the lock of its
game's stream from its first read to its commit, so the commands of one game run one after the other.
Between them the identity service opens and closes privacy subjects and redacts personas; what it does
while a command runs can only take players away.

**`seats_exclusive`**: in every run, however the commands are ordered, a slot has at most one open
epoch, a principal plays at most one, and nobody who plays a game watches it.

Left out is what can only refuse a command: who may issue it, foreign keys, and the names of personas.
A drawn persona id is one that the game has not used (`GamePersonaId::random`); other drawn ids may
collide, and then the insertion fails.
-/

namespace Fmarch.Commands.Seats

open Fallible Projections Relational

/-- The refusals of `Reject` these commands give. -/
inductive Reject where
  | unknownSlot
  | invalidTarget
  | internal

/-! ## Reads -/

def spectatorMembership (db : Tables) (game : GameId) (principal : PrincipalId) : Bool :=
  db.spectatorMembership.any fun row => row.gameId = game ∧ row.principalId = principal

def slotOccupant (db : Tables) (game : GameId) (slot : SlotId) : Option (Option PrincipalId) :=
  ((ownedEpochs db).find? fun row =>
    row.1.1.gameId = game ∧ row.1.1.slotId = slot ∧ row.1.1.endedSeq = none).map (·.2.principalId)

def principalHasOpenOccupancy (db : Tables) (game : GameId) (principal : PrincipalId) : Bool :=
  (ownedEpochs db).any (ownOpen principal game)

def openOccupancy (db : Tables) (game : GameId) (slot : SlotId) : Option (OccupancyId × GamePersonaId) :=
  (db.slotOccupancyEpoch.find? fun row =>
    row.gameId = game ∧ row.slotId = slot ∧ row.endedSeq = none).map fun row =>
      (row.occupancyId, row.personaId)

def personaIdForPrincipal (db : Tables) (game : GameId) (principal : PrincipalId) : Option GamePersonaId :=
  ((join db.gamePersonaSubjectBinding db.privacySubject fun binding subject =>
    subject.subjectId = binding.subjectId).find? fun row =>
      row.1.gameId = game ∧ row.1.lifecycle = "active" ∧ row.2.principalId = some principal).map
        (·.1.personaId)

def gamePersonaExists (db : Tables) (game : GameId) (persona : GamePersonaId) : Bool :=
  db.gamePersona.any fun row => row.gameId = game ∧ row.personaId = persona

def replacementPrincipalIsActive (db : Tables) (principal : PrincipalId) : Bool :=
  (join db.platformPrincipal db.privacySubject fun row subject =>
    subject.principalId = some row.principalId ∧ subject.lifecycleState = "active").any fun row =>
      row.1.principalId = principal ∧ row.1.status = "active" ∧ row.1.disabledAt = none ∧
        ¬ db.memberLifecycle.any fun lifecycle =>
          lifecycle.principalId = row.1.principalId ∧ lifecycle.status ≠ "active"

/-- `SELECT status FROM platform_principal WHERE principal_id = $1`. -/
def principalStatus (db : Tables) (principal : PrincipalId) : Option String :=
  (db.platformPrincipal.find? fun row => row.principalId = principal).map (·.status)

/-! ## Personas -/

def lockActiveSubject (db : Tables) (subject : SubjectId) : Except Reject Unit := do
  let some row := db.privacySubject.find? fun row => row.subjectId = subject | .error .internal
  let some principal := row.principalId | .error .internal
  if principalStatus db principal = some "active" ∧ row.lifecycleState = "active" ∧
      ⟨subject⟩ ∉ db.subjectTombstone then .ok () else .error .internal

/-- `ensure_active_subject`: the subject, and the tables once it is there. -/
def ensureActiveSubject (db : Tables) (principal : PrincipalId) (candidate : SubjectId) :
    Except Reject (SubjectId × Tables) := do
  refuseIf (principalStatus db principal ≠ some "active") .internal
  match db.privacySubject.find? fun row => row.principalId = some principal with
  | some row =>
    lockActiveSubject db row.subjectId
    return (row.subjectId, db)
  | none =>
    let some rows := insertRow subjectClash db.privacySubject ⟨candidate, some principal, "active"⟩
      | .error .internal
    return (candidate, { db with privacySubject := rows })

/-- `register`: the subject of the event `GamePersonaRegistered`. -/
def register (db : Tables) (game : GameId) (persona : GamePersonaId) (principal : PrincipalId)
    (candidate : SubjectId) : Except Reject (SubjectId × Tables) := do
  refuseIf (db.gamePersonaSubjectBinding.any fun row => row.gameId = game ∧ row.personaId = persona)
    .invalidTarget
  let (subject, db) ← ensureActiveSubject db principal candidate
  refuseIf (db.gamePersonaSubjectBinding.any fun row => row.gameId = game ∧ row.subjectId = subject)
    .invalidTarget
  lockActiveSubject db subject
  return (subject, db)

/-! ## Events and their projection -/

inductive GamePersonaBindingProjection where
  | active
  | redacted
  | detached

/-- The events of these commands. -/
inductive SeatEvent where
  | gamePersonaRegistered (persona : GamePersonaId) (subject : SubjectId)
  | slotOccupancyStarted (occupancy : OccupancyId) (slot : SlotId) (persona : GamePersonaId)
  | slotOccupancyEnded (occupancy : OccupancyId) (slot : SlotId) (persona : GamePersonaId)
  | spectatorGranted (principal : PrincipalId)
  | spectatorRevoked (principal : PrincipalId)

/-- The lifecycle of the binding that a registration inserts, if it inserts one. -/
def GamePersonaBindingProjection.lifecycle? : GamePersonaBindingProjection → Option String
  | active => some "active"
  | redacted => some "redacted"
  | detached => none

/-- `register_game_persona`, with what `resolve_game_persona_presentation` made of the binding. -/
def registerGamePersona (db : Tables) (game : GameId) (persona : GamePersonaId)
    (subject : SubjectId) (resolved : GamePersonaBindingProjection) : Option Tables := do
  let personas ← insertRow personaClash db.gamePersona ⟨game, persona⟩
  match resolved.lifecycle? with
  | some lifecycle =>
    let bindings ←
      insertRow bindingClash db.gamePersonaSubjectBinding ⟨game, persona, subject, lifecycle⟩
    return { db with gamePersona := personas, gamePersonaSubjectBinding := bindings }
  | none => return { db with gamePersona := personas }

def startOccupancyEpoch (db : Tables) (game : GameId) (occupancy : OccupancyId) (slot : SlotId)
    (persona : GamePersonaId) (seq : Int) : Option Tables := do
  let epochs ← insertRow epochClash db.slotOccupancyEpoch
    { gameId := game, occupancyId := occupancy, slotId := slot, personaId := persona, beganSeq := seq }
  return { db with slotOccupancyEpoch := epochs }

/-- The `WHERE` of `end_occupancy_epoch`. -/
def endsHere (game : GameId) (occupancy : OccupancyId) (slot : SlotId) (persona : GamePersonaId)
    (row : SlotOccupancyEpoch) : Bool :=
  row.gameId = game ∧ row.occupancyId = occupancy ∧ row.slotId = slot ∧ row.personaId = persona ∧
    row.endedSeq = none

def endOccupancyEpoch (db : Tables) (game : GameId) (occupancy : OccupancyId) (slot : SlotId)
    (persona : GamePersonaId) (seq : Int) : Option Tables :=
  if (db.slotOccupancyEpoch.filter (endsHere game occupancy slot persona)).length ≠ 1 then none
  else some { db with
    slotOccupancyEpoch := db.slotOccupancyEpoch.map fun row =>
      if endsHere game occupancy slot persona row then { row with endedSeq := some seq } else row }

def insertSpectatorMembership (db : Tables) (game : GameId) (principal : PrincipalId) : Tables :=
  if spectatorMembership db game principal then db
  else { db with spectatorMembership := db.spectatorMembership ++ [⟨game, principal⟩] }

def deleteSpectatorMembership (db : Tables) (game : GameId) (principal : PrincipalId) : Tables :=
  { db with
    spectatorMembership := db.spectatorMembership.filter fun row =>
      ¬ (row.gameId = game ∧ row.principalId = principal) }

/-- The projection of one stored event. -/
def project (game : GameId) (resolved : GamePersonaBindingProjection) (seq : Int) (db : Tables) :
    SeatEvent → Option Tables
  | .gamePersonaRegistered persona subject => registerGamePersona db game persona subject resolved
  | .slotOccupancyStarted occupancy slot persona =>
    startOccupancyEpoch (ensureSlot db game slot) game occupancy slot persona seq
  | .slotOccupancyEnded occupancy slot persona =>
    endOccupancyEpoch db game occupancy slot persona seq
  | .spectatorGranted principal => some (insertSpectatorMembership db game principal)
  | .spectatorRevoked principal => some (deleteSpectatorMembership db game principal)

/-- `persist`: the events are stored from this sequence number on. -/
def persist (game : GameId) (resolved : GamePersonaBindingProjection) :
    Int → Tables → List SeatEvent → Except Reject Tables
  | _, db, [] => .ok db
  | seq, db, event :: events =>
    match project game resolved seq db event with
    | none => .error .internal
    | some db => persist game resolved (seq + 1) db events

/-! ## Commands -/

/-- What a command draws, and what it finds when it appends. -/
structure Draw where
  personaId : GamePersonaId
  occupancyId : OccupancyId
  subjectId : SubjectId
  seq : Int
  resolved : GamePersonaBindingProjection := .active

/-- A persona for the principal: its own, or the drawn one, registered first. -/
def admitPersona (db : Tables) (game : GameId) (principal : PrincipalId) (draw : Draw) :
    Except Reject (GamePersonaId × List SeatEvent × Tables) := do
  let persona := (personaIdForPrincipal db game principal).getD draw.personaId
  if gamePersonaExists db game persona then return (persona, [], db)
  let (subject, db) ← register db game persona principal draw.subjectId
  return (persona, [.gamePersonaRegistered persona subject], db)

def assignSlotWithName (db : Tables) (game : GameId) (draw : Draw) (slot : SlotId)
    (principal : PrincipalId) : Except Reject Tables := do
  refuseIf (¬ slotExists db game slot) .unknownSlot
  refuseIf (spectatorMembership db game principal) .invalidTarget
  refuseIf (slotOccupant db game slot).isSome .invalidTarget
  let (persona, events, db) ← admitPersona db game principal draw
  persist game draw.resolved draw.seq db
    (events ++ [.slotOccupancyStarted draw.occupancyId slot persona])

def processReplacement (db : Tables) (game : GameId) (draw : Draw) (slot : SlotId)
    (outgoing : GamePersonaId) (incoming : PrincipalId) : Except Reject Tables := do
  refuseIf (¬ slotExists db game slot) .unknownSlot
  let some (occupancy, current) := openOccupancy db game slot | .error .invalidTarget
  refuseIf (current ≠ outgoing) .invalidTarget
  refuseIf (¬ replacementPrincipalIsActive db incoming ∨
    principalHasOpenOccupancy db game incoming ∨ spectatorMembership db game incoming) .invalidTarget
  let (persona, events, db) ← admitPersona db game incoming draw
  persist game draw.resolved draw.seq db
    (events ++ [.slotOccupancyEnded occupancy slot outgoing,
      .slotOccupancyStarted draw.occupancyId slot persona])

def grantSpectator (db : Tables) (game : GameId) (draw : Draw) (principal : PrincipalId) :
    Except Reject Tables := do
  refuseIf (principalHasOpenOccupancy db game principal ∨ spectatorMembership db game principal)
    .invalidTarget
  persist game draw.resolved draw.seq db [.spectatorGranted principal]

def revokeSpectator (db : Tables) (game : GameId) (draw : Draw) (principal : PrincipalId) :
    Except Reject Tables := do
  refuseIf (¬ spectatorMembership db game principal) .invalidTarget
  persist game draw.resolved draw.seq db [.spectatorRevoked principal]

/-- The commands that seat players and admit spectators. -/
inductive Command where
  | assignSlot (slot : SlotId) (principal : PrincipalId)
  | processReplacement (slot : SlotId) (outgoing : GamePersonaId) (incoming : PrincipalId)
  | grantSpectator (principal : PrincipalId)
  | revokeSpectator (principal : PrincipalId)

/-- `handle_command`. -/
def Command.handle (db : Tables) (game : GameId) (draw : Draw) : Command → Except Reject Tables
  | assignSlot slot principal => assignSlotWithName db game draw slot principal
  | processReplacement slot outgoing incoming =>
    Seats.processReplacement db game draw slot outgoing incoming
  | grantSpectator principal => Seats.grantSpectator db game draw principal
  | revokeSpectator principal => Seats.revokeSpectator db game draw principal

/-! ## Runs -/

/-- A step: a command on a game that commits, or a change by the identity service or by the other
projections. -/
inductive Step : Tables → Tables → Prop where
  | command {db db' : Tables} {game : GameId} {draw : Draw} {command : Command}
      (hdrawn : ⟨game, draw.personaId⟩ ∉ db.gamePersona)
      (h : command.handle db game draw = .ok db') : Step db db'
  /-- `INSERT INTO privacy_subject`. -/
  | subjectOpened {db : Tables} {subject : SubjectId} {principal : PrincipalId}
      {rows : List PrivacySubject}
      (h : insertRow subjectClash db.privacySubject ⟨subject, some principal, "active"⟩ = some rows) :
      Step db { db with privacySubject := rows }
  /-- `UPDATE privacy_subject SET lifecycle_state`. -/
  | subjectState (db : Tables) (subject : SubjectId) (state : String) :
      Step db { db with
        privacySubject := db.privacySubject.map fun row =>
          if row.subjectId = subject then { row with lifecycleState := state } else row }
  /-- `UPDATE game_persona_subject_binding SET lifecycle = 'redacted' WHERE subject_id = $1 AND
  lifecycle = 'active'`. -/
  | redacted (db : Tables) (subject : SubjectId) :
      Step db { db with
        gamePersonaSubjectBinding := db.gamePersonaSubjectBinding.map fun row =>
          if row.subjectId = subject ∧ row.lifecycle = "active" then
            { row with lifecycle := "redacted" }
          else row }
  /-- Anything that leaves seats, personas and spectators alone. -/
  | other {db db' : Tables} (hsubjects : db'.privacySubject = db.privacySubject)
      (hspectators : db'.spectatorMembership = db.spectatorMembership)
      (hpersonas : db'.gamePersona = db.gamePersona)
      (hbindings : db'.gamePersonaSubjectBinding = db.gamePersonaSubjectBinding)
      (hepochs : db'.slotOccupancyEpoch = db.slotOccupancyEpoch) : Step db db'

/-! ## The invariant -/

/-- What the indexes and the commands keep. -/
structure Exclusive (db : Tables) : Prop where
  subjects : Distinct subjectClash db.privacySubject
  bindings : Distinct bindingClash db.gamePersonaSubjectBinding
  epochs : Distinct epochClash db.slotOccupancyEpoch
  owned : ∀ binding ∈ db.gamePersonaSubjectBinding,
    ∃ subject ∈ db.privacySubject, subject.subjectId = binding.subjectId
  bound : ∀ binding ∈ db.gamePersonaSubjectBinding, ⟨binding.gameId, binding.personaId⟩ ∈ db.gamePersona
  registered : ∀ epoch ∈ db.slotOccupancyEpoch, ⟨epoch.gameId, epoch.personaId⟩ ∈ db.gamePersona
  watchers : ∀ game principal slot, Occupies db game principal slot →
    ⟨game, principal⟩ ∉ db.spectatorMembership

section Players

variable {db db' : Tables} {game : GameId} {principal other : PrincipalId}
  {persona persona' : GamePersonaId}

/-- A persona is one principal's. -/
theorem Exclusive.one_player (h : Exclusive db) (hplays : Plays db game principal persona)
    (hother : Plays db game other persona) : principal = other := by
  obtain ⟨b, hb, s, hs, hgame, hpersona, -, hid, hprincipal⟩ := hplays
  obtain ⟨b', hb', s', hs', hgame', hpersona', -, hid', hprincipal'⟩ := hother
  have hbinding : b = b' := h.bindings.eq_of_clash bindingClash_comm hb hb'
    (bindingClash_iff.2 ⟨hgame.trans hgame'.symm, .inl (hpersona.trans hpersona'.symm)⟩)
  subst hbinding
  have hsubject : s = s' := h.subjects.eq_of_clash subjectClash_comm hs hs'
    (subjectClash_iff.2 (.inl (hid.trans hid'.symm)))
  subst hsubject
  exact Option.some.inj (hprincipal.symm.trans hprincipal')

/-- A principal plays one persona. -/
theorem Exclusive.one_persona (h : Exclusive db) (hplays : Plays db game principal persona)
    (hother : Plays db game principal persona') : persona = persona' := by
  obtain ⟨b, hb, s, hs, hgame, hpersona, -, hid, hprincipal⟩ := hplays
  obtain ⟨b', hb', s', hs', hgame', hpersona', -, hid', hprincipal'⟩ := hother
  have hsubject : s = s' := h.subjects.eq_of_clash subjectClash_comm hs hs'
    (subjectClash_iff.2 (.inr ⟨principal, hprincipal, hprincipal'⟩))
  subst hsubject
  have hbinding : b = b' := h.bindings.eq_of_clash bindingClash_comm hb hb'
    (bindingClash_iff.2 ⟨hgame.trans hgame'.symm, .inr (hid.symm.trans hid')⟩)
  subst hbinding
  exact hpersona.symm.trans hpersona'

/-- Nobody new sits down and nobody new watches. -/
theorem Exclusive.watchers_of (h : Exclusive db)
    (hepochs : ∀ epoch ∈ db'.slotOccupancyEpoch, epoch.endedSeq = none → epoch ∈ db.slotOccupancyEpoch)
    (hplays : ∀ game principal, ∀ epoch ∈ db.slotOccupancyEpoch, epoch.gameId = game →
      Plays db' game principal epoch.personaId → Plays db game principal epoch.personaId)
    (hspectators : ∀ row ∈ db'.spectatorMembership, row ∈ db.spectatorMembership) :
    ∀ game principal slot, Occupies db' game principal slot →
      ⟨game, principal⟩ ∉ db'.spectatorMembership := by
  rintro game principal slot ⟨epoch, hepoch, hopen, hslot, hpersona⟩ hspectator
  have hold := hepochs epoch hepoch hopen.2
  exact h.watchers game principal slot
    ⟨epoch, hold, hopen, hslot, hplays game principal epoch hold hopen.1 hpersona⟩
    (hspectators _ hspectator)

/-! ## Subjects and personas -/

variable {subject : SubjectId} {occupancy : OccupancyId} {seq : Int} {slot : SlotId}

/-- A new subject is nobody's until it is bound. -/
theorem Exclusive.subjectOpened {rows : List PrivacySubject} (h : Exclusive db)
    (hrows : insertRow subjectClash db.privacySubject ⟨subject, some principal, "active"⟩ = some rows) : Exclusive { db with privacySubject := rows } := by
  have hdistinct := h.subjects.insertRow hrows
  obtain ⟨hfree, rfl⟩ := insertRow_eq_some.1 hrows
  have howned : ∀ binding ∈ db.gamePersonaSubjectBinding, binding.subjectId ≠ subject := by
    rintro binding hbinding rfl
    obtain ⟨row, hrow, hid⟩ := h.owned binding hbinding
    exact Bool.eq_false_iff.1 (hfree row hrow) (subjectClash_iff.2 (.inl hid))
  refine
    { subjects := hdistinct
      bindings := h.bindings
      epochs := h.epochs
      owned := fun binding hbinding => ?_
      bound := h.bound
      registered := h.registered
      watchers := h.watchers_of (fun _ hepoch _ => hepoch) ?_ fun _ hrow => hrow }
  · obtain ⟨row, hrow, hid⟩ := h.owned binding hbinding
    exact ⟨row, List.mem_append_left _ hrow, hid⟩
  · rintro game' principal' epoch - - ⟨b, hb, s, hs, hgame, hpersona, hactive, hid, hprincipal⟩
    rcases List.mem_append.1 hs with hold | hnew
    · exact ⟨b, hb, s, hold, hgame, hpersona, hactive, hid, hprincipal⟩
    · obtain rfl := List.mem_singleton.1 hnew
      exact absurd hid.symm (howned b hb)

/-- An update of subjects that keeps their ids and principals. -/
theorem Exclusive.subjectState (h : Exclusive db) {f : PrivacySubject → PrivacySubject}
    (hid : ∀ row, (f row).subjectId = row.subjectId)
    (hprincipal : ∀ row, (f row).principalId = row.principalId) :
    Exclusive { db with privacySubject := db.privacySubject.map f } := by
  refine
    { subjects := h.subjects.map fun a b hclash => ?_
      bindings := h.bindings
      epochs := h.epochs
      owned := fun binding hbinding => ?_
      bound := h.bound
      registered := h.registered
      watchers := h.watchers_of (fun _ hepoch _ => hepoch) ?_ fun _ hrow => hrow }
  · rw [subjectClash_iff, hid, hid, hprincipal, hprincipal] at hclash
    exact subjectClash_iff.2 hclash
  · obtain ⟨row, hrow, hrowId⟩ := h.owned binding hbinding
    exact ⟨f row, List.mem_map_of_mem hrow, (hid row).trans hrowId⟩
  · rintro game' principal' epoch - - ⟨b, hb, s, hs, hgame, hpersona, hactive, hs', howner⟩
    obtain ⟨row, hrow, rfl⟩ := List.mem_map.1 hs
    exact ⟨b, hb, row, hrow, hgame, hpersona, hactive, (hid row).symm.trans hs',
      (hprincipal row).symm.trans howner⟩

/-- A redacted binding makes nobody a player. -/
theorem Exclusive.redacted (h : Exclusive db) (subject : SubjectId) :
    Exclusive { db with
      gamePersonaSubjectBinding := db.gamePersonaSubjectBinding.map fun row =>
        if row.subjectId = subject ∧ row.lifecycle = "active" then
          { row with lifecycle := "redacted" }
        else row } := by
  have hkeys : ∀ row : GamePersonaSubjectBinding,
      (if row.subjectId = subject ∧ row.lifecycle = "active" then
        { row with lifecycle := "redacted" } else row) =
      { row with
        lifecycle := if row.subjectId = subject ∧ row.lifecycle = "active" then "redacted"
          else row.lifecycle } := by
    intro row
    split <;> rfl
  simp only [hkeys]
  refine
    { subjects := h.subjects
      bindings := h.bindings.map fun a b hclash => ?_
      epochs := h.epochs
      owned := fun binding hbinding => ?_
      bound := fun binding hbinding => ?_
      registered := h.registered
      watchers := h.watchers_of (fun _ hepoch _ => hepoch) ?_ fun _ hrow => hrow }
  · exact bindingClash_iff.2 (bindingClash_iff.1 hclash)
  · obtain ⟨row, hrow, rfl⟩ := List.mem_map.1 hbinding
    exact h.owned row hrow
  · obtain ⟨row, hrow, rfl⟩ := List.mem_map.1 hbinding
    exact h.bound row hrow
  · rintro game' principal' epoch - - ⟨b, hb, s, hs, hgame, hpersona, hactive, hid, howner⟩
    obtain ⟨row, hrow, rfl⟩ := List.mem_map.1 hb
    have hkept : row.lifecycle = "active" := by
      dsimp only at hactive
      split at hactive
      case isTrue => exact absurd hactive (by decide)
      case isFalse => exact hactive
    exact ⟨row, hrow, s, hs, hgame, hpersona, hkept, hid, howner⟩

/-- The principal's own persona is the one it plays. -/
theorem personaIdForPrincipal_plays (h : personaIdForPrincipal db game principal = some persona) :
    Plays db game principal persona := by
  unfold personaIdForPrincipal at h
  obtain ⟨⟨binding, subject⟩, hfind, rfl⟩ := Option.map_eq_some_iff.1 h
  obtain ⟨hbinding, hsubject, hjoin⟩ := mem_join.1 (List.mem_of_find?_eq_some hfind)
  have hkept := List.find?_some hfind
  obtain ⟨hgame, hactive, hprincipal⟩ := of_decide_eq_true hkept
  exact ⟨binding, hbinding, subject, hsubject, hgame, rfl, hactive, of_decide_eq_true hjoin, hprincipal⟩

theorem gamePersonaExists_iff :
    gamePersonaExists db game persona = true ↔ ⟨game, persona⟩ ∈ db.gamePersona := by
  unfold gamePersonaExists
  rw [List.any_eq_true]
  constructor
  · rintro ⟨⟨rowGame, rowPersona⟩, hrow, hkey⟩
    obtain ⟨rfl, rfl⟩ := of_decide_eq_true hkey
    exact hrow
  · exact fun h => ⟨_, h, decide_eq_true ⟨rfl, rfl⟩⟩

theorem spectatorMembership_iff :
    spectatorMembership db game principal = true ↔ ⟨game, principal⟩ ∈ db.spectatorMembership := by
  unfold spectatorMembership
  rw [List.any_eq_true]
  constructor
  · rintro ⟨⟨rowGame, rowPrincipal⟩, hrow, hkey⟩
    obtain ⟨rfl, rfl⟩ := of_decide_eq_true hkey
    exact hrow
  · exact fun h => ⟨_, h, decide_eq_true ⟨rfl, rfl⟩⟩

theorem principalHasOpenOccupancy_iff : principalHasOpenOccupancy db game principal = true ↔
      ∃ slot, Occupies db game principal slot := by
  unfold principalHasOpenOccupancy
  rw [List.any_eq_true]
  constructor
  · rintro ⟨row, hrow, hown⟩
    exact ⟨_, occupies_iff.2 ⟨row, hrow, hown, rfl⟩⟩
  · rintro ⟨slot, hslot⟩
    obtain ⟨row, hrow, hown, -⟩ := occupies_iff.1 hslot
    exact ⟨row, hrow, hown⟩

/-- The tables but for a subject that may have been opened. -/
structure SubjectOf (db db' : Tables) (principal : PrincipalId) (subject : SubjectId) : Prop where
  exclusive : Exclusive db'
  row : ∃ row ∈ db'.privacySubject, row.subjectId = subject ∧ row.principalId = some principal
  spectators : db'.spectatorMembership = db.spectatorMembership

theorem ensureActiveSubject_ok {candidate : SubjectId} (hexclusive : Exclusive db)
    (h : ensureActiveSubject db principal candidate = .ok (subject, db')) :
    SubjectOf db db' principal subject := by
  unfold ensureActiveSubject at h
  obtain ⟨-, -, h⟩ := bind_eq_ok.1 h
  split at h
  case h_1 row hrow =>
    obtain ⟨-, -, h⟩ := bind_eq_ok.1 h
    obtain ⟨rfl, rfl⟩ := Prod.mk.inj (Except.ok.inj h)
    have hprincipal := List.find?_some hrow
    exact ⟨hexclusive, ⟨row, List.mem_of_find?_eq_some hrow, rfl, of_decide_eq_true hprincipal⟩, rfl⟩
  case h_2 =>
    split at h
    case h_2 => cases h
    case h_1 rows hrows =>
      obtain ⟨rfl, rfl⟩ := Prod.mk.inj (Except.ok.inj h)
      refine ⟨hexclusive.subjectOpened hrows, ⟨⟨candidate, some principal, "active"⟩, ?_, rfl, rfl⟩, rfl⟩
      obtain ⟨-, rfl⟩ := insertRow_eq_some.1 hrows
      exact List.mem_append_right _ (List.mem_singleton_self _)

theorem register_ok {candidate : SubjectId} (hexclusive : Exclusive db)
    (h : register db game persona principal candidate = .ok (subject, db')) :
    SubjectOf db db' principal subject := by
  unfold register at h
  obtain ⟨-, -, h⟩ := bind_eq_ok.1 h
  obtain ⟨⟨found, opened⟩, hensured, h⟩ := bind_eq_ok.1 h
  obtain ⟨-, -, h⟩ := bind_eq_ok.1 h
  obtain ⟨-, -, h⟩ := bind_eq_ok.1 h
  obtain ⟨rfl, rfl⟩ := Prod.mk.inj (Except.ok.inj h)
  exact ensureActiveSubject_ok hexclusive hensured

/-! ## Epochs -/

/-- The persona is registered and nobody but the principal plays it. -/
structure Admitted (db : Tables) (game : GameId) (principal : PrincipalId)
    (persona : GamePersonaId) : Prop where
  exclusive : Exclusive db
  registered : ⟨game, persona⟩ ∈ db.gamePersona
  only : ∀ other, Plays db game other persona → other = principal

theorem registerGamePersona_ok {resolved : GamePersonaBindingProjection} (hexclusive : Exclusive db)
    (h : registerGamePersona db game persona subject resolved = some db') :
    ⟨game, persona⟩ ∉ db.gamePersona ∧ ∃ added : List GamePersonaSubjectBinding,
      (∀ b ∈ added, b.gameId = game ∧ b.personaId = persona ∧ b.subjectId = subject) ∧
      Distinct bindingClash (db.gamePersonaSubjectBinding ++ added) ∧
      db' = { db with
        gamePersona := db.gamePersona ++ [⟨game, persona⟩]
        gamePersonaSubjectBinding := db.gamePersonaSubjectBinding ++ added } := by
  unfold registerGamePersona at h
  obtain ⟨personas, hpersonas, h⟩ := Option.bind_eq_some_iff.1 h
  obtain ⟨hfree, rfl⟩ := insertRow_eq_some.1 hpersonas
  have hnew : ⟨game, persona⟩ ∉ db.gamePersona := by
    intro hold
    refine Bool.eq_false_iff.1 (hfree _ hold) ?_
    unfold personaClash
    exact sameKey_iff.2 ⟨_, rfl, rfl⟩
  refine ⟨hnew, ?_⟩
  split at h
  case h_1 lifecycle hlifecycle =>
    obtain ⟨bindings, hbindings, h⟩ := Option.bind_eq_some_iff.1 h
    have hdistinct := hexclusive.bindings.insertRow hbindings
    obtain ⟨-, rfl⟩ := insertRow_eq_some.1 hbindings
    obtain rfl := Option.some.inj h
    refine ⟨_, fun b hb => ?_, hdistinct, rfl⟩
    obtain rfl := List.mem_singleton.1 hb
    exact ⟨rfl, rfl, rfl⟩
  case h_2 =>
    obtain rfl := Option.some.inj h
    refine ⟨[], nofun, ?_, ?_⟩
    · rw [List.append_nil]
      exact hexclusive.bindings
    · rw [List.append_nil]

/-- A persona that the game has not seen is admitted as the principal's of its subject. -/
theorem SubjectOf.registered {before : Tables} {resolved : GamePersonaBindingProjection}
    (h : SubjectOf before db principal subject)
    (hregister : registerGamePersona db game persona subject resolved = some db') :
    Admitted db' game principal persona ∧ db'.spectatorMembership = before.spectatorMembership := by
  obtain ⟨hnew, added, hadded, hdistinct, rfl⟩ := registerGamePersona_ok h.exclusive hregister
  obtain ⟨owner, howner, hid, hprincipal⟩ := h.row
  have hbindings : ∀ binding ∈ db.gamePersonaSubjectBinding ++ added,
      binding ∈ db.gamePersonaSubjectBinding ∨ binding ∈ added := fun _ => List.mem_append.1
  refine ⟨⟨?_, List.mem_append_right _ (List.mem_singleton_self _), ?_⟩, h.spectators⟩
  · refine
      { subjects := h.exclusive.subjects
        bindings := hdistinct
        epochs := h.exclusive.epochs
        owned := fun binding hbinding => ?_
        bound := fun binding hbinding => ?_
        registered := fun epoch hepoch => List.mem_append_left _ (h.exclusive.registered epoch hepoch)
        watchers := h.exclusive.watchers_of (fun _ hepoch _ => hepoch) ?_ fun _ hrow => hrow }
    · rcases hbindings binding hbinding with hold | hadd
      · exact h.exclusive.owned binding hold
      · exact ⟨owner, howner, hid.trans (hadded binding hadd).2.2.symm⟩
    · rcases hbindings binding hbinding with hold | hadd
      · exact List.mem_append_left _ (h.exclusive.bound binding hold)
      · obtain ⟨hgame, hpersona, -⟩ := hadded binding hadd
        rw [hgame, hpersona]
        exact List.mem_append_right _ (List.mem_singleton_self _)
    · rintro game' principal' epoch hepoch hof ⟨b, hb, hrest⟩
      rcases hbindings b hb with hold | hadd
      · exact ⟨b, hold, hrest⟩
      · -- The epoch is of a registered persona, the new binding is not.
        obtain ⟨s, hs, hgame, hpersona, -⟩ := hrest
        obtain ⟨hgame', hpersona', -⟩ := hadded b hadd
        refine absurd (h.exclusive.registered epoch hepoch) ?_
        rw [hof, ← hgame, ← hpersona, hgame', hpersona']
        exact hnew
  · rintro other ⟨b, hb, s, hs, hgame, hpersona, -, hsubject, howns⟩
    rcases hbindings b hb with hold | hadd
    · refine absurd (h.exclusive.bound b hold) ?_
      rw [hgame, hpersona]
      exact hnew
    · have hsame : s = owner := h.exclusive.subjects.eq_of_clash subjectClash_comm hs howner
        (subjectClash_iff.2 (.inl (hsubject.trans ((hadded b hadd).2.2.trans hid.symm))))
      subst hsame
      exact Option.some.inj (howns.symm.trans hprincipal)

/-- An epoch that ends leaves the others as they are. -/
theorem Exclusive.ended (h : Exclusive db)
    (hend : endOccupancyEpoch db game occupancy slot persona seq = some db') :
    Exclusive db' ∧ db' = { db with slotOccupancyEpoch := db'.slotOccupancyEpoch } := by
  unfold endOccupancyEpoch at hend
  split at hend
  case isTrue => cases hend
  case isFalse =>
    obtain rfl := Option.some.inj hend
    refine ⟨?_, rfl⟩
    have hkeys : ∀ row : SlotOccupancyEpoch,
        (if endsHere game occupancy slot persona row then { row with endedSeq := some seq }
          else row) =
        { row with
          endedSeq := if endsHere game occupancy slot persona row then some seq
            else row.endedSeq } := by
      intro row
      split <;> rfl
    have hopen : ∀ row : SlotOccupancyEpoch,
        (if endsHere game occupancy slot persona row then some seq else row.endedSeq) = none →
          ¬ endsHere game occupancy slot persona row ∧ row.endedSeq = none := by
      intro row hnone
      split at hnone
      case isTrue => cases hnone
      case isFalse hkept => exact ⟨hkept, hnone⟩
    simp only [hkeys]
    refine
      { subjects := h.subjects
        bindings := h.bindings
        epochs := h.epochs.map fun a b hclash => ?_
        owned := h.owned
        bound := h.bound
        registered := fun epoch hepoch => ?_
        watchers := h.watchers_of (fun epoch hepoch hnone => ?_)
          (fun _ _ _ _ _ hplays => hplays) fun _ hrow => hrow }
    · obtain ⟨hgame, hoccupancy | ⟨ha, hb, hkey⟩⟩ := epochClash_iff.1 hclash
      · exact epochClash_iff.2 ⟨hgame, .inl hoccupancy⟩
      · exact epochClash_iff.2 ⟨hgame, .inr ⟨(hopen a ha).2, (hopen b hb).2, hkey⟩⟩
    · obtain ⟨row, hrow, rfl⟩ := List.mem_map.1 hepoch
      exact h.registered row hrow
    · obtain ⟨row, hrow, rfl⟩ := List.mem_map.1 hepoch
      obtain ⟨hkept, -⟩ := hopen row hnone
      rw [if_neg hkept]
      exact hrow

/-- An admitted persona may sit down if its principal does not watch. -/
theorem Admitted.started (h : Admitted db game principal persona)
    (hwatch : ⟨game, principal⟩ ∉ db.spectatorMembership)
    (hstart : startOccupancyEpoch db game occupancy slot persona seq = some db') :
    Exclusive db' := by
  unfold startOccupancyEpoch at hstart
  obtain ⟨epochs, hepochs, hstart⟩ := Option.bind_eq_some_iff.1 hstart
  obtain rfl := Option.some.inj hstart
  have hdistinct := h.exclusive.epochs.insertRow hepochs
  obtain ⟨-, rfl⟩ := insertRow_eq_some.1 hepochs
  refine
    { subjects := h.exclusive.subjects
      bindings := h.exclusive.bindings
      epochs := hdistinct
      owned := h.exclusive.owned
      bound := h.exclusive.bound
      registered := fun epoch hepoch => ?_
      watchers := ?_ }
  · rcases List.mem_append.1 hepoch with hold | hnew
    · exact h.exclusive.registered epoch hold
    · obtain rfl := List.mem_singleton.1 hnew
      exact h.registered
  · rintro game' principal' slot' ⟨epoch, hepoch, hopen, hslot, hplays⟩
    rcases List.mem_append.1 hepoch with hold | hnew
    · exact h.exclusive.watchers game' principal' slot' ⟨epoch, hold, hopen, hslot, hplays⟩
    · obtain rfl := List.mem_singleton.1 hnew
      obtain rfl : game = game' := hopen.1
      rw [h.only principal' hplays]
      exact hwatch

theorem Admitted.ended {ending : GamePersonaId} (h : Admitted db game principal persona)
    (hend : endOccupancyEpoch db game occupancy slot ending seq = some db') :
    Admitted db' game principal persona ∧ db'.spectatorMembership = db.spectatorMembership := by
  obtain ⟨hexclusive, hsame⟩ := h.exclusive.ended hend
  rw [hsame] at hexclusive ⊢
  exact ⟨⟨hexclusive, h.registered, h.only⟩, rfl⟩

/-- Slots do not bear on who sits where. -/
theorem Admitted.ensureSlot (h : Admitted db game principal persona) (slot : SlotId) :
    Admitted (ensureSlot db game slot) game principal persona := by
  rw [ensureSlot_eq]
  exact
    { exclusive :=
        { subjects := h.exclusive.subjects
          bindings := h.exclusive.bindings
          epochs := h.exclusive.epochs
          owned := h.exclusive.owned
          bound := h.exclusive.bound
          registered := h.exclusive.registered
          watchers := h.exclusive.watchers }
      registered := h.registered
      only := h.only }

/-! ## Commands -/

section Commands

variable {draw : Draw} {slot : SlotId}

variable {resolved : GamePersonaBindingProjection} {seq : Int}

theorem persist_cons {event : SeatEvent} {events : List SeatEvent}
    (h : persist game resolved seq db (event :: events) = .ok db') :
    ∃ next, project game resolved seq db event = some next ∧
      persist game resolved (seq + 1) next events = .ok db' := by
  rw [persist] at h
  split at h
  case h_1 => cases h
  case h_2 next hnext => exact ⟨next, hnext, h⟩

theorem persist_nil (h : persist game resolved seq db [] = .ok db') : db = db' :=
  Except.ok.inj h

/-- Once its events are in, the persona is admitted, and the rest follows. -/
theorem admitPersona_ok {before : Tables} {events rest : List SeatEvent}
    (hexclusive : Exclusive before) (hdrawn : ⟨game, draw.personaId⟩ ∉ before.gamePersona)
    (h : admitPersona before game principal draw = .ok (persona, events, db))
    (hpersist : persist game resolved seq db (events ++ rest) = .ok db') :
    ∃ seq' admitted, Admitted admitted game principal persona ∧
      admitted.spectatorMembership = before.spectatorMembership ∧
      persist game resolved seq' admitted rest = .ok db' := by
  unfold admitPersona at h
  dsimp only at h
  split at h
  case isTrue hexists =>
    obtain ⟨rfl, rfl, rfl⟩ : _ = persona ∧ [] = events ∧ before = db := by
      simpa [Pure.pure, Except.pure] using h
    have hregistered := gamePersonaExists_iff.1 hexists
    refine ⟨seq, before, ⟨hexclusive, hregistered, fun other hother => ?_⟩, rfl, hpersist⟩
    cases hown : personaIdForPrincipal before game principal with
    | none =>
      rw [hown] at hregistered
      exact absurd hregistered hdrawn
    | some own =>
      rw [hown] at hother
      exact hexclusive.one_player hother (personaIdForPrincipal_plays hown)
  case isFalse =>
    obtain ⟨⟨subject, opened⟩, hregister, h⟩ := bind_eq_ok.1 h
    obtain ⟨rfl, rfl, rfl⟩ : _ = persona ∧ [.gamePersonaRegistered _ subject] = events ∧ opened = db := by
      simpa [Pure.pure, Except.pure] using h
    obtain ⟨next, hnext, hrest⟩ := persist_cons hpersist
    obtain ⟨hadmitted, hspectators⟩ := (register_ok hexclusive hregister).registered hnext
    exact ⟨_, next, hadmitted, hspectators, hrest⟩

theorem assignSlotWithName_exclusive (hexclusive : Exclusive db)
    (hdrawn : ⟨game, draw.personaId⟩ ∉ db.gamePersona)
    (h : assignSlotWithName db game draw slot principal = .ok db') : Exclusive db' := by
  unfold assignSlotWithName at h
  obtain ⟨-, -, h⟩ := bind_eq_ok.1 h
  obtain ⟨_, hwatch, h⟩ := bind_eq_ok.1 h
  obtain ⟨-, -, h⟩ := bind_eq_ok.1 h
  obtain ⟨⟨persona, events, opened⟩, hadmission, h⟩ := bind_eq_ok.1 h
  obtain ⟨seq, admitted, hadmitted, hspectators, hrest⟩ :=
    admitPersona_ok hexclusive hdrawn hadmission h
  obtain ⟨next, hnext, hrest⟩ := persist_cons hrest
  obtain rfl := persist_nil hrest
  refine (hadmitted.ensureSlot slot).started ?_ hnext
  rw [ensureSlot_eq, hspectators, ← spectatorMembership_iff]
  exact refuseIf_eq_ok.1 hwatch

theorem processReplacement_exclusive {outgoing : GamePersonaId} (hexclusive : Exclusive db)
    (hdrawn : ⟨game, draw.personaId⟩ ∉ db.gamePersona)
    (h : processReplacement db game draw slot outgoing principal = .ok db') : Exclusive db' := by
  unfold processReplacement at h
  obtain ⟨-, -, h⟩ := bind_eq_ok.1 h
  split at h
  case h_2 => cases h
  case h_1 occupancy current hopen =>
    obtain ⟨-, -, h⟩ := bind_eq_ok.1 h
    obtain ⟨_, hincoming, h⟩ := bind_eq_ok.1 h
    obtain ⟨⟨persona, events, opened⟩, hadmission, h⟩ := bind_eq_ok.1 h
    obtain ⟨seq, admitted, hadmitted, hspectators, hrest⟩ :=
      admitPersona_ok hexclusive hdrawn hadmission h
    obtain ⟨vacant, hvacant, hrest⟩ := persist_cons hrest
    obtain ⟨next, hnext, hrest⟩ := persist_cons hrest
    obtain rfl := persist_nil hrest
    obtain ⟨hready, hsame⟩ := hadmitted.ended hvacant
    refine (hready.ensureSlot slot).started ?_ hnext
    rw [ensureSlot_eq, hsame, hspectators, ← spectatorMembership_iff]
    exact fun hwatch => refuseIf_eq_ok.1 hincoming (.inr (.inr hwatch))

theorem grantSpectator_exclusive (hexclusive : Exclusive db)
    (h : grantSpectator db game draw principal = .ok db') : Exclusive db' := by
  unfold grantSpectator at h
  obtain ⟨_, hfree, h⟩ := bind_eq_ok.1 h
  obtain ⟨hseat, hnew⟩ := not_or.1 (refuseIf_eq_ok.1 hfree)
  obtain ⟨next, hnext, hrest⟩ := persist_cons h
  obtain rfl := persist_nil hrest
  obtain rfl := Option.some.inj hnext
  unfold insertSpectatorMembership
  rw [if_neg hnew]
  refine
    { subjects := hexclusive.subjects
      bindings := hexclusive.bindings
      epochs := hexclusive.epochs
      owned := hexclusive.owned
      bound := hexclusive.bound
      registered := hexclusive.registered
      watchers := ?_ }
  intro game' principal' slot hoccupies hwatch
  rcases List.mem_append.1 hwatch with hold | hgranted
  · exact hexclusive.watchers game' principal' slot hoccupies hold
  · obtain ⟨rfl, rfl⟩ := SpectatorMembership.mk.inj (List.mem_singleton.1 hgranted)
    exact hseat (principalHasOpenOccupancy_iff.2 ⟨slot, hoccupies⟩)

theorem revokeSpectator_exclusive (hexclusive : Exclusive db)
    (h : revokeSpectator db game draw principal = .ok db') : Exclusive db' := by
  unfold revokeSpectator at h
  obtain ⟨-, -, h⟩ := bind_eq_ok.1 h
  obtain ⟨next, hnext, hrest⟩ := persist_cons h
  obtain rfl := persist_nil hrest
  obtain rfl := Option.some.inj hnext
  exact
    { subjects := hexclusive.subjects
      bindings := hexclusive.bindings
      epochs := hexclusive.epochs
      owned := hexclusive.owned
      bound := hexclusive.bound
      registered := hexclusive.registered
      watchers := hexclusive.watchers_of (fun _ hepoch _ => hepoch)
        (fun _ _ _ _ _ hplays => hplays) fun _ hrow => (List.mem_filter.1 hrow).1 }

end Commands

theorem Exclusive.step (h : Step db db') (hexclusive : Exclusive db) : Exclusive db' := by
  cases h with
  | @command _ _ _ command hdrawn h =>
    cases command with
    | assignSlot slot principal => exact assignSlotWithName_exclusive hexclusive hdrawn h
    | processReplacement slot outgoing incoming =>
      exact processReplacement_exclusive hexclusive hdrawn h
    | grantSpectator principal => exact grantSpectator_exclusive hexclusive h
    | revokeSpectator principal => exact revokeSpectator_exclusive hexclusive h
  | subjectOpened h => exact hexclusive.subjectOpened h
  | subjectState subject state =>
    refine hexclusive.subjectState (fun row => ?_) fun row => ?_
    · split <;> rfl
    · split <;> rfl
  | redacted subject => exact hexclusive.redacted subject
  | other hsubjects hspectators hpersonas hbindings hepochs =>
    refine
      { subjects := hsubjects ▸ hexclusive.subjects
        bindings := hbindings ▸ hexclusive.bindings
        epochs := hepochs ▸ hexclusive.epochs
        owned := by rw [hbindings, hsubjects]; exact hexclusive.owned
        bound := by rw [hbindings, hpersonas]; exact hexclusive.bound
        registered := by rw [hepochs, hpersonas]; exact hexclusive.registered
        watchers := ?_ }
    unfold Occupies Plays
    rw [hepochs, hbindings, hsubjects, hspectators]
    exact hexclusive.watchers

theorem Exclusive.empty : Exclusive {} where
  subjects := List.Pairwise.nil
  bindings := List.Pairwise.nil
  epochs := List.Pairwise.nil
  owned _ h := absurd h List.not_mem_nil
  bound _ h := absurd h List.not_mem_nil
  registered _ h := absurd h List.not_mem_nil
  watchers _ _ _ _ := List.not_mem_nil

end Players

/-- Every run: one open epoch a slot, one seat a principal, and no player among the spectators. -/
theorem seats_exclusive {db : Tables} (h : Relation.ReflTransGen Step {} db) :
    (∀ game slot, (db.slotOccupancyEpoch.filter fun epoch =>
      epoch.IsOpen game ∧ epoch.slotId = slot).length ≤ 1) ∧
    (∀ game principal, (db.slotOccupancyEpoch.filter fun epoch =>
      epoch.IsOpen game ∧ Plays db game principal epoch.personaId).length ≤ 1) ∧
    ∀ game principal slot, Occupies db game principal slot → ⟨game, principal⟩ ∉ db.spectatorMembership := by
  have hexclusive : Exclusive db :=
    Steps.preserved Exclusive (fun _ _ hstep => Exclusive.step hstep) h Exclusive.empty
  refine ⟨fun game slot => ?_, fun game principal => ?_, hexclusive.watchers⟩
  · refine hexclusive.epochs.length_filter_le_one fun a _ b _ ha hb => ?_
    obtain ⟨⟨hgame, hopen⟩, hslot⟩ := of_decide_eq_true ha
    obtain ⟨⟨hgame', hopen'⟩, hslot'⟩ := of_decide_eq_true hb
    exact epochClash_iff.2 ⟨hgame.trans hgame'.symm, .inr ⟨hopen, hopen', .inl (hslot.trans hslot'.symm)⟩⟩
  · refine hexclusive.epochs.length_filter_le_one fun a _ b _ ha hb => ?_
    obtain ⟨⟨hgame, hopen⟩, hplays⟩ := of_decide_eq_true ha
    obtain ⟨⟨hgame', hopen'⟩, hplays'⟩ := of_decide_eq_true hb
    exact epochClash_iff.2 ⟨hgame.trans hgame'.symm,
      .inr ⟨hopen, hopen', .inr (hexclusive.one_persona hplays hplays')⟩⟩

/-! ## A run -/

/-- Two principals, one slot. -/
def lobby : Tables where
  platformPrincipal := [⟨11, "active", none⟩, ⟨12, "active", none⟩]
  slotState := [⟨1, "a", true⟩]

def firstDraw : Draw := { personaId := 31, occupancyId := 41, subjectId := 21, seq := 5 }

def secondDraw : Draw := { personaId := 32, occupancyId := 42, subjectId := 22, seq := 8 }

/-- The first principal watches. -/
def watched : Tables := { lobby with spectatorMembership := [⟨1, 11⟩] }

/-- It plays instead. -/
def seated : Tables :=
  { lobby with
    privacySubject := [⟨21, some 11, "active"⟩]
    gamePersona := [⟨1, 31⟩]
    gamePersonaSubjectBinding := [⟨1, 31, 21, "active"⟩]
    slotOccupancyEpoch := [⟨1, 41, "a", 31, 6, none⟩] }

/-- The second principal replaces it. -/
def replaced : Tables :=
  { lobby with
    privacySubject := [⟨21, some 11, "active"⟩, ⟨22, some 12, "active"⟩]
    gamePersona := [⟨1, 31⟩, ⟨1, 32⟩]
    gamePersonaSubjectBinding := [⟨1, 31, 21, "active"⟩, ⟨1, 32, 22, "active"⟩]
    slotOccupancyEpoch := [⟨1, 41, "a", 31, 6, some 9⟩, ⟨1, 42, "a", 32, 10, none⟩] }

theorem replaced_reached : Relation.ReflTransGen Step {} replaced := by
  have hlobby : Step {} lobby := .other rfl rfl rfl rfl rfl
  have hwatched : Step lobby watched :=
    @Step.command lobby watched 1 firstDraw (.grantSpectator 11) (by decide) rfl
  have hleft : Step watched lobby :=
    @Step.command watched lobby 1 firstDraw (.revokeSpectator 11) (by decide) rfl
  have hseated : Step lobby seated :=
    @Step.command lobby seated 1 firstDraw (.assignSlot "a" 11) (by decide) rfl
  have hopened : Step seated { seated with privacySubject := replaced.privacySubject } :=
    @Step.subjectOpened seated 22 12 _ rfl
  have hreplaced : Step { seated with privacySubject := replaced.privacySubject } replaced :=
    @Step.command _ replaced 1 secondDraw (.processReplacement "a" 31 12) (by decide) rfl
  exact (((((Relation.ReflTransGen.single hlobby).tail hwatched).tail hleft).tail hseated).tail
    hopened).tail hreplaced

theorem replaced_exclusive : (∀ game slot, (replaced.slotOccupancyEpoch.filter fun epoch =>
      epoch.IsOpen game ∧ epoch.slotId = slot).length ≤ 1) ∧
    (∀ game principal, (replaced.slotOccupancyEpoch.filter fun epoch =>
      epoch.IsOpen game ∧ Plays replaced game principal epoch.personaId).length ≤ 1) ∧
    ∀ game principal slot, Occupies replaced game principal slot →
      ⟨game, principal⟩ ∉ replaced.spectatorMembership :=
  seats_exclusive replaced_reached

end Fmarch.Commands.Seats
