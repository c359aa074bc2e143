import Fmarch.Lib.Relational
import Fmarch.Platform.Values

/-!
# The projection tables (`0001_current_schema.sql`)

Who a game's seats, channels and roles belong to. A seat is held by a persona, for as long as an
occupancy epoch stays open; a persona is a principal's through its active binding to the principal's
privacy subject. Only the columns that the modelled queries read or write are kept; sealed columns are
kept open.

**`Occupies`** is the one account of who plays a slot, whichever query asks.
-/

namespace Fmarch.Projections

open Platform Relational

abbrev GameId := Uuid
abbrev PrincipalId := Uuid
abbrev SubjectId := Uuid
abbrev GamePersonaId := Uuid
abbrev OccupancyId := Uuid
abbrev SlotId := String
abbrev ChannelId := String

/-! ## Rows -/

structure PlatformPrincipal where
  principalId : PrincipalId
  status : String
  disabledAt : Option Int := none

/-- `member_lifecycle_projection`. -/
structure MemberLifecycle where
  principalId : PrincipalId
  status : String

structure PrivacySubject where
  subjectId : SubjectId
  principalId : Option PrincipalId
  lifecycleState : String := "active"

structure SubjectTombstone where
  subjectId : SubjectId
  deriving DecidableEq

structure GameAuthority where
  gameId : GameId
  principalId : PrincipalId
  role : String

structure SpectatorMembership where
  gameId : GameId
  principalId : PrincipalId

structure GamePersona where
  gameId : GameId
  personaId : GamePersonaId
  deriving DecidableEq

structure GamePersonaSubjectBinding where
  gameId : GameId
  personaId : GamePersonaId
  subjectId : SubjectId
  lifecycle : String := "active"

structure SlotOccupancyEpoch where
  gameId : GameId
  occupancyId : OccupancyId
  slotId : SlotId
  personaId : GamePersonaId
  beganSeq : Int
  endedSeq : Option Int := none

structure SlotState where
  gameId : GameId
  slotId : SlotId
  alive : Bool := true

structure PrivateChannelMember where
  gameId : GameId
  channelId : ChannelId
  kind : String
  slotId : SlotId
  roleKey : String
  revealsAlignment : String
  source : String
  deriving DecidableEq

/-- The tables. -/
structure Tables where
  platformPrincipal : List PlatformPrincipal := []
  memberLifecycle : List MemberLifecycle := []
  privacySubject : List PrivacySubject := []
  subjectTombstone : List SubjectTombstone := []
  gameAuthority : List GameAuthority := []
  spectatorMembership : List SpectatorMembership := []
  gamePersona : List GamePersona := []
  gamePersonaSubjectBinding : List GamePersonaSubjectBinding := []
  slotOccupancyEpoch : List SlotOccupancyEpoch := []
  slotState : List SlotState := []
  privateChannelMember : List PrivateChannelMember := []

/-! ## Slots -/

def slotExists (db : Tables) (game : GameId) (slot : SlotId) : Bool :=
  db.slotState.any fun row => row.gameId = game ∧ row.slotId = slot

def ensureSlot (db : Tables) (game : GameId) (slot : SlotId) : Tables :=
  if slotExists db game slot then db
  else { db with slotState := db.slotState ++ [{ gameId := game, slotId := slot }] }

theorem ensureSlot_eq (db : Tables) (game : GameId) (slot : SlotId) :
    ensureSlot db game slot = { db with slotState := (ensureSlot db game slot).slotState } := by
  unfold ensureSlot
  split <;> rfl

/-! ## Who occupies a slot -/

/-- `slot_occupancy_epoch o JOIN game_persona_subject_binding binding ON binding.game_id = o.game_id AND
binding.persona_id = o.persona_id AND binding.lifecycle = 'active'`. -/
def boundEpochs (db : Tables) : List (SlotOccupancyEpoch × GamePersonaSubjectBinding) :=
  join db.slotOccupancyEpoch db.gamePersonaSubjectBinding fun o binding =>
    decide (binding.gameId = o.gameId ∧ binding.personaId = o.personaId ∧ binding.lifecycle = "active")

/-- The same, `JOIN privacy_subject subject ON subject.subject_id = binding.subject_id`. -/
def ownedEpochs (db : Tables) : List ((SlotOccupancyEpoch × GamePersonaSubjectBinding) × PrivacySubject) :=
  join (boundEpochs db) db.privacySubject fun bound subject =>
    decide (subject.subjectId = bound.2.subjectId)

/-- The persona is the principal's, by an active binding. -/
def Plays (db : Tables) (game : GameId) (principal : PrincipalId) (persona : GamePersonaId) : Prop :=
  ∃ binding ∈ db.gamePersonaSubjectBinding, ∃ subject ∈ db.privacySubject,
    binding.gameId = game ∧ binding.personaId = persona ∧ binding.lifecycle = "active" ∧
      subject.subjectId = binding.subjectId ∧ subject.principalId = some principal

instance (db : Tables) (game : GameId) (principal : PrincipalId) (persona : GamePersonaId) :
    Decidable (Plays db game principal persona) :=
  inferInstanceAs (Decidable (∃ binding ∈ db.gamePersonaSubjectBinding, ∃ subject ∈ _, _))

/-- The epoch is an open one of the game. -/
def SlotOccupancyEpoch.IsOpen (epoch : SlotOccupancyEpoch) (game : GameId) : Prop :=
  epoch.gameId = game ∧ epoch.endedSeq = none

instance (epoch : SlotOccupancyEpoch) (game : GameId) : Decidable (epoch.IsOpen game) :=
  inferInstanceAs (Decidable (_ ∧ _))

/-- The principal plays the persona whose epoch at the slot is open. -/
def Occupies (db : Tables) (game : GameId) (principal : PrincipalId) (slot : SlotId) : Prop :=
  ∃ epoch ∈ db.slotOccupancyEpoch, epoch.IsOpen game ∧ epoch.slotId = slot ∧
    Plays db game principal epoch.personaId

/-- What every join of the three tables selects. -/
theorem exists_ownedEpochs {db : Tables} {game : GameId} {principal : PrincipalId}
    {p : SlotOccupancyEpoch → Prop} :
    (∃ row ∈ ownedEpochs db, row.1.1.IsOpen game ∧ row.2.principalId = some principal ∧ p row.1.1) ↔
      ∃ epoch ∈ db.slotOccupancyEpoch, epoch.IsOpen game ∧ p epoch ∧
        Plays db game principal epoch.personaId := by
  constructor
  · rintro ⟨⟨⟨epoch, binding⟩, subject⟩, hrow, hopen, hprincipal, hp⟩
    obtain ⟨hbound, hsubject, hjoin⟩ := mem_join.1 hrow
    obtain ⟨hepoch, hbinding, hactive⟩ := mem_join.1 hbound
    obtain ⟨hgame, hpersona, hlifecycle⟩ := of_decide_eq_true hactive
    exact ⟨epoch, hepoch, hopen, hp, binding, hbinding, subject, hsubject, hgame.trans hopen.1,
      hpersona, hlifecycle, of_decide_eq_true hjoin, hprincipal⟩
  · rintro ⟨epoch, hepoch, hopen, hp, binding, hbinding, subject, hsubject, hgame, hpersona,
      hlifecycle, hjoin, hprincipal⟩
    have hbound : (epoch, binding) ∈ boundEpochs db :=
      mem_join.2 ⟨hepoch, hbinding, decide_eq_true ⟨hgame.trans hopen.1.symm, hpersona, hlifecycle⟩⟩
    exact ⟨((epoch, binding), subject), mem_join.2 ⟨hbound, hsubject, decide_eq_true hjoin⟩, hopen,
      hprincipal, hp⟩

/-- The rows of `ownedEpochs` that a principal's queries keep. -/
def ownOpen (principal : PrincipalId) (game : GameId)
    (row : (SlotOccupancyEpoch × GamePersonaSubjectBinding) × PrivacySubject) : Bool :=
  row.1.1.gameId = game ∧ row.2.principalId = some principal ∧ row.1.1.endedSeq = none

theorem ownOpen_iff {principal : PrincipalId} {game : GameId}
    {row : (SlotOccupancyEpoch × GamePersonaSubjectBinding) × PrivacySubject} :
    ownOpen principal game row = true ↔ row.1.1.IsOpen game ∧ row.2.principalId = some principal := by
  unfold ownOpen SlotOccupancyEpoch.IsOpen
  rw [decide_eq_true_iff]
  exact ⟨fun ⟨hgame, hprincipal, hended⟩ => ⟨⟨hgame, hended⟩, hprincipal⟩,
    fun ⟨⟨hgame, hended⟩, hprincipal⟩ => ⟨hgame, hprincipal, hended⟩⟩

/-- A row of the joined tables at a slot is an occupant there. -/
theorem occupies_iff {db : Tables} {principal : PrincipalId} {game : GameId} {slot : SlotId} :
    Occupies db game principal slot ↔
      ∃ row ∈ ownedEpochs db, ownOpen principal game row = true ∧ row.1.1.slotId = slot := by
  unfold Occupies
  rw [← exists_ownedEpochs]
  constructor
  · rintro ⟨row, hrow, hopen, hprincipal, hslot⟩
    exact ⟨row, hrow, ownOpen_iff.2 ⟨hopen, hprincipal⟩, hslot⟩
  · rintro ⟨row, hrow, hown, hslot⟩
    obtain ⟨hopen, hprincipal⟩ := ownOpen_iff.1 hown
    exact ⟨row, hrow, hopen, hprincipal, hslot⟩

/-! ## Unique indexes -/

/-- The keys of `privacy_subject`: `subject_id`, and `principal_id` where there is one. -/
def subjectClash (a b : PrivacySubject) : Bool :=
  sameKey (fun row => some row.subjectId) a b || sameKey (·.principalId) a b

/-- The key of `game_persona`. -/
def personaClash (a b : GamePersona) : Bool :=
  sameKey (fun row => some (row.gameId, row.personaId)) a b

/-- The keys of `game_persona_subject_binding`: a persona has one subject and a subject one persona. -/
def bindingClash (a b : GamePersonaSubjectBinding) : Bool :=
  sameKey (fun row => some (row.gameId, row.personaId)) a b ||
    sameKey (fun row => some (row.gameId, row.subjectId)) a b

/-- The keys of `slot_occupancy_epoch`; two of them are of the open epochs only. -/
def epochClash (a b : SlotOccupancyEpoch) : Bool :=
  sameKey (fun row => some (row.gameId, row.occupancyId)) a b ||
    sameKey (fun row => if row.endedSeq = none then some (row.gameId, row.slotId) else none) a b ||
    sameKey (fun row => if row.endedSeq = none then some (row.gameId, row.personaId) else none) a b

theorem subjectClash_iff {a b : PrivacySubject} : subjectClash a b = true ↔ a.subjectId = b.subjectId ∨
      ∃ principal, a.principalId = some principal ∧ b.principalId = some principal := by
  unfold subjectClash
  rw [Bool.or_eq_true, sameKey_iff, sameKey_iff]
  simp [eq_comm]

theorem bindingClash_iff {a b : GamePersonaSubjectBinding} : bindingClash a b = true ↔
      a.gameId = b.gameId ∧ (a.personaId = b.personaId ∨ a.subjectId = b.subjectId) := by
  unfold bindingClash
  rw [Bool.or_eq_true, sameKey_iff, sameKey_iff]
  simp [eq_comm, and_or_left]

theorem epochClash_iff {a b : SlotOccupancyEpoch} :
    epochClash a b = true ↔ a.gameId = b.gameId ∧ (a.occupancyId = b.occupancyId ∨
      (a.endedSeq = none ∧ b.endedSeq = none ∧ (a.slotId = b.slotId ∨ a.personaId = b.personaId))) := by
  unfold epochClash
  rw [Bool.or_eq_true, Bool.or_eq_true, sameKey_iff, sameKey_iff, sameKey_iff]
  simp only [Option.some.injEq, Option.ite_none_right_eq_some, Prod.exists, Prod.mk.injEq]
  constructor
  · rintro ((⟨_, _, ⟨rfl, rfl⟩, h, ho⟩ | ⟨_, _, ⟨ha, rfl, rfl⟩, hb, h, hs⟩) |
      ⟨_, _, ⟨ha, rfl, rfl⟩, hb, h, hp⟩)
    · exact ⟨h.symm, .inl ho.symm⟩
    · exact ⟨h.symm, .inr ⟨ha, hb, .inl hs.symm⟩⟩
    · exact ⟨h.symm, .inr ⟨ha, hb, .inr hp.symm⟩⟩
  · rintro ⟨h, ho | ⟨ha, hb, hs | hp⟩⟩
    · exact .inl (.inl ⟨_, _, ⟨rfl, rfl⟩, h.symm, ho.symm⟩)
    · exact .inl (.inr ⟨_, _, ⟨ha, rfl, rfl⟩, hb, h.symm, hs.symm⟩)
    · exact .inr ⟨_, _, ⟨ha, rfl, rfl⟩, hb, h.symm, hp.symm⟩

theorem subjectClash_comm (a b : PrivacySubject) : subjectClash a b = subjectClash b a := by
  unfold subjectClash
  rw [sameKey_comm _ a b, sameKey_comm _ a b]

theorem bindingClash_comm (a b : GamePersonaSubjectBinding) : bindingClash a b = bindingClash b a := by
  unfold bindingClash
  rw [sameKey_comm _ a b, sameKey_comm _ a b]

end Fmarch.Projections
