import Fmarch.Projections.Tables
import Mathlib.Data.Finset.Union

/-!
# What a principal may do in a game (`caps`)

Commands and pages resolve a principal's capabilities with joins. Live delivery resolves them with one
query a relation, each on the ids the one before found, because it locks the rows it reads and a
`DISTINCT` join cannot be locked. Both put what they find into a set, so the orders of their rows are
left out.

`Holds` says what a principal holds, for any state of the tables: nothing is assumed about keys, so it
covers principals with several subjects and slots with several open epochs.

**`delivery_matches_resolve`**: both resolutions hold exactly that, so they are the same set and grant
the same requests.
-/

namespace Fmarch.Caps

open Projections Relational

/-! ## Capabilities -/

inductive Capability where
  | globalAdmin
  | globalMod
  | hostOf (game : GameId)
  | cohostOf (game : GameId)
  | slotOccupant (slot : SlotId)
  | channelMember (channel : ChannelId)
  | deadViewer (game : GameId)
  | spectatorOf (game : GameId)
  deriving DecidableEq

@[ext] structure CapabilitySet where
  held : Finset Capability := ∅
  deriving DecidableEq

namespace CapabilitySet

def insert (set : CapabilitySet) (cap : Capability) : CapabilitySet where
  held := Insert.insert cap set.held

/-- `for cap in caps { set.insert(cap) }`. -/
def insertEach (set : CapabilitySet) (caps : Finset Capability) : CapabilitySet where
  held := set.held ∪ caps

/-- `if condition { set.insert(cap) }`. -/
def insertIf (set : CapabilitySet) (condition : Bool) (cap : Capability) : CapabilitySet :=
  if condition then set.insert cap else set

def hasGlobal (set : CapabilitySet) : Bool :=
  decide (.globalAdmin ∈ set.held) || decide (.globalMod ∈ set.held)

def grants (set : CapabilitySet) (required : Capability) : Bool :=
  if required ∈ set.held then true
  else
    match required with
    | .cohostOf game => decide (.hostOf game ∈ set.held) || set.hasGlobal
    | .hostOf _ | .deadViewer _ | .spectatorOf _ | .slotOccupant _ | .channelMember _ =>
      set.hasGlobal
    | .globalAdmin | .globalMod => false

@[simp] theorem mem_insertEach {set : CapabilitySet} {caps : Finset Capability}
    {cap : Capability} : cap ∈ (set.insertEach caps).held ↔ cap ∈ set.held ∨ cap ∈ caps :=
  Finset.mem_union

@[simp] theorem mem_insertIf {set : CapabilitySet} {condition : Bool} {new cap : Capability} :
    cap ∈ (set.insertIf condition new).held ↔ cap ∈ set.held ∨ (condition = true ∧ cap = new) := by
  unfold insertIf
  split
  case isTrue h => simp [insert, h, or_comm]
  case isFalse h => simp [h]

end CapabilitySet

/-! ## The two resolutions -/

/-- The capability of a `game_authority` role. -/
def roleCapability (game : GameId) (role : String) : Option Capability :=
  if role = "host" then some (.hostOf game)
  else if role = "cohost" then some (.cohostOf game)
  else none

/-- `SELECT role FROM game_authority WHERE game_id = $1 AND principal_id = $2`. -/
def authorityRoles (db : Tables) (principal : PrincipalId) (game : GameId) : List String :=
  (db.gameAuthority.filter fun row => row.gameId = game ∧ row.principalId = principal).map (·.role)

def resolveWith (db : Tables) (principal : PrincipalId) (game : GameId) : CapabilitySet :=
  let authority := authorityRoles db principal game
  let spectator := db.spectatorMembership.any fun row =>
    row.gameId = game ∧ row.principalId = principal
  let occupiedSlots := (((ownedEpochs db).filter (ownOpen principal game)).map (·.1.1.slotId)).toFinset
  let deadOccupant := (join (ownedEpochs db) db.slotState fun row s =>
    s.gameId = row.1.1.gameId ∧ s.slotId = row.1.1.slotId).any fun row =>
      ownOpen principal game row.1 && !row.2.alive
  -- The member row comes first, so an epoch is of its game.
  let channels := (((join db.privateChannelMember (ownedEpochs db) fun m row =>
    row.1.1.gameId = m.gameId ∧ row.1.1.slotId = m.slotId ∧ row.1.1.endedSeq = none).filter fun row =>
      row.1.gameId = game ∧ row.2.2.principalId = some principal).map (·.1.channelId)).toFinset
  ({} : CapabilitySet)
    |>.insertEach (authority.filterMap (roleCapability game)).toFinset
    |>.insertIf spectator (.spectatorOf game)
    |>.insertEach (occupiedSlots.image .slotOccupant)
    |>.insertIf deadOccupant (.deadViewer game)
    |>.insertEach (channels.image .channelMember)

/-- `resolve_live_delivery_in_tx`, less the locks. -/
def resolveLiveDelivery (db : Tables) (principal : PrincipalId) (game : GameId) : CapabilitySet :=
  let authority := authorityRoles db principal game
  let spectator := ((db.spectatorMembership.filter fun row =>
    row.gameId = game ∧ row.principalId = principal).map (·.principalId)).head?
  let subjectIds := (db.privacySubject.filter fun row =>
    row.principalId = some principal).map (·.subjectId)
  let personaIds := (db.gamePersonaSubjectBinding.filter fun row =>
    row.gameId = game ∧ row.subjectId ∈ subjectIds ∧ row.lifecycle = "active").map (·.personaId)
  let occupancy := (db.slotOccupancyEpoch.filter fun row =>
    row.gameId = game ∧ row.personaId ∈ personaIds ∧ row.endedSeq = none).map fun row =>
      (row.occupancyId, row.slotId)
  let occupiedSlots := (occupancy.map (·.2)).toFinset
  let slotStates := (db.slotState.filter fun row =>
    row.gameId = game ∧ row.slotId ∈ occupiedSlots).map fun row => (row.slotId, row.alive)
  let channels := (db.privateChannelMember.filter fun row =>
    row.gameId = game ∧ row.slotId ∈ occupiedSlots).map fun row => (row.channelId, row.slotId)
  ({} : CapabilitySet)
    |>.insertEach (authority.filterMap (roleCapability game)).toFinset
    |>.insertIf spectator.isSome (.spectatorOf game)
    |>.insertEach (occupiedSlots.image .slotOccupant)
    |>.insertIf (slotStates.any fun row => !row.2) (.deadViewer game)
    |>.insertEach (channels.map (.channelMember ·.1)).toFinset

/-! ## What a principal holds -/

/-- What a principal holds in a game. -/
inductive Holds (db : Tables) (principal : PrincipalId) (game : GameId) : Capability → Prop where
  | host (h : ⟨game, principal, "host"⟩ ∈ db.gameAuthority) : Holds db principal game (.hostOf game)
  | cohost (h : ⟨game, principal, "cohost"⟩ ∈ db.gameAuthority) :
      Holds db principal game (.cohostOf game)
  | spectator (h : ⟨game, principal⟩ ∈ db.spectatorMembership) :
      Holds db principal game (.spectatorOf game)
  | occupant {slot : SlotId} (h : Occupies db game principal slot) :
      Holds db principal game (.slotOccupant slot)
  | dead {slot : SlotState} (hslot : slot ∈ db.slotState) (hgame : slot.gameId = game)
      (h : Occupies db game principal slot.slotId) (hdead : slot.alive = false) :
      Holds db principal game (.deadViewer game)
  | member {row : PrivateChannelMember} (hrow : row ∈ db.privateChannelMember)
      (hgame : row.gameId = game) (h : Occupies db game principal row.slotId) :
      Holds db principal game (.channelMember row.channelId)

section Resolution

variable {db : Tables} {principal : PrincipalId} {game : GameId} {cap : Capability}

theorem mem_authority : cap ∈ ((authorityRoles db principal game).filterMap (roleCapability game)).toFinset ↔
      (cap = .hostOf game ∧ ⟨game, principal, "host"⟩ ∈ db.gameAuthority) ∨
        (cap = .cohostOf game ∧ ⟨game, principal, "cohost"⟩ ∈ db.gameAuthority) := by
  have hroles : ∀ role, role ∈ authorityRoles db principal game ↔
      ⟨game, principal, role⟩ ∈ db.gameAuthority := by
    intro role
    unfold authorityRoles
    constructor
    · intro h
      obtain ⟨⟨rowGame, rowPrincipal, rowRole⟩, hrow, rfl⟩ := List.mem_map.1 h
      obtain ⟨hmem, hkey⟩ := List.mem_filter.1 hrow
      obtain ⟨rfl, rfl⟩ := of_decide_eq_true hkey
      exact hmem
    · intro h
      exact List.mem_map.2 ⟨_, List.mem_filter.2 ⟨h, decide_eq_true ⟨rfl, rfl⟩⟩, rfl⟩
  rw [List.mem_toFinset, List.mem_filterMap]
  constructor
  · rintro ⟨role, hrole, hcap⟩
    unfold roleCapability at hcap
    split at hcap
    case isTrue h =>
      subst h
      exact .inl ⟨(Option.some.inj hcap).symm, (hroles _).1 hrole⟩
    case isFalse =>
      split at hcap
      case isTrue h =>
        subst h
        exact .inr ⟨(Option.some.inj hcap).symm, (hroles _).1 hrole⟩
      case isFalse => cases hcap
  · rintro (⟨rfl, h⟩ | ⟨rfl, h⟩)
    · exact ⟨"host", (hroles _).2 h, rfl⟩
    · exact ⟨"cohost", (hroles _).2 h, rfl⟩

/-- A set put together from these five answers is what the principal holds. -/
theorem holds_iff {authority slots channels : Finset Capability} {spectator dead : Bool}
    (hauthority : ∀ cap, cap ∈ authority ↔
      (cap = .hostOf game ∧ ⟨game, principal, "host"⟩ ∈ db.gameAuthority) ∨
        (cap = .cohostOf game ∧ ⟨game, principal, "cohost"⟩ ∈ db.gameAuthority))
    (hspectator : spectator = true ↔ ⟨game, principal⟩ ∈ db.spectatorMembership)
    (hslots : ∀ cap, cap ∈ slots ↔ ∃ slot, Occupies db game principal slot ∧ cap = .slotOccupant slot)
    (hdead : dead = true ↔ ∃ slot ∈ db.slotState, slot.gameId = game ∧
      Occupies db game principal slot.slotId ∧ slot.alive = false)
    (hchannels : ∀ cap, cap ∈ channels ↔ ∃ row ∈ db.privateChannelMember, row.gameId = game ∧
      Occupies db game principal row.slotId ∧ cap = .channelMember row.channelId) :
    cap ∈ (((((({} : CapabilitySet).insertEach authority).insertIf spectator
      (.spectatorOf game)).insertEach slots).insertIf dead (.deadViewer game)).insertEach
        channels).held ↔ Holds db principal game cap := by
  simp only [CapabilitySet.mem_insertEach, CapabilitySet.mem_insertIf]
  rw [hauthority, hspectator, hslots, hdead, hchannels]
  constructor
  · rintro (((((hempty | hrole) | ⟨hmember, rfl⟩) | ⟨slot, hslot, rfl⟩) |
      ⟨⟨slot, hslot, hgame, hoccupies, hstate⟩, rfl⟩) | ⟨row, hrow, hgame, hoccupies, rfl⟩)
    · exact absurd hempty (Finset.notMem_empty _)
    · rcases hrole with ⟨rfl, h⟩ | ⟨rfl, h⟩
      · exact .host h
      · exact .cohost h
    · exact .spectator hmember
    · exact .occupant hslot
    · exact .dead hslot hgame hoccupies hstate
    · exact .member hrow hgame hoccupies
  · intro h
    cases h with
    | host h => exact .inl (.inl (.inl (.inl (.inr (.inl ⟨rfl, h⟩)))))
    | cohost h => exact .inl (.inl (.inl (.inl (.inr (.inr ⟨rfl, h⟩)))))
    | spectator h => exact .inl (.inl (.inl (.inr ⟨h, rfl⟩)))
    | occupant h => exact .inl (.inl (.inr ⟨_, h, rfl⟩))
    | dead hslot hgame h hstate => exact .inl (.inr ⟨⟨_, hslot, hgame, h, hstate⟩, rfl⟩)
    | member hrow hgame h => exact .inr ⟨_, hrow, hgame, h, rfl⟩

/-! ## Both resolutions -/

theorem mem_image_toFinset {α : Type} [DecidableEq α] {list : List α} {f : α → Capability} :
    cap ∈ (list.toFinset.image f) ↔ ∃ x, x ∈ list ∧ cap = f x := by
  rw [Finset.mem_image]
  constructor
  · rintro ⟨x, hx, rfl⟩
    exact ⟨x, List.mem_toFinset.1 hx, rfl⟩
  · rintro ⟨x, hx, rfl⟩
    exact ⟨x, List.mem_toFinset.2 hx, rfl⟩

theorem mem_resolveWith : cap ∈ (resolveWith db principal game).held ↔ Holds db principal game cap := by
  refine holds_iff (fun _ => mem_authority) ?_ ?_ ?_ ?_
  · rw [List.any_eq_true]
    constructor
    · rintro ⟨⟨rowGame, rowPrincipal⟩, hrow, hkey⟩
      obtain ⟨rfl, rfl⟩ := of_decide_eq_true hkey
      exact hrow
    · exact fun h => ⟨_, h, decide_eq_true ⟨rfl, rfl⟩⟩
  · intro cap
    rw [mem_image_toFinset]
    constructor
    · rintro ⟨slot, hslot, rfl⟩
      obtain ⟨row, hrow, rfl⟩ := List.mem_map.1 hslot
      obtain ⟨howned, hown⟩ := List.mem_filter.1 hrow
      exact ⟨_, occupies_iff.2 ⟨row, howned, hown, rfl⟩, rfl⟩
    · rintro ⟨slot, hslot, rfl⟩
      obtain ⟨row, howned, hown, rfl⟩ := occupies_iff.1 hslot
      exact ⟨_, List.mem_map.2 ⟨row, List.mem_filter.2 ⟨howned, hown⟩, rfl⟩, rfl⟩
  · rw [List.any_eq_true]
    constructor
    · rintro ⟨⟨row, slot⟩, hjoin, hdead⟩
      obtain ⟨howned, hslot, hon⟩ := mem_join.1 hjoin
      obtain ⟨hgame, hid⟩ := of_decide_eq_true hon
      obtain ⟨hown, halive⟩ := (Bool.and_eq_true _ _).mp hdead
      exact ⟨slot, hslot, hgame.trans (ownOpen_iff.1 hown).1.1,
        occupies_iff.2 ⟨row, howned, hown, hid.symm⟩, by simpa using halive⟩
    · rintro ⟨slot, hslot, hgame, hoccupies, hdead⟩
      obtain ⟨row, howned, hown, hid⟩ := occupies_iff.1 hoccupies
      have hon : slot.gameId = row.1.1.gameId ∧ slot.slotId = row.1.1.slotId :=
        ⟨hgame.trans (ownOpen_iff.1 hown).1.1.symm, hid.symm⟩
      refine ⟨(row, slot), mem_join.2 ⟨howned, hslot, decide_eq_true hon⟩, ?_⟩
      rw [hown, hdead]
      rfl
  · intro cap
    rw [mem_image_toFinset]
    constructor
    · rintro ⟨channel, hchannel, rfl⟩
      obtain ⟨⟨member, row⟩, hrow, rfl⟩ := List.mem_map.1 hchannel
      obtain ⟨hjoin, hkept⟩ := List.mem_filter.1 hrow
      obtain ⟨hmember, howned, hon⟩ := mem_join.1 hjoin
      obtain ⟨hgame, hid, hended⟩ := of_decide_eq_true hon
      obtain ⟨hof, hprincipal⟩ := of_decide_eq_true hkept
      have hown : ownOpen principal game row = true :=
        ownOpen_iff.2 ⟨⟨hgame.trans hof, hended⟩, hprincipal⟩
      exact ⟨member, hmember, hof, occupies_iff.2 ⟨row, howned, hown, hid⟩, rfl⟩
    · rintro ⟨member, hmember, hgame, hoccupies, rfl⟩
      obtain ⟨row, howned, hown, hid⟩ := occupies_iff.1 hoccupies
      obtain ⟨⟨hof, hended⟩, hprincipal⟩ := ownOpen_iff.1 hown
      have hon : row.1.1.gameId = member.gameId ∧ row.1.1.slotId = member.slotId ∧
          row.1.1.endedSeq = none := ⟨hof.trans hgame.symm, hid, hended⟩
      refine ⟨_, List.mem_map.2 ⟨(member, row), List.mem_filter.2 ⟨?_, ?_⟩, rfl⟩, rfl⟩
      · exact mem_join.2 ⟨hmember, howned, decide_eq_true hon⟩
      · exact decide_eq_true ⟨hgame, hprincipal⟩

/-- The personas that live delivery collects are the principal's. -/
theorem mem_personaIds {persona : GamePersonaId} : persona ∈ (db.gamePersonaSubjectBinding.filter fun row =>
      row.gameId = game ∧ row.subjectId ∈ (db.privacySubject.filter fun row =>
        row.principalId = some principal).map (·.subjectId) ∧
          row.lifecycle = "active").map (·.personaId) ↔ Plays db game principal persona := by
  rw [List.mem_map]
  constructor
  · rintro ⟨binding, hbinding, rfl⟩
    obtain ⟨hmem, hkey⟩ := List.mem_filter.1 hbinding
    obtain ⟨hgame, hsubject, hactive⟩ := of_decide_eq_true hkey
    obtain ⟨subject, hsubject, hid⟩ := List.mem_map.1 hsubject
    obtain ⟨hrow, hprincipal⟩ := List.mem_filter.1 hsubject
    exact ⟨binding, hmem, subject, hrow, hgame, rfl, hactive, hid, of_decide_eq_true hprincipal⟩
  · rintro ⟨binding, hbinding, subject, hsubject, hgame, rfl, hactive, hid, hprincipal⟩
    have hsubjectIds : binding.subjectId ∈ (db.privacySubject.filter fun row =>
        row.principalId = some principal).map (·.subjectId) :=
      List.mem_map.2 ⟨subject, List.mem_filter.2 ⟨hsubject, decide_eq_true hprincipal⟩, hid⟩
    exact ⟨binding, List.mem_filter.2 ⟨hbinding, decide_eq_true ⟨hgame, hsubjectIds, hactive⟩⟩, rfl⟩

/-- The slots that live delivery collects are the principal's. -/
theorem mem_occupiedSlots {personaIds : List GamePersonaId}
    (hpersonas : ∀ persona, persona ∈ personaIds ↔ Plays db game principal persona)
    {slot : SlotId} :
    slot ∈ ((db.slotOccupancyEpoch.filter fun row =>
      row.gameId = game ∧ row.personaId ∈ personaIds ∧ row.endedSeq = none).map fun row =>
        (row.occupancyId, row.slotId)).map (·.2) ↔ Occupies db game principal slot := by
  rw [List.map_map, List.mem_map]
  constructor
  · rintro ⟨epoch, hepoch, rfl⟩
    obtain ⟨hmem, hkey⟩ := List.mem_filter.1 hepoch
    obtain ⟨hgame, hpersona, hended⟩ := of_decide_eq_true hkey
    exact ⟨epoch, hmem, ⟨hgame, hended⟩, rfl, (hpersonas _).1 hpersona⟩
  · rintro ⟨epoch, hepoch, ⟨hgame, hended⟩, rfl, hplays⟩
    exact ⟨epoch, List.mem_filter.2 ⟨hepoch, decide_eq_true ⟨hgame, (hpersonas _).2 hplays, hended⟩⟩, rfl⟩

theorem mem_resolveLiveDelivery :
    cap ∈ (resolveLiveDelivery db principal game).held ↔ Holds db principal game cap := by
  have hslots : ∀ slot, _ ↔ Occupies db game principal slot := fun _ =>
    mem_occupiedSlots fun _ => mem_personaIds
  refine holds_iff (fun _ => mem_authority) ?_ ?_ ?_ ?_
  · rw [Option.isSome_iff_exists]
    constructor
    · rintro ⟨found, hfound⟩
      obtain ⟨⟨rowGame, rowPrincipal⟩, hrow, -⟩ := List.mem_map.1 (List.mem_of_head? hfound)
      obtain ⟨hmem, hkey⟩ := List.mem_filter.1 hrow
      obtain ⟨rfl, rfl⟩ := of_decide_eq_true hkey
      exact hmem
    · intro h
      rw [← Option.isSome_iff_exists, List.isSome_head?]
      exact List.ne_nil_of_mem (List.mem_map.2 ⟨_, List.mem_filter.2 ⟨h, decide_eq_true ⟨rfl, rfl⟩⟩, rfl⟩)
  · intro cap
    rw [mem_image_toFinset]
    exact exists_congr fun slot => and_congr_left fun _ => hslots slot
  · rw [List.any_eq_true]
    constructor
    · rintro ⟨_, hrow, hdead⟩
      obtain ⟨slot, hslot, rfl⟩ := List.mem_map.1 hrow
      obtain ⟨hmem, hkey⟩ := List.mem_filter.1 hslot
      obtain ⟨hgame, hoccupied⟩ := of_decide_eq_true hkey
      exact ⟨slot, hmem, hgame, (hslots _).1 (List.mem_toFinset.1 hoccupied), by simpa using hdead⟩
    · rintro ⟨slot, hmem, hgame, hoccupies, hdead⟩
      refine ⟨_, List.mem_map.2 ⟨slot, List.mem_filter.2 ⟨hmem, decide_eq_true
        ⟨hgame, List.mem_toFinset.2 ((hslots _).2 hoccupies)⟩⟩, rfl⟩, ?_⟩
      rw [hdead]
      rfl
  · intro cap
    rw [List.mem_toFinset, List.map_map, List.mem_map]
    constructor
    · rintro ⟨row, hrow, rfl⟩
      obtain ⟨hmem, hkey⟩ := List.mem_filter.1 hrow
      obtain ⟨hgame, hoccupied⟩ := of_decide_eq_true hkey
      exact ⟨row, hmem, hgame, (hslots _).1 (List.mem_toFinset.1 hoccupied), rfl⟩
    · rintro ⟨row, hmem, hgame, hoccupies, rfl⟩
      exact ⟨row, List.mem_filter.2 ⟨hmem, decide_eq_true
        ⟨hgame, List.mem_toFinset.2 ((hslots _).2 hoccupies)⟩⟩, rfl⟩

end Resolution

/-- Live delivery resolves the set that commands and pages resolve, whatever the tables hold, and so
grants the same requests. -/
theorem delivery_matches_resolve (db : Tables) (principal : PrincipalId) (game : GameId) :
    resolveLiveDelivery db principal game = resolveWith db principal game ∧
      ∀ required, (resolveLiveDelivery db principal game).grants required =
        (resolveWith db principal game).grants required := by
  have hset : resolveLiveDelivery db principal game = resolveWith db principal game := by
    refine CapabilitySet.ext (Finset.ext fun cap => ?_)
    rw [mem_resolveLiveDelivery, mem_resolveWith]
  exact ⟨hset, fun required => by rw [hset]⟩

/-- A player replaced at a dead slot: the outgoing persona's epoch has ended, so only the incoming
principal sees the slot's channel and the dead. -/
example :
    let epoch (occupancy persona : BitVec 128) (ended : Option Int) : SlotOccupancyEpoch :=
      { gameId := 1, occupancyId := occupancy, slotId := "a", personaId := persona, beganSeq := 1,
        endedSeq := ended }
    let db : Tables :=
      { privacySubject := [⟨21, some 11, "active"⟩, ⟨22, some 12, "active"⟩]
        gamePersonaSubjectBinding := [⟨1, 31, 21, "active"⟩, ⟨1, 32, 22, "active"⟩]
        slotOccupancyEpoch := [epoch 41 31 (some 7), epoch 42 32 none]
        slotState := [⟨1, "a", false⟩]
        privateChannelMember := [⟨1, "private:masons", "mason", "a", "mason", "Town", "pack"⟩] }
    resolveLiveDelivery db 11 1 = {} ∧ (resolveLiveDelivery db 12 1).held =
        {.slotOccupant "a", .deadViewer 1, .channelMember "private:masons"} := by
  decide

end Fmarch.Caps
