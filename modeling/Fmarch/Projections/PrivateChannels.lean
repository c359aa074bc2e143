import Fmarch.Projections.Tables

/-!
# Private channel membership (`private_channel_projection`)

Four events of a game say who is in its private channels, and the projection keeps a row for each member.
A row is written when its member is named and deleted when the member or the channel is revoked. A
declaration only writes: the members that it does not name keep their rows (`sits_declared`).
-/

namespace Fmarch.Projections

/-! ## Events -/

/-- A member named by `PrivateChannelDeclared`. -/
structure DeclaredMember where
  slotId : SlotId
  roleKey : String
  deriving DecidableEq

/-- What is read of `PrivateChannelDeclared`. -/
structure PrivateChannelDeclared where
  channelId : ChannelId
  kind : String
  members : List DeclaredMember
  revealsAlignment : String
  source : String
  deriving DecidableEq

/-- What is read of `PrivateChannelMemberGranted`. -/
structure PrivateChannelMemberGranted where
  channelId : ChannelId
  kind : String
  slotId : SlotId
  roleKey : String
  revealsAlignment : String
  source : String
  deriving DecidableEq

/-- The events of private channels. -/
inductive ChannelEvent where
  | declared (payload : PrivateChannelDeclared)
  | memberGranted (payload : PrivateChannelMemberGranted)
  | memberRevoked (channel : ChannelId) (slot : SlotId)
  | revoked (channel : ChannelId)
  deriving DecidableEq

/-! ## The projection -/

/-- The key `(game_id, channel_id, slot_id)` is the row's. -/
def PrivateChannelMember.isAt (row : PrivateChannelMember) (game : GameId) (channel : ChannelId)
    (slot : SlotId) : Bool :=
  row.gameId = game ∧ row.channelId = channel ∧ row.slotId = slot

/-- `insert_member`: on a conflict everything but the key is overwritten. -/
def insertMember (db : Tables) (member : PrivateChannelMember) : Tables :=
  let taken := fun row : PrivateChannelMember =>
    row.isAt member.gameId member.channelId member.slotId
  { db with
    privateChannelMember :=
      if db.privateChannelMember.any taken then
        db.privateChannelMember.map fun row => if taken row then member else row
      else db.privateChannelMember ++ [member] }

def deleteMember (db : Tables) (game : GameId) (channel : ChannelId) (slot : SlotId) : Tables :=
  { db with
    privateChannelMember := db.privateChannelMember.filter fun row => ¬ row.isAt game channel slot }

def deleteChannel (db : Tables) (game : GameId) (channel : ChannelId) : Tables :=
  { db with
    privateChannelMember := db.privateChannelMember.filter fun row =>
      ¬ (row.gameId = game ∧ row.channelId = channel) }

/-- The row of a declared member. -/
def PrivateChannelDeclared.row (payload : PrivateChannelDeclared) (game : GameId)
    (member : DeclaredMember) : PrivateChannelMember where
  gameId := game
  channelId := payload.channelId
  kind := payload.kind
  slotId := member.slotId
  roleKey := member.roleKey
  revealsAlignment := payload.revealsAlignment
  source := payload.source

/-- The row of a granted member. -/
def PrivateChannelMemberGranted.row (payload : PrivateChannelMemberGranted) (game : GameId) :
    PrivateChannelMember where
  gameId := game
  channelId := payload.channelId
  kind := payload.kind
  slotId := payload.slotId
  roleKey := payload.roleKey
  revealsAlignment := payload.revealsAlignment
  source := payload.source

/-- `ensure_slot` and `insert_member`. -/
def seatMember (db : Tables) (member : PrivateChannelMember) : Tables :=
  insertMember (ensureSlot db member.gameId member.slotId) member

/-- `project_stored_event`; a declaration without members is an error. -/
def projectChannelEvent (db : Tables) (game : GameId) : ChannelEvent → Option Tables
  | .declared payload =>
    if payload.members.isEmpty then none
    else some (payload.members.foldl (fun db member => seatMember db (payload.row game member)) db)
  | .memberGranted payload => some (seatMember db (payload.row game))
  | .memberRevoked channel slot => some (deleteMember db game channel slot)
  | .revoked channel => some (deleteChannel db game channel)

/-! ## Who is in a channel -/

/-- The slot has a row in the channel. -/
def Sits (db : Tables) (game : GameId) (channel : ChannelId) (slot : SlotId) : Prop :=
  ∃ row ∈ db.privateChannelMember, row.isAt game channel slot = true

section Members

variable {db : Tables} {game : GameId} {channel : ChannelId} {slot : SlotId}

theorem isAt_iff {row : PrivateChannelMember} : row.isAt game channel slot = true ↔
      row.gameId = game ∧ row.channelId = channel ∧ row.slotId = slot := by
  unfold PrivateChannelMember.isAt
  exact decide_eq_true_iff

theorem sits_seatMember {member : PrivateChannelMember} : Sits (seatMember db member) game channel slot ↔
      Sits db game channel slot ∨ member.isAt game channel slot = true := by
  have hrows : (ensureSlot db member.gameId member.slotId).privateChannelMember =
      db.privateChannelMember := by
    rw [ensureSlot_eq]
  unfold Sits seatMember insertMember
  dsimp only
  rw [hrows]
  split
  case isTrue hany =>
    constructor
    · rintro ⟨row, hrow, hat⟩
      obtain ⟨old, hold, rfl⟩ := List.mem_map.1 hrow
      split at hat
      case isTrue => exact .inr hat
      case isFalse => exact .inl ⟨old, hold, hat⟩
    · rintro (⟨old, hold, hat⟩ | hat)
      · refine ⟨_, List.mem_map.2 ⟨old, hold, rfl⟩, ?_⟩
        split
        case isTrue htaken =>
          obtain ⟨hgame, hchannel, hslot⟩ := isAt_iff.1 htaken
          rw [isAt_iff, ← hgame, ← hchannel, ← hslot]
          exact isAt_iff.1 hat
        case isFalse => exact hat
      · obtain ⟨old, hold, htaken⟩ := List.any_eq_true.1 hany
        refine ⟨_, List.mem_map.2 ⟨old, hold, rfl⟩, ?_⟩
        rw [if_pos htaken]
        exact hat
  case isFalse =>
    constructor
    · rintro ⟨row, hrow, hat⟩
      rcases List.mem_append.1 hrow with hold | hnew
      · exact .inl ⟨row, hold, hat⟩
      · obtain rfl := List.mem_singleton.1 hnew
        exact .inr hat
    · rintro (⟨row, hrow, hat⟩ | hat)
      · exact ⟨row, List.mem_append_left _ hrow, hat⟩
      · exact ⟨member, List.mem_append_right _ (List.mem_singleton_self _), hat⟩

theorem sits_seatEach {payload : PrivateChannelDeclared} {members : List DeclaredMember} :
    Sits (members.foldl (fun db member => seatMember db (payload.row game member)) db) game channel slot ↔
      Sits db game channel slot ∨
        (channel = payload.channelId ∧ ∃ member ∈ members, member.slotId = slot) := by
  induction members generalizing db with
  | nil => simp
  | cons member members ih =>
    rw [List.foldl_cons, ih, sits_seatMember, isAt_iff]
    show (_ ∨ (game = game ∧ payload.channelId = channel ∧ member.slotId = slot)) ∨ _ ↔ _
    constructor
    · rintro ((h | ⟨-, rfl, rfl⟩) | ⟨rfl, other, hother, rfl⟩)
      · exact .inl h
      · exact .inr ⟨rfl, member, List.mem_cons_self, rfl⟩
      · exact .inr ⟨rfl, other, List.mem_cons_of_mem _ hother, rfl⟩
    · rintro (h | ⟨rfl, other, hother, rfl⟩)
      · exact .inl (.inl h)
      · rcases List.mem_cons.1 hother with rfl | hrest
        · exact .inl (.inr ⟨rfl, rfl, rfl⟩)
        · exact .inr ⟨rfl, other, hrest, rfl⟩

variable {db' : Tables}

/-- A declaration adds its members and keeps the others. -/
theorem sits_declared {payload : PrivateChannelDeclared}
    (h : projectChannelEvent db game (.declared payload) = some db') :
    Sits db' game channel slot ↔ Sits db game channel slot ∨
      (channel = payload.channelId ∧ ∃ member ∈ payload.members, member.slotId = slot) := by
  unfold projectChannelEvent at h
  dsimp only at h
  split at h
  case isTrue => cases h
  case isFalse =>
    obtain rfl := Option.some.inj h
    exact sits_seatEach

theorem sits_granted {payload : PrivateChannelMemberGranted}
    (h : projectChannelEvent db game (.memberGranted payload) = some db') :
    Sits db' game channel slot ↔ Sits db game channel slot ∨
      (channel = payload.channelId ∧ slot = payload.slotId) := by
  obtain rfl := Option.some.inj h
  rw [sits_seatMember, isAt_iff]
  exact or_congr_right ⟨fun ⟨_, hchannel, hslot⟩ => ⟨hchannel.symm, hslot.symm⟩,
    fun ⟨hchannel, hslot⟩ => ⟨rfl, hchannel.symm, hslot.symm⟩⟩

theorem sits_memberRevoked {revoked : ChannelId} {out : SlotId}
    (h : projectChannelEvent db game (.memberRevoked revoked out) = some db') :
    Sits db' game channel slot ↔ Sits db game channel slot ∧ ¬ (channel = revoked ∧ slot = out) := by
  obtain rfl := Option.some.inj h
  constructor
  · rintro ⟨row, hrow, hat⟩
    obtain ⟨hmem, hkept⟩ := List.mem_filter.1 hrow
    refine ⟨⟨row, hmem, hat⟩, fun hout => of_decide_eq_true hkept ?_⟩
    rw [hout.1, hout.2] at hat
    exact hat
  · rintro ⟨⟨row, hrow, hat⟩, hkept⟩
    refine ⟨row, List.mem_filter.2 ⟨hrow, decide_eq_true fun hout => hkept ?_⟩, hat⟩
    obtain ⟨-, hchannel, hslot⟩ := isAt_iff.1 hat
    obtain ⟨-, hchannel', hslot'⟩ := isAt_iff.1 hout
    exact ⟨hchannel.symm.trans hchannel', hslot.symm.trans hslot'⟩

theorem sits_revoked {revoked : ChannelId} (h : projectChannelEvent db game (.revoked revoked) = some db') :
    Sits db' game channel slot ↔ Sits db game channel slot ∧ channel ≠ revoked := by
  obtain rfl := Option.some.inj h
  constructor
  · rintro ⟨row, hrow, hat⟩
    obtain ⟨hmem, hkept⟩ := List.mem_filter.1 hrow
    obtain ⟨hgame, hchannel, -⟩ := isAt_iff.1 hat
    exact ⟨⟨row, hmem, hat⟩, fun hout => of_decide_eq_true hkept ⟨hgame, hchannel.trans hout⟩⟩
  · rintro ⟨⟨row, hrow, hat⟩, hkept⟩
    refine ⟨row, List.mem_filter.2 ⟨hrow, decide_eq_true fun hout => hkept ?_⟩, hat⟩
    exact (isAt_iff.1 hat).2.1.symm.trans hout.2

end Members

end Fmarch.Projections
