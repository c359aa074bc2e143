import Fmarch.Domain.State
import Fmarch.Lib.Steps
import Fmarch.Projections.PrivateChannels

/-!
# Private channels (`start_game`, `current_snapshot`)

Starting a game declares its private channels from the roles assigned so far: one for the role of each
seated slot, and those of the pack's groups. Later assignments declare role channels, day events grant
and revoke, and a resolution revokes the day chats that lost their source. The engine's state and the
read projection both fold these events. They differ at a declaration: the state replaces the channel's
members, and the projection adds them to those it has.

Starting again declares the groups again. **`channels_agree`**: while every declaration `Keeps` the
members of its channel, a slot reads exactly the channels the game state has it in; and the first
declaration that drops one makes the two differ. **`restarted_differs`**: a mason who became a villager
before the second start keeps reading the masons' channel.

Who may issue a command, and what else it appends, is left out.
-/

namespace Fmarch.Commands.Channels

open Projections

/-! ## The pack -/

inductive PrivateChannelKind where
  | mason
  | neighbor
  | factionDayChat
  deriving DecidableEq

/-- The serialized kind. -/
def PrivateChannelKind.text : PrivateChannelKind → String
  | mason => "Mason"
  | neighbor => "Neighbor"
  | factionDayChat => "FactionDayChat"

structure PrivateChannelGroup where
  id : String
  kind : PrivateChannelKind
  roles : List String := []
  excludedRoles : List String := []
  memberAlignments : List String := []
  enabledByRoles : List String := []
  activeWhileSourceAlive : Bool := false
  revealsAlignment : String := "None"

/-- What is read of a pack: the alignments of its roles and `PrivateChannelPolicy`. -/
structure ChannelPack where
  alignment : String → Option String
  enabled : Bool
  groups : List PrivateChannelGroup

/-! ## The stream -/

/-- The events that these commands read or append. -/
inductive StreamEvent where
  | roleAssigned (slot : SlotId) (role : String)
  | slotOccupancyStarted (slot : SlotId)
  | gameStarted
  | channel (event : ChannelEvent)
  deriving DecidableEq

/-- `role_assignments_from_stream`; the map is listed in the order of its keys. -/
def roleAssignments (stream : List StreamEvent) : List (SlotId × String) :=
  let insert (roles : List (SlotId × String)) (slot : SlotId) (role : String) :=
    roles.filter (·.1 < slot) ++ [(slot, role)] ++ roles.filter (slot < ·.1)
  stream.foldl (fun roles event =>
    match event with
    | .roleAssigned slot role => insert roles slot role
    | _ => roles) []

/-- `occupied_slots_from_stream`. -/
def occupiedSlots (stream : List StreamEvent) : List SlotId :=
  stream.filterMap fun
    | .slotOccupancyStarted slot => some slot
    | _ => none

/-! ## Declarations and revocations -/

def rolePmDeclaration (slot : SlotId) (role : String) : ChannelEvent :=
  .declared
    { channelId := "private:role_pm:" ++ slot
      kind := "RolePm"
      members := [⟨slot, role⟩]
      revealsAlignment := "None"
      source := "engine.role_pm" }

def rolePmDeclarations (stream : List StreamEvent) : List ChannelEvent :=
  ((roleAssignments stream).filter fun row => row.1 ∈ occupiedSlots stream).map fun row =>
    rolePmDeclaration row.1 row.2

/-- The group takes a slot of this role. -/
def PrivateChannelGroup.admits (group : PrivateChannelGroup) (pack : ChannelPack) (role : String) : Bool :=
  match group.kind with
  | .mason | .neighbor => role ∈ group.roles
  | .factionDayChat =>
    role ∉ group.excludedRoles && (pack.alignment role).any (· ∈ group.memberAlignments)

/-- The channel of a group. -/
def PrivateChannelGroup.channelId (group : PrivateChannelGroup) : ChannelId := "private:" ++ group.id

/-- `pack_private_channel_declarations`, for one group. -/
def groupDeclaration (pack : ChannelPack) (assignments : List (SlotId × String))
    (group : PrivateChannelGroup) : Option ChannelEvent :=
  let sourceSlots := assignments.filter fun row => row.2 ∈ group.enabledByRoles
  let members := (assignments.filter fun row => group.admits pack row.2).map fun row =>
    { slotId := row.1, roleKey := row.2 : DeclaredMember }
  if group.kind = .factionDayChat ∧ sourceSlots.isEmpty then none
  else if members.length < 2 then none
  else some (.declared
    { channelId := group.channelId
      kind := group.kind.text
      members := members
      revealsAlignment := group.revealsAlignment
      source := "pack.private_channels." ++ group.id })

def packPrivateChannelDeclarations (pack : ChannelPack) (stream : List StreamEvent) : List ChannelEvent :=
  if pack.enabled then pack.groups.filterMap (groupDeclaration pack (roleAssignments stream))
  else []

def privateChannelRevocations (pack : ChannelPack) (channels : List Domain.PrivateChannelRecord)
    (slots : List Domain.SlotState) : List ChannelEvent :=
  if pack.enabled then
    (pack.groups.filter fun group =>
      group.kind = .factionDayChat ∧ group.activeWhileSourceAlive ∧
        channels.any (·.channelId = group.channelId) ∧
        ¬ slots.any fun slot => slot.isAlive && slot.roleKey ∈ group.enabledByRoles).map fun group =>
          .revoked group.channelId
  else []

/-! ## The engine's state -/

/-- `current_snapshot`, for `private_channels`. -/
def foldChannel (records : List Domain.PrivateChannelRecord) : ChannelEvent → List Domain.PrivateChannelRecord
  | .declared payload =>
    records.filter (·.channelId ≠ payload.channelId) ++ payload.members.map fun member =>
      { channelId := payload.channelId
        kind := payload.kind
        slotId := member.slotId
        roleKey := member.roleKey
        revealsAlignment := payload.revealsAlignment
        source := payload.source }
  | .memberGranted payload =>
    records.filter (fun record =>
      record.channelId ≠ payload.channelId ∨ record.slotId ≠ payload.slotId) ++
        [{ channelId := payload.channelId
           kind := payload.kind
           slotId := payload.slotId
           roleKey := payload.roleKey
           revealsAlignment := payload.revealsAlignment
           source := payload.source }]
  | .memberRevoked channel slot =>
    records.filter fun record => record.channelId ≠ channel ∨ record.slotId ≠ slot
  | .revoked channel => records.filter (·.channelId ≠ channel)

/-- The private channels of the game state after a stream. -/
def privateChannels (stream : List StreamEvent) : List Domain.PrivateChannelRecord :=
  stream.foldl (fun records event =>
    match event with
    | .channel event => foldChannel records event
    | _ => records) []

/-! ## Commands -/

/-- A game's stream and the tables that its events are projected into. -/
structure Game where
  stream : List StreamEvent := []
  db : Tables := {}

/-- An event is stored and projected. -/
def append (id : GameId) (game : Game) (event : StreamEvent) : Option Game :=
  match event with
  | .channel channelEvent =>
    (projectChannelEvent game.db id channelEvent).map fun db =>
      { stream := game.stream ++ [event], db }
  | .slotOccupancyStarted slot =>
    some { stream := game.stream ++ [event], db := ensureSlot game.db id slot }
  | .roleAssigned _ _ | .gameStarted => some { game with stream := game.stream ++ [event] }

def persist (id : GameId) (game : Game) (events : List StreamEvent) : Option Game :=
  events.foldlM (append id) game

/-- The commands that append such events. -/
inductive Command where
  | startGame
  | assignSlot (slot : SlotId)
  | processReplacement (slot : SlotId)
  | assignRole (slot : SlotId) (role : String) (occupied : Bool)
  /-- `resolve_phase`, with the slots of the state it leads to. -/
  | resolvePhase (slots : List Domain.SlotState)
  /-- A day event opens its channel to these slots, or takes one in. -/
  | dayEventGrants (channel : ChannelId) (source : String) (slots : List SlotId)
  | dayEventWithdraws (channel : ChannelId) (slot : SlotId)

/-- The events a command appends. -/
def Command.events (pack : ChannelPack) (stream : List StreamEvent) : Command → List StreamEvent
  | startGame =>
    .gameStarted :: (rolePmDeclarations stream ++ packPrivateChannelDeclarations pack stream).map
      .channel
  | assignSlot slot =>
    .slotOccupancyStarted slot ::
      if .gameStarted ∈ stream then
        (((roleAssignments stream).lookup slot).map fun role =>
          StreamEvent.channel (rolePmDeclaration slot role)).toList
      else []
  | processReplacement slot => [.slotOccupancyStarted slot]
  | assignRole slot role occupied =>
    .roleAssigned slot role ::
      if .gameStarted ∈ stream ∧ occupied then [.channel (rolePmDeclaration slot role)] else []
  | resolvePhase slots =>
    (privateChannelRevocations pack (privateChannels stream) slots).map .channel
  | dayEventGrants channel source slots =>
    slots.map fun slot => .channel (.memberGranted
      { channelId := channel
        kind := "DayEvent"
        slotId := slot
        roleKey := "event_participant"
        revealsAlignment := "None"
        source := source })
  | dayEventWithdraws channel slot => [.channel (.memberRevoked channel slot)]

/-- A command that commits. -/
def Step (pack : ChannelPack) (id : GameId) (game game' : Game) : Prop :=
  ∃ command : Command, persist id game (command.events pack game.stream) = some game'

/-! ## Agreement -/

/-- The game state has the slot in the channel. -/
def InState (stream : List StreamEvent) (channel : ChannelId) (slot : SlotId) : Prop :=
  ∃ record ∈ privateChannels stream, record.channelId = channel ∧ record.slotId = slot

/-- The projection and the game state have the same members in every channel. -/
def Agree (id : GameId) (game : Game) : Prop :=
  ∀ channel slot, Sits game.db id channel slot ↔ InState game.stream channel slot

/-- A declaration names every slot that has a row in its channel. -/
def Keeps (id : GameId) (game : Game) : StreamEvent → Prop
  | .channel (.declared payload) => ∀ slot, Sits game.db id payload.channelId slot →
      ∃ member ∈ payload.members, member.slotId = slot
  | _ => True

/-- Every declaration keeps its members, as the events are appended one after the other. -/
def KeepsEach (id : GameId) (game : Game) : List StreamEvent → Prop
  | [] => True
  | event :: events => Keeps id game event ∧
      ∀ game', append id game event = some game' → KeepsEach id game' events

/-- A command that commits, and whose declarations keep their members. -/
def KeepingStep (pack : ChannelPack) (id : GameId) (game game' : Game) : Prop :=
  ∃ command : Command, KeepsEach id game (command.events pack game.stream) ∧
    persist id game (command.events pack game.stream) = some game'

section Agreement

variable {id : GameId} {game game' : Game} {stream : List StreamEvent} {channel : ChannelId}
  {slot : SlotId}

theorem privateChannels_channel (event : ChannelEvent) :
    privateChannels (stream ++ [.channel event]) = foldChannel (privateChannels stream) event := by
  unfold privateChannels
  rw [List.foldl_append]
  rfl

theorem inState_declared {payload : PrivateChannelDeclared} :
    InState (stream ++ [.channel (.declared payload)]) channel slot ↔
      (InState stream channel slot ∧ channel ≠ payload.channelId) ∨
        (channel = payload.channelId ∧ ∃ member ∈ payload.members, member.slotId = slot) := by
  unfold InState
  rw [privateChannels_channel]
  constructor
  · rintro ⟨record, hrecord, rfl, rfl⟩
    rcases List.mem_append.1 hrecord with hold | hnew
    · obtain ⟨hmem, hkept⟩ := List.mem_filter.1 hold
      exact .inl ⟨⟨record, hmem, rfl, rfl⟩, of_decide_eq_true hkept⟩
    · obtain ⟨member, hmember, rfl⟩ := List.mem_map.1 hnew
      exact .inr ⟨rfl, member, hmember, rfl⟩
  · rintro (⟨⟨record, hrecord, rfl, rfl⟩, hne⟩ | ⟨rfl, member, hmember, rfl⟩)
    · exact ⟨record, List.mem_append_left _ (List.mem_filter.2 ⟨hrecord, decide_eq_true hne⟩), rfl, rfl⟩
    · exact ⟨_, List.mem_append_right _ (List.mem_map_of_mem hmember), rfl, rfl⟩

theorem inState_granted {payload : PrivateChannelMemberGranted} :
    InState (stream ++ [.channel (.memberGranted payload)]) channel slot ↔
      InState stream channel slot ∨ (channel = payload.channelId ∧ slot = payload.slotId) := by
  unfold InState
  rw [privateChannels_channel]
  constructor
  · rintro ⟨record, hrecord, rfl, rfl⟩
    rcases List.mem_append.1 hrecord with hold | hnew
    · exact .inl ⟨record, (List.mem_filter.1 hold).1, rfl, rfl⟩
    · obtain rfl := List.mem_singleton.1 hnew
      exact .inr ⟨rfl, rfl⟩
  · rintro (⟨record, hrecord, rfl, rfl⟩ | ⟨rfl, rfl⟩)
    · by_cases hsame : record.channelId = payload.channelId ∧ record.slotId = payload.slotId
      · exact ⟨_, List.mem_append_right _ (List.mem_singleton_self _), hsame.1.symm, hsame.2.symm⟩
      · exact ⟨record, List.mem_append_left _ (List.mem_filter.2 ⟨hrecord,
          decide_eq_true (not_and_or.1 hsame)⟩), rfl, rfl⟩
    · exact ⟨_, List.mem_append_right _ (List.mem_singleton_self _), rfl, rfl⟩

theorem inState_memberRevoked {revoked : ChannelId} {out : SlotId} :
    InState (stream ++ [.channel (.memberRevoked revoked out)]) channel slot ↔
      InState stream channel slot ∧ ¬ (channel = revoked ∧ slot = out) := by
  unfold InState
  rw [privateChannels_channel]
  constructor
  · rintro ⟨record, hrecord, rfl, rfl⟩
    obtain ⟨hmem, hkept⟩ := List.mem_filter.1 hrecord
    exact ⟨⟨record, hmem, rfl, rfl⟩, not_and_or.2 (of_decide_eq_true hkept)⟩
  · rintro ⟨⟨record, hrecord, rfl, rfl⟩, hkept⟩
    exact ⟨record, List.mem_filter.2 ⟨hrecord, decide_eq_true (not_and_or.1 hkept)⟩, rfl, rfl⟩

theorem inState_revoked {revoked : ChannelId} :
    InState (stream ++ [.channel (.revoked revoked)]) channel slot ↔
      InState stream channel slot ∧ channel ≠ revoked := by
  unfold InState
  rw [privateChannels_channel]
  constructor
  · rintro ⟨record, hrecord, rfl, rfl⟩
    obtain ⟨hmem, hkept⟩ := List.mem_filter.1 hrecord
    exact ⟨⟨record, hmem, rfl, rfl⟩, of_decide_eq_true hkept⟩
  · rintro ⟨⟨record, hrecord, rfl, rfl⟩, hkept⟩
    exact ⟨record, List.mem_filter.2 ⟨hrecord, decide_eq_true hkept⟩, rfl, rfl⟩

/-- An event that is no channel's leaves both alone. -/
theorem agree_plain {event : StreamEvent} (hplain : ∀ channelEvent, event ≠ .channel channelEvent)
    (h : append id game event = some game') :
    (∀ channel slot, Sits game'.db id channel slot ↔ Sits game.db id channel slot) ∧
      ∀ channel slot, InState game'.stream channel slot ↔ InState game.stream channel slot := by
  have hfold : privateChannels (game.stream ++ [event]) = privateChannels game.stream := by
    unfold privateChannels
    rw [List.foldl_append]
    cases event with
    | channel channelEvent => exact absurd rfl (hplain channelEvent)
    | roleAssigned => rfl
    | slotOccupancyStarted => rfl
    | gameStarted => rfl
  have hstate : ∀ channel slot,
      InState (game.stream ++ [event]) channel slot ↔ InState game.stream channel slot := by
    intro channel slot
    unfold InState
    rw [hfold]
  cases event with
  | channel channelEvent => exact absurd rfl (hplain channelEvent)
  | roleAssigned | gameStarted =>
    obtain rfl := Option.some.inj h
    exact ⟨fun _ _ => Iff.rfl, hstate⟩
  | slotOccupancyStarted slot =>
    obtain rfl := Option.some.inj h
    refine ⟨fun channel slot' => ?_, hstate⟩
    unfold Sits
    rw [ensureSlot_eq]

/-- One event keeps the projection and the state together exactly if it keeps its members. -/
theorem append_agrees_iff {event : StreamEvent} (hagree : Agree id game)
    (h : append id game event = some game') : Agree id game' ↔ Keeps id game event := by
  have hafter (hplain : ∀ channelEvent, event ≠ .channel channelEvent) : Agree id game' := by
    obtain ⟨hsits, hstate⟩ := agree_plain hplain h
    intro channel slot
    rw [hsits, hstate]
    exact hagree channel slot
  cases event with
  | roleAssigned | slotOccupancyStarted | gameStarted => exact iff_of_true (hafter fun _ => by simp) trivial
  | channel channelEvent =>
    obtain ⟨db, hdb, rfl⟩ := Option.map_eq_some_iff.1 h
    cases channelEvent with
    | declared payload =>
      unfold Agree Keeps
      dsimp only
      constructor
      · intro hafter slot hsits
        have hstate := (hafter payload.channelId slot).1 ((sits_declared hdb).2 (.inl hsits))
        rcases inState_declared.1 hstate with ⟨-, hne⟩ | ⟨-, hmember⟩
        · exact absurd rfl hne
        · exact hmember
      · intro hkeeps channel slot
        rw [sits_declared hdb, inState_declared, hagree channel slot]
        constructor
        · rintro (hold | hnew)
          · by_cases hchannel : channel = payload.channelId
            · subst hchannel
              exact .inr ⟨rfl, hkeeps slot ((hagree _ slot).2 hold)⟩
            · exact .inl ⟨hold, hchannel⟩
          · exact .inr hnew
        · rintro (⟨hold, -⟩ | hnew)
          · exact .inl hold
          · exact .inr hnew
    | memberGranted payload =>
      refine iff_of_true (fun channel slot => ?_) trivial
      dsimp only
      rw [sits_granted hdb, inState_granted, hagree channel slot]
    | memberRevoked revoked out =>
      refine iff_of_true (fun channel slot => ?_) trivial
      dsimp only
      rw [sits_memberRevoked hdb, inState_memberRevoked, hagree channel slot]
    | revoked revoked =>
      refine iff_of_true (fun channel slot => ?_) trivial
      dsimp only
      rw [sits_revoked hdb, inState_revoked, hagree channel slot]

/-- Events that keep their members keep the projection and the state together. -/
theorem persist_agrees {events : List StreamEvent} (hagree : Agree id game)
    (hkeeps : KeepsEach id game events) (h : persist id game events = some game') :
    Agree id game' := by
  induction events generalizing game with
  | nil =>
    obtain rfl := Option.some.inj h
    exact hagree
  | cons event events ih =>
    unfold persist at h
    rw [List.foldlM_cons] at h
    obtain ⟨next, hnext, hrest⟩ := Option.bind_eq_some_iff.1 h
    exact ih ((append_agrees_iff hagree hnext).2 hkeeps.1) (hkeeps.2 next hnext) hrest

end Agreement

/-- A game with no stream and no rows. -/
def Fresh (id : GameId) (game : Game) : Prop :=
  game.stream = [] ∧ ∀ row ∈ game.db.privateChannelMember, row.gameId ≠ id

theorem Fresh.agree {id : GameId} {game : Game} (h : Fresh id game) : Agree id game := by
  intro channel slot
  refine iff_of_false ?_ ?_
  · rintro ⟨row, hrow, hat⟩
    exact h.2 row hrow (isAt_iff.1 hat).1
  · unfold InState
    rw [h.1]
    rintro ⟨record, hrecord, -⟩
    exact absurd hrecord List.not_mem_nil

/-- In a game whose declarations have all kept their members, the channels a slot reads are those the
game state has it in; and the next event keeps it so exactly if it keeps its members. -/
theorem channels_agree {pack : ChannelPack} {id : GameId} {start game : Game} (hstart : Fresh id start)
    (hrun : Relation.ReflTransGen (KeepingStep pack id) start game) :
    Agree id game ∧ ∀ event game', append id game event = some game' →
      (Agree id game' ↔ Keeps id game event) := by
  have hagree : Agree id game :=
    Steps.preserved (Agree id)
      (fun _ _ ⟨_, hkeeps, hpersist⟩ hagree => persist_agrees hagree hkeeps hpersist) hrun
      hstart.agree
  exact ⟨hagree, fun event game' happend => append_agrees_iff hagree happend⟩

/-! ## A second start -/

/-- Masons read one channel. -/
def masonPack : ChannelPack where
  alignment _ := some "town"
  enabled := true
  groups := [{ id := "masons", kind := .mason, roles := ["mason"], revealsAlignment := "Town" }]

/-- The declaration of the masons' channel. -/
def masons (slots : List SlotId) : PrivateChannelDeclared where
  channelId := "private:masons"
  kind := "Mason"
  members := slots.map (⟨·, "mason"⟩)
  revealsAlignment := "Town"
  source := "pack.private_channels.masons"

/-- Three masons. -/
def masonRoles : List StreamEvent :=
  [.roleAssigned "a" "mason", .roleAssigned "b" "mason", .roleAssigned "c" "mason"]

/-- The tables once the game has started. -/
def masonTables : Tables where
  slotState := [⟨1, "a", true⟩, ⟨1, "b", true⟩, ⟨1, "c", true⟩]
  privateChannelMember := ["a", "b", "c"].map fun slot => (masons []).row 1 ⟨slot, "mason"⟩

/-- The game has started. -/
def started : Game where
  stream := masonRoles ++ [.gameStarted, .channel (.declared (masons ["a", "b", "c"]))]
  db := masonTables

/-- One of them is a villager when it starts again. -/
def restarted : Game where
  stream := started.stream ++
    [.roleAssigned "c" "villager", .gameStarted, .channel (.declared (masons ["a", "b"]))]
  db := masonTables

theorem assigned_step (slot : SlotId) (role : String) (game : Game) : KeepingStep masonPack 1 game
      { game with stream := game.stream ++ [.roleAssigned slot role] } := by
  refine ⟨.assignRole slot role false, ?_, ?_⟩
  · rw [Command.events, if_neg (by simp)]
    exact ⟨trivial, fun _ _ => trivial⟩
  · rw [Command.events, if_neg (by simp)]
    rfl

theorem started_reached : Relation.ReflTransGen (KeepingStep masonPack 1) {} started := by
  have hroles : Relation.ReflTransGen (KeepingStep masonPack 1) {} { stream := masonRoles } :=
    ((Relation.ReflTransGen.single (assigned_step "a" "mason" {})).tail
      (assigned_step "b" "mason" _)).tail (assigned_step "c" "mason" _)
  refine hroles.tail ⟨.startGame, ⟨trivial, ?_⟩, rfl⟩
  intro next hnext
  obtain rfl := Option.some.inj hnext
  refine ⟨?_, fun _ _ => trivial⟩
  rintro slot ⟨row, hrow, -⟩
  exact absurd hrow List.not_mem_nil

/-- The villager's row stays when its channel is declared without it. -/
theorem restarted_differs :
    ∃ (pack : ChannelPack) (game : Game), Relation.ReflTransGen (Step pack 1) {} game ∧
      Sits game.db 1 "private:masons" "c" ∧ ¬ InState game.stream "private:masons" "c" := by
  have hstarted : Relation.ReflTransGen (Step masonPack 1) {} started :=
    started_reached.lift (fun game => game) fun _ _ ⟨command, _, h⟩ => ⟨command, h⟩
  have hassigned : Step masonPack 1 started
      { started with stream := started.stream ++ [.roleAssigned "c" "villager"] } :=
    ⟨.assignRole "c" "villager" false, rfl⟩
  have hrestarted : Step masonPack 1
      { started with stream := started.stream ++ [.roleAssigned "c" "villager"] } restarted :=
    ⟨.startGame, rfl⟩
  refine ⟨masonPack, restarted, (hstarted.tail hassigned).tail hrestarted, ?_, ?_⟩
  · exact ⟨(masons []).row 1 ⟨"c", "mason"⟩, by decide, rfl⟩
  · unfold InState
    decide

theorem started_agrees : Agree 1 started ∧ ∀ event game', append 1 started event = some game' →
    (Agree 1 game' ↔ Keeps 1 started event) :=
  channels_agree ⟨rfl, fun _ h => absurd h List.not_mem_nil⟩ started_reached

end Fmarch.Commands.Channels
