import Fmarch.Lib.Fallible
import Fmarch.Projections.Tables
import Fmarch.Resolver.Shape
import Mathlib.Data.List.Dedup

/-!
# Private results (`fold_inner`, `upsert_player_notification`)

What a resolution tells single players is folded into three tables: the results of investigations, other
private information, and notices. A row of each is keyed by a phase, the index of the event in its
resolution and the slot it is for, and an event that finds its key taken rewrites the row. The index
starts again in every resolution; a notice stored outside of one has its stream position, negated.

**`results_kept_iff`**: at every point of a stream the tables have a row for each private result and each
slot that it is for, exactly if no two results of one table have the same phase, index and slot
(`Separate`). Where a phase is resolved twice they can have (`killedTwice_lost`): the notice of a kill by an
instant action is lost when its victim is revived, and killed by another in the same phase.

The sealing of a result is not modelled, nor what else the events write.
-/

namespace Fmarch.Projections.PrivateResults

open Domain Keyed

variable {F : Type}

/-! ## The tables -/

/-- A primary key of the three tables, within one game. -/
abbrev ResultKey := PhaseId × Int × SlotId

/-- A row of `player_investigation_result`. -/
structure InvestigationRow where
  phaseId : PhaseId
  eventIndex : Int
  audienceSlot : SlotId
  mode : InvestigateMode
  targetSlot : SlotId
  result : InvestigationResultBody

/-- A row of `player_info_result`. -/
structure InfoRow where
  phaseId : PhaseId
  eventIndex : Int
  audienceSlot : SlotId
  kind : String
  actorSlot : SlotId
  targetSlot : SlotId
  sourceAction : String
  templateId : String
  result : Json

/-- A row of `player_notification`. -/
structure NotificationRow where
  phaseId : PhaseId
  eventIndex : Int
  audienceSlot : SlotId
  effect : String
  status : String
  deriving DecidableEq

def InvestigationRow.key (row : InvestigationRow) : ResultKey :=
  (row.phaseId, row.eventIndex, row.audienceSlot)

def InfoRow.key (row : InfoRow) : ResultKey := (row.phaseId, row.eventIndex, row.audienceSlot)

def NotificationRow.key (row : NotificationRow) : ResultKey :=
  (row.phaseId, row.eventIndex, row.audienceSlot)

/-- The three tables. -/
structure Tables where
  investigations : List InvestigationRow := []
  infos : List InfoRow := []
  notifications : List NotificationRow := []

namespace Tables

/-- The `INSERT … ON CONFLICT … DO UPDATE` into `player_investigation_result`. -/
def upsertInvestigation (tables : Tables) (row : InvestigationRow) : Tables :=
  { tables with investigations := upsert (decide <| ·.key = row.key) row tables.investigations }

/-- The `INSERT … ON CONFLICT … DO UPDATE` into `player_info_result`. -/
def upsertInfo (tables : Tables) (row : InfoRow) : Tables :=
  { tables with infos := upsert (decide <| ·.key = row.key) row tables.infos }

/-- `upsert_player_notification`. -/
def upsertNotification (tables : Tables) (row : NotificationRow) : Tables :=
  { tables with notifications := upsert (decide <| ·.key = row.key) row tables.notifications }

end Tables

/-! ## The fold -/

/-- `index as i32`. -/
def asI32 (index : Nat) : Int := Int.bmod index (2 ^ 32)

/-- The slot an investigation's result is for. -/
def investigationAudience (mode : InvestigateMode) (investigator target : SlotId) : SlotId :=
  match mode with
  | .roleGuard | .securityGuard => target
  | _ => investigator

/-- What `fold_inner` does to the three tables. -/
def foldInner (phaseId : PhaseId) (eventIndex : Int) (tables : Tables) : InnerEvent F → Tables
  | .playerKilled slotId cause .. =>
    tables.upsertNotification
      { phaseId, eventIndex, audienceSlot := slotId, effect := "player_killed", status := cause }
  | .effectNotification effect status audience _ =>
    audience.foldl
      (fun tables audienceSlot =>
        tables.upsertNotification { phaseId, eventIndex, audienceSlot, effect, status })
      tables
  | .investigationResult mode investigator target result =>
    tables.upsertInvestigation
      { phaseId, eventIndex, audienceSlot := investigationAudience mode investigator target, mode
        targetSlot := target, result }
  | .infoResult actor target kind audience result sourceAction templateId eventPhaseId =>
    audience.foldl
      (fun tables audienceSlot =>
        tables.upsertInfo
          { phaseId := eventPhaseId, eventIndex, audienceSlot, kind, actorSlot := actor
            targetSlot := target, sourceAction, templateId, result })
      tables
  | _ => tables

/-- The events of a game's stream that are folded into the three tables. -/
inductive StreamEvent (F : Type) where
  | resolutionApplied (applied : ResolutionApplied F)
  | effectNotification (phaseId : PhaseId) (effect : Tag) (status : String)
      (audience : List SlotId)
  | other

structure StoredEvent (F : Type) where
  streamSeq : Nat
  event : StreamEvent F

/-- The fold of one stored event, which fails where a resolution does not decode or a stream position
makes no index. -/
def foldEvent (tables : Tables) (stored : StoredEvent F) : Option Tables :=
  match stored.event with
  | .resolutionApplied applied =>
    match validateResolutionApplied applied resultVersion with
    | .error _ => none
    | .ok () =>
      some (applied.events.foldl (fun tables indexed =>
          foldInner applied.phaseId (asI32 indexed.index) tables indexed.event) tables)
  | .effectNotification phaseId effect status audience =>
    if stored.streamSeq < 2 ^ 31 then
      some (foldInner phaseId (-stored.streamSeq) tables
        (.effectNotification effect status audience (some phaseId) : InnerEvent F))
    else none
  | .other => some tables

/-- The fold of a stream into empty tables. -/
def foldStream (stream : List (StoredEvent F)) : Option Tables := stream.foldlM foldEvent {}

/-! ## The results -/

/-- The rows an event has in `player_investigation_result`. -/
def investigationsOf (phaseId : PhaseId) (eventIndex : Int) : InnerEvent F → List InvestigationRow
  | .investigationResult mode investigator target result =>
    [{ phaseId, eventIndex, audienceSlot := investigationAudience mode investigator target, mode
       targetSlot := target, result }]
  | _ => []

/-- The rows an event has in `player_info_result`, for the slots of its audience. -/
def infosOf (slots : List SlotId → List SlotId) (eventIndex : Int) : InnerEvent F → List InfoRow
  | .infoResult actor target kind audience result sourceAction templateId eventPhaseId =>
    (slots audience).map fun audienceSlot =>
      { phaseId := eventPhaseId, eventIndex, audienceSlot, kind, actorSlot := actor
        targetSlot := target, sourceAction, templateId, result }
  | _ => []

/-- The rows an event has in `player_notification`, for the slots of its audience. -/
def notificationsOf (slots : List SlotId → List SlotId) (phaseId : PhaseId) (eventIndex : Int) :
    InnerEvent F → List NotificationRow
  | .playerKilled slotId cause .. =>
    [{ phaseId, eventIndex, audienceSlot := slotId, effect := "player_killed", status := cause }]
  | .effectNotification effect status audience _ =>
    (slots audience).map fun audienceSlot => { phaseId, eventIndex, audienceSlot, effect, status }
  | _ => []

/-- The rows of a stored event, given those of an inner event. -/
def StoredEvent.rows {R : Type} (rowsOf : PhaseId → Int → InnerEvent F → List R)
    (stored : StoredEvent F) : List R :=
  match stored.event with
  | .resolutionApplied applied =>
    applied.events.flatMap fun indexed =>
      rowsOf applied.phaseId (asI32 indexed.index) indexed.event
  | .effectNotification phaseId effect status audience =>
    rowsOf phaseId (-stored.streamSeq) (.effectNotification effect status audience (some phaseId))
  | .other => []

/-- The investigation results of a stream. -/
def investigationResults (stream : List (StoredEvent F)) : List InvestigationRow :=
  stream.flatMap (StoredEvent.rows investigationsOf)

/-- The other private information of a stream, for each slot once. -/
def infoResults (stream : List (StoredEvent F)) : List InfoRow :=
  stream.flatMap (StoredEvent.rows fun _ => infosOf List.dedup)

/-- The notices of a stream, for each slot once. -/
def notifications (stream : List (StoredEvent F)) : List NotificationRow :=
  stream.flatMap (StoredEvent.rows (notificationsOf List.dedup))

/-- Every private result has its own row, with its own content, for each slot it is for. -/
structure Kept (stream : List (StoredEvent F)) (tables : Tables) : Prop where
  investigations : tables.investigations.Perm (investigationResults stream)
  infos : tables.infos.Perm (infoResults stream)
  notifications : tables.notifications.Perm (PrivateResults.notifications stream)

/-- No two private results of one table have the same phase, index and slot. -/
structure Separate (stream : List (StoredEvent F)) : Prop where
  investigations : ((investigationResults stream).map InvestigationRow.key).Nodup
  infos : ((infoResults stream).map InfoRow.key).Nodup
  notifications : ((PrivateResults.notifications stream).map NotificationRow.key).Nodup

/-! ## What the fold writes -/

section Writes

variable {tables next : Tables} {stored : StoredEvent F} {stream : List (StoredEvent F)}

theorem upsertNotifications (rowOf : SlotId → NotificationRow) (audience : List SlotId) (tables : Tables) :
    (audience.foldl (fun tables slot => tables.upsertNotification (rowOf slot)) tables) = { tables with
        notifications := upserts NotificationRow.key tables.notifications (audience.map rowOf) } := by
  induction audience generalizing tables with
  | nil => rfl
  | cons slot audience ih => exact ih (tables.upsertNotification (rowOf slot))

theorem upsertInfos (rowOf : SlotId → InfoRow) (audience : List SlotId) (tables : Tables) :
    (audience.foldl (fun tables slot => tables.upsertInfo (rowOf slot)) tables) =
      { tables with infos := upserts InfoRow.key tables.infos (audience.map rowOf) } := by
  induction audience generalizing tables with
  | nil => rfl
  | cons slot audience ih => exact ih (tables.upsertInfo (rowOf slot))

/-- An event upserts its rows. -/
theorem foldInner_eq (phaseId : PhaseId) (eventIndex : Int) (tables : Tables) (event : InnerEvent F) :
    foldInner phaseId eventIndex tables event =
      { investigations := upserts InvestigationRow.key tables.investigations
          (investigationsOf phaseId eventIndex event)
        infos := upserts InfoRow.key tables.infos (infosOf id eventIndex event)
        notifications := upserts NotificationRow.key tables.notifications
          (notificationsOf id phaseId eventIndex event) } := by
  cases event with
  | effectNotification effect status audience _ =>
    exact upsertNotifications (fun audienceSlot =>
      { phaseId, eventIndex, audienceSlot, effect, status }) audience tables
  | infoResult => exact upsertInfos _ _ tables
  | _ => rfl

variable {R : Type} {rowsOf : PhaseId → Int → InnerEvent F → List R}

/-- A table that events upsert rows into has those of a stored event upserted. -/
theorem foldEvent_part {key : R → ResultKey} (part : Tables → List R)
    (hpart : ∀ tables phaseId eventIndex (event : InnerEvent F), part (foldInner phaseId eventIndex tables event) = upserts key (part tables) (rowsOf phaseId eventIndex event))
    (h : foldEvent tables stored = some next) :
    part next = upserts key (part tables) (stored.rows rowsOf) := by
  unfold foldEvent at h
  unfold StoredEvent.rows
  split at h
  case h_1 applied heq =>
    split at h
    · cases h
    · obtain rfl := Option.some.inj h
      exact foldl_upserts part (fun tables indexed => hpart tables _ _ indexed.event) _ _
  case h_2 phaseId effect status audience heq =>
    split at h
    · obtain rfl := Option.some.inj h
      exact hpart tables _ _ _
    · cases h
  case h_3 heq =>
    obtain rfl := Option.some.inj h
    rfl

theorem foldStream_part {key : R → ResultKey} (part : Tables → List R)
    (hpart : ∀ tables phaseId eventIndex (event : InnerEvent F), part (foldInner phaseId eventIndex tables event) = upserts key (part tables) (rowsOf phaseId eventIndex event))
    (hempty : part {} = []) (h : foldStream stream = some tables) :
    part tables = upserts key [] (stream.flatMap (StoredEvent.rows rowsOf)) := by
  rw [← hempty]
  exact foldlM_upserts part (fun h => foldEvent_part part hpart h) h

/-- Which rows a stored event has depends on which an inner event has. -/
theorem mem_rows_congr {rowsOf' : PhaseId → Int → InnerEvent F → List R}
    (h : ∀ phaseId eventIndex event row, row ∈ rowsOf phaseId eventIndex event ↔ row ∈ rowsOf' phaseId eventIndex event)
    (row : R) :
    row ∈ stream.flatMap (StoredEvent.rows rowsOf) ↔ row ∈ stream.flatMap (StoredEvent.rows rowsOf') := by
  simp only [List.mem_flatMap]
  refine exists_congr fun stored => and_congr_right fun _ => ?_
  unfold StoredEvent.rows
  cases stored.event with
  | resolutionApplied applied => simp only [List.mem_flatMap, h]
  | effectNotification => exact h ..
  | other => exact Iff.rfl

theorem mem_infosOf (eventIndex : Int) (event : InnerEvent F) (row : InfoRow) :
    row ∈ infosOf id eventIndex event ↔ row ∈ infosOf List.dedup eventIndex event := by
  cases event <;> simp [infosOf]

theorem mem_notificationsOf (phaseId : PhaseId) (eventIndex : Int) (event : InnerEvent F)
    (row : NotificationRow) :
    row ∈ notificationsOf id phaseId eventIndex event ↔
      row ∈ notificationsOf List.dedup phaseId eventIndex event := by
  cases event <;> simp [notificationsOf]

/-- The results are kept exactly if they are separate. -/
theorem kept_iff (h : foldStream stream = some tables) : Kept stream tables ↔ Separate stream := by
  have hinvestigations := foldStream_part Tables.investigations
    (fun tables phaseId eventIndex event =>
      congrArg Tables.investigations (foldInner_eq phaseId eventIndex tables event)) rfl h
  have hinfos := foldStream_part Tables.infos
    (fun tables phaseId eventIndex event =>
      congrArg Tables.infos (foldInner_eq phaseId eventIndex tables event)) rfl h
  have hnotifications := foldStream_part Tables.notifications
    (fun tables phaseId eventIndex event =>
      congrArg Tables.notifications (foldInner_eq phaseId eventIndex tables event)) rfl h
  have hkept : Kept stream tables ↔ tables.investigations.Perm (investigationResults stream) ∧
        tables.infos.Perm (infoResults stream) ∧
        tables.notifications.Perm (PrivateResults.notifications stream) :=
    ⟨fun h => ⟨h.1, h.2, h.3⟩, fun h => ⟨h.1, h.2.1, h.2.2⟩⟩
  have hseparate : Separate stream ↔ ((investigationResults stream).map InvestigationRow.key).Nodup ∧
        ((infoResults stream).map InfoRow.key).Nodup ∧
        ((PrivateResults.notifications stream).map NotificationRow.key).Nodup :=
    ⟨fun h => ⟨h.1, h.2, h.3⟩, fun h => ⟨h.1, h.2.1, h.2.2⟩⟩
  rw [hkept, hseparate, hinvestigations, hinfos, hnotifications]
  refine and_congr (perm_upserts_iff fun _ => Iff.rfl) (and_congr ?_ ?_)
  · exact perm_upserts_iff (mem_rows_congr fun _ => mem_infosOf)
  · exact perm_upserts_iff (mem_rows_congr mem_notificationsOf)

theorem Separate.of_prefix {earlier : List (StoredEvent F)} (h : Separate stream)
    (hearlier : earlier <+: stream) : Separate earlier := by
  obtain ⟨later, rfl⟩ := hearlier
  obtain ⟨hinvestigations, hinfos, hnotifications⟩ := h
  simp only [investigationResults, infoResults, PrivateResults.notifications, List.flatMap_append,
    List.map_append] at hinvestigations hinfos hnotifications
  exact ⟨(List.nodup_append.1 hinvestigations).1, (List.nodup_append.1 hinfos).1,
    (List.nodup_append.1 hnotifications).1⟩

/-- **At every point of a stream each private result has its own row for each slot it is for, exactly if
no two results of one table have the same phase, index and slot.** -/
theorem results_kept_iff (h : foldStream stream = some tables) :
    (∀ earlier rows, earlier <+: stream → foldStream earlier = some rows → Kept earlier rows) ↔
      Separate stream :=
  ⟨fun hkept => (kept_iff h).1 (hkept stream tables (List.prefix_refl stream) h),
    fun hseparate _ _ hearlier hrows => (kept_iff hrows).2 (hseparate.of_prefix hearlier)⟩

end Writes

/-- A notice that no resolution made. -/
def noticed : List (StoredEvent Rat) :=
  [{ streamSeq := 1, event := .effectNotification (.first .night) "marked" "applied" ["a", "b"] }]

theorem noticed_kept : ∃ rows, foldStream noticed = some rows ∧ Kept noticed rows :=
  ⟨_, rfl, (results_kept_iff rfl).2 ⟨by decide, by decide, by decide⟩ noticed _
    (List.prefix_refl noticed) rfl⟩

/-! ## A slot that is killed twice -/

section Lost

open Resolver

/-- Take somebody along at once. -/
def takeAlong (id cause : String) : ActionTemplate Rat where
  id
  ability := .selfDestruct
  window := .instant
  targets := .one
  constraints :=
    { maxTargets := 1, selfAllowed := false, uniqueTargets := true, roleblockable := false
      priority := 0 }
  selfDestruct := some { cause, killTarget := true, sacrificeActor := true, unstoppable := false }

/-- A slot of the village takes along another, on the first night, when these are dead. -/
def takenAlong (dead : List SlotId) (actor templateId target : String) : ResolutionInput Rat :=
  village ⟨villagePack [takeAlong "bomb" "bombed", takeAlong "fire" "burned"],
      [.block, .protect, .kill], .of_plain (by decide) rfl rfl⟩
    { phaseId := .first .night
      slots := (["a", "b", "c", "d", "e"].map fun slotId =>
        { townie slotId with status := if slotId ∈ dead then .dead else .alive }) ++ [goon "g"] }
    [{ actionId := templateId, actor, templateId, targets := [target], phaseId := .first .night
       submittedAt := 0 }]

/-- The stream of two such actions, with the revival of the first one's target between them. -/
def killedTwice (first second : ResolutionOutput Rat) : List (StoredEvent Rat) :=
  [{ streamSeq := 1, event := .resolutionApplied first.applied }, { streamSeq := 2, event := .other },
    { streamSeq := 3, event := .resolutionApplied second.applied }]

/-- The notices of that stream, and those that its fold leaves. -/
def killedTwiceNotices : Option (List NotificationRow × List NotificationRow) := do
  let first ← (resolveInstant (takenAlong [] "a" "bomb" "c")).toOption
  let second ← (resolveInstant (takenAlong ["a"] "b" "fire" "c")).toOption
  let tables ← foldStream (killedTwice first second)
  return (notifications (killedTwice first second), tables.notifications)

/-- The row of a notice that a slot was killed. -/
def killedNotice (eventIndex : Int) (audienceSlot : SlotId) (cause : String) : NotificationRow :=
  { phaseId := .first .night, eventIndex, audienceSlot, effect := "player_killed", status := cause }

theorem killedTwiceNotices_eq : killedTwiceNotices =
    some ([killedNotice 1 "c" "bombed", killedNotice 2 "a" "bombed", killedNotice 1 "c" "burned",
        killedNotice 2 "b" "burned"],
      [killedNotice 2 "a" "bombed", killedNotice 1 "c" "burned", killedNotice 2 "b" "burned"]) := by
  decide +kernel

/-- A slot takes along another, who is revived and taken along again in the same night: the notice of the
first death is gone. -/
theorem killedTwice_lost : ∃ first second tables, resolveInstant (takenAlong [] "a" "bomb" "c") = .ok first ∧
      resolveInstant (takenAlong ["a"] "b" "fire" "c") = .ok second ∧
      foldStream (killedTwice first second) = some tables ∧
      ¬ Kept (killedTwice first second) tables ∧
      killedNotice 1 "c" "bombed" ∈ notifications (killedTwice first second) ∧
      killedNotice 1 "c" "bombed" ∉ tables.notifications := by
  have heq := killedTwiceNotices_eq
  unfold killedTwiceNotices at heq
  obtain ⟨first, hfirst, hrest⟩ := Option.bind_eq_some_iff.1 heq
  obtain ⟨second, hsecond, hrest⟩ := Option.bind_eq_some_iff.1 hrest
  obtain ⟨tables, htables, hnotices⟩ := Option.bind_eq_some_iff.1 hrest
  obtain ⟨hevents, hrows⟩ := Prod.mk.inj (Option.some.inj hnotices)
  refine ⟨first, second, tables, Fallible.toOption_eq_some.1 hfirst,
    Fallible.toOption_eq_some.1 hsecond, htables, fun hkept => ?_, ?_, ?_⟩
  · have hlength := hkept.notifications.length_eq
    rw [hevents, hrows] at hlength
    cases hlength
  · rw [hevents]
    decide
  · rw [hrows]
    decide

end Lost

end Fmarch.Projections.PrivateResults
