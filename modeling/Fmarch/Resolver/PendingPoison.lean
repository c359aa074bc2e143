import Fmarch.Resolver.Cures
import Fmarch.Resolver.KnownTargets
import Fmarch.Resolver.PoisonStage

/-!
# Queued poison

A poison is queued when it is laid, as a record beside the effect tag, and settled in the poison stage of the
next night: the target dies of it, has died before, or was cured. `PoisonSettled` says what a resolution
does of one record; `Game` is any run of resolutions, with whatever happens to the snapshot in between that
brings nobody back.

**`poison_settledOnce`**: in any game, a night settles every poison queued before it exactly once, and no
slot dies of poison twice.
-/

namespace Fmarch.Resolver

open Fmarch.Domain Keyed

variable {F : Type} [Float64 F]

/-! ## The queue of a snapshot -/

section Queue

variable {state : StateSnapshot F}

omit [Float64 F]

theorem applyEvent_delayedDeaths (state : StateSnapshot F) (event : InnerEvent F) :
    (applyEvent state event).delayedDeaths = match queued? event with
      | some record =>
        upsert (fun other => other.target == record.target && other.effect == record.effect) record
          state.delayedDeaths
      | none =>
        match resolved? event with
        | some death => state.delayedDeaths.filter fun record => record.queueId != death.queueId
        | none => state.delayedDeaths := by
  cases event with
  | effectsMarked => simp only [applyEvent]; split <;> rfl
  | _ => rfl

/-- A queued record was queued before, or by one of the events. -/
theorem mem_delayedDeaths_applyEvents {events : List (InnerEvent F)} {record : DelayedDeathRecord}
    (h : record ∈ (applyEvents state events).delayedDeaths) :
    record ∈ state.delayedDeaths ∨ record ∈ events.filterMap queued? := by
  induction events generalizing state with
  | nil => exact .inl h
  | cons event events ih =>
    rw [applyEvents_cons] at h
    rcases ih h with hstep | hlater
    · rw [applyEvent_delayedDeaths] at hstep
      cases hqueued : queued? event with
      | some other =>
        rw [hqueued] at hstep
        rcases mem_upsert.1 hstep with ⟨hold, -⟩ | rfl
        · exact .inl hold
        · exact .inr (List.mem_filterMap.2 ⟨event, List.mem_cons_self, hqueued⟩)
      | none =>
        rw [hqueued] at hstep
        dsimp only at hstep
        split at hstep
        · exact .inl (List.mem_filter.1 hstep).1
        · exact .inl hstep
    · obtain ⟨other, hother, hqueued⟩ := List.mem_filterMap.1 hlater
      exact .inr (List.mem_filterMap.2 ⟨other, List.mem_cons_of_mem event hother, hqueued⟩)

/-- From the event that settles it on, a record is gone, unless it is queued again. -/
theorem settled_gone {record : DelayedDeathRecord} {event : InnerEvent F} {death : DeathResolved}
    (hqueued : queued? event = none) (hresolved : resolved? event = some death)
    {later : List (InnerEvent F)} (hlater : later.filterMap queued? = [])
    (h : record ∈ (applyEvents (applyEvent state event) later).delayedDeaths) :
    record.queueId ≠ death.queueId := by
  rcases mem_delayedDeaths_applyEvents h with hkept | hagain
  · rw [applyEvent_delayedDeaths, hqueued, hresolved] at hkept
    simpa using (List.mem_filter.1 hkept).2
  · rw [hlater] at hagain
    exact absurd hagain List.not_mem_nil

/-- What the queue of a snapshot keeps: each slot once, one record for a target and an effect, and every
record of a slot. -/
structure QueueOk (state : StateSnapshot F) : Prop where
  distinct : DistinctSlots state
  keys : (state.delayedDeaths.map fun record => (record.target, record.effect)).Nodup
  known : ∀ record ∈ state.delayedDeaths, Known state record.target

theorem delayedDeaths_keys (h : (state.delayedDeaths.map fun record =>
      (record.target, record.effect)).Nodup) (events : List (InnerEvent F)) :
    ((applyEvents state events).delayedDeaths.map fun record => (record.target, record.effect)).Nodup := by
  refine applyEvents_induction
    (motive := fun next : StateSnapshot F => (next.delayedDeaths.map fun record =>
      (record.target, record.effect)).Nodup) (fun next event hnext => ?_) h events
  rw [applyEvent_delayedDeaths]
  split
  · exact map_upsert_nodup (fun record : DelayedDeathRecord => (record.target, record.effect))
      (fun other hother => by simpa using hother) hnext
  · split
    · exact map_filter_nodup _ _ hnext
    · exact hnext

theorem known_iff {slot : SlotId} : Known state slot ↔ slot ∈ state.slots.map SlotState.slotId := by
  simp [Known, StateSnapshot.slot?, List.find?_isSome]

theorem Known.applyEvents {slot : SlotId} (h : Known state slot) (events : List (InnerEvent F)) :
    Known (applyEvents state events) slot := by
  rw [known_iff, (applyEvents_fades state events).slotIds]
  exact known_iff.1 h

theorem QueueOk.applyEvents (h : QueueOk state) {events : List (InnerEvent F)}
    (hqueued : ∀ record ∈ events.filterMap queued?, Known state record.target) :
    QueueOk (applyEvents state events) where
  distinct := h.distinct.applyEvents events
  keys := delayedDeaths_keys h.keys events
  known record hrecord := by
    rcases mem_delayedDeaths_applyEvents hrecord with hold | hnew
    · exact (h.known record hold).applyEvents events
    · exact (hqueued record hnew).applyEvents events

end Queue

/-! ## A night -/

section Night

variable {input : ResolutionInput F} {out : ResolutionOutput F} {record : DelayedDeathRecord}

/-- The poison takes effect behind the events `before`: its target is alive, was not killed before, is still
poisoned, and has no unblocked cure. -/
structure TakesEffect (input : ResolutionInput F) (before : List (InnerEvent F))
    (record : DelayedDeathRecord) (slot : SlotState) : Prop where
  alive : slot.isAlive = true
  spared : record.target ∉ killedSlots before
  poisoned : "poisoned" ∈ slot.effects ∧ ¬ Unmarked input "poisoned" record.target
  uncured : ¬ Cured input "poisoned" record.target

/-- What the events of a night do of a queued poison: one of them settles it, none other does; from there
on the queue is without it; and it kills its target exactly if it takes effect. -/
structure PoisonSettled (input : ResolutionInput F) (events : List (InnerEvent F))
    (record : DelayedDeathRecord) (slot : SlotState) (before : List (InnerEvent F)) (outcome : String)
    (after : List (InnerEvent F)) : Prop where
  target : input.state.slot? record.target = some slot
  split : events = before ++ delayedDeathResolved input record outcome :: after
  once : (events.filterMap resolved?).filter (·.key = (record.target, record.effect)) =
    [{ queueId := record.queueId, target := record.target, effect := record.effect, outcome }]
  gone : ∀ later, later <+: after → ∀ other ∈ (applyEvents input.state
    (before ++ delayedDeathResolved input record outcome :: later)).delayedDeaths,
      other.queueId ≠ record.queueId
  killed : outcome = "applied" → ∃ attackers unstoppable deathReveal rest, after =
    .playerKilled record.target record.cause attackers unstoppable deathReveal :: rest
  applied : outcome = "applied" ↔ TakesEffect input before record slot

theorem knownPoisons_nodup (h : QueueOk input.state) : (knownPoisons input).Nodup :=
  map_filter_nodup _ _ (map_filter_nodup _ _ h.keys)

/-- A night settles every queued poison. -/
theorem poison_settled (h : resolve input = .ok out) (hnight : input.state.phaseId.kind = .night)
    (queue : QueueOk input.state) (hrecord : record ∈ input.state.delayedDeaths)
    (heffect : record.effect = "poisoned") :
    ∃ slot before outcome after,
      PoisonSettled input (out.applied.events.map (·.event)) record slot before outcome after := by
  obtain ⟨slot, hslot⟩ := Option.isSome_iff_exists.1 (queue.known record hrecord)
  obtain ⟨before, outcome, after, hsplit, hqueued, hkilled, happlied⟩ :=
    poison_split h hnight hrecord heffect hslot
  have hdeaths := (resolve_delayed h hnight).2
  refine ⟨slot, before, outcome, after, hslot, hsplit, ?_, fun later hlater other hother => ?_, hkilled, ?_⟩
  · have hnodup := knownPoisons_nodup queue
    rw [← hdeaths, hsplit, List.filterMap_append] at hnodup
    rw [hsplit, List.filterMap_append]
    exact filter_key_of_nodup DeathResolved.key hnodup
  · rw [applyEvents_append, applyEvents_cons] at hother
    have hnone : later.filterMap (queued? (F := F)) = [] := by
      obtain ⟨rest, rfl⟩ := hlater
      rw [List.filterMap_append] at hqueued
      exact (List.append_eq_nil_iff.1 hqueued).1
    exact settled_gone rfl rfl hnone hother
  · rw [happlied]
    constructor
    · intro hdue
      have huncleared := mt cleared_iff.2 hdue.uncleared
      exact ⟨hdue.alive, hdue.spared, ⟨hdue.poisoned, fun hmoved => huncleared (.inr hmoved)⟩,
        fun hcured => huncleared (.inl hcured)⟩
    · intro htakes
      exact ⟨htakes.alive, htakes.spared, htakes.poisoned.1, fun hcleared =>
        (cleared_iff.1 hcleared).elim htakes.uncured htakes.poisoned.2⟩

/-- The slots that die of poison by the events. -/
def poisonKills (events : List (InnerEvent F)) : List SlotId :=
  ((events.filterMap resolved?).filter (·.outcome == "applied")).map (·.target)

omit [Float64 F] in
theorem mem_poisonKills {events : List (InnerEvent F)} {slot : SlotId} : slot ∈ poisonKills events ↔
      ∃ death ∈ events.filterMap resolved?, death.outcome = "applied" ∧ death.target = slot := by
  simp [poisonKills, and_assoc]

theorem poisonKills_nodup (h : resolve input = .ok out) (hnight : input.state.phaseId.kind = .night)
    (queue : QueueOk input.state) : (poisonKills (out.applied.events.map (·.event))).Nodup := by
  refine map_filter_nodup _ _ (List.Nodup.of_map (fun slot : SlotId => (slot, "poisoned")) ?_)
  have hall : ∀ death ∈ (out.applied.events.map (·.event)).filterMap resolved?,
      death.key = (death.target, "poisoned") := by
    intro death hdeath
    have hkey : death.key ∈ knownPoisons input := by
      rw [← (resolve_delayed h hnight).2]
      exact List.mem_map_of_mem hdeath
    obtain ⟨record, hrecord, hsame⟩ := List.mem_map.1 hkey
    have heffect := (List.mem_filter.1 (List.mem_filter.1 hrecord).1).2
    exact Prod.ext rfl ((congrArg Prod.snd hsame).symm.trans (eq_of_beq heffect))
  have hkeys := knownPoisons_nodup queue
  rw [← (resolve_delayed h hnight).2, List.map_congr_left hall] at hkeys
  rwa [List.map_map]

/-- Who dies of poison was alive before the night, and is not after it. -/
theorem poisonKills_die (h : resolve input = .ok out) (hnight : input.state.phaseId.kind = .night)
    (queue : QueueOk input.state) {slot : SlotId}
    (hkilled : slot ∈ poisonKills (out.applied.events.map (·.event))) :
    Living input.state slot ∧ slot ∈ killedSlots (out.applied.events.map (·.event)) := by
  obtain ⟨death, hdeath, houtcome, rfl⟩ := mem_poisonKills.1 hkilled
  have hkey : death.key ∈ knownPoisons input := by
    rw [← (resolve_delayed h hnight).2]
    exact List.mem_map_of_mem hdeath
  obtain ⟨record, hmem, hsame⟩ := List.mem_map.1 hkey
  obtain ⟨hrecord, heffect⟩ := List.mem_filter.1 (List.mem_filter.1 hmem).1
  obtain ⟨slot, before, outcome, after, hsettled⟩ :=
    poison_settled h hnight queue hrecord (eq_of_beq heffect)
  -- The record settled is that of the death.
  have hfound : death ∈ ((out.applied.events.map (·.event)).filterMap resolved?).filter
      (·.key = (record.target, record.effect)) :=
    List.mem_filter.2 ⟨hdeath, by simp [hsame]⟩
  rw [hsettled.once] at hfound
  obtain rfl := List.mem_singleton.1 hfound
  obtain ⟨attackers, unstoppable, deathReveal, rest, hafter⟩ := hsettled.killed houtcome
  obtain ⟨hslot, hid⟩ := slot?_some hsettled.target
  refine ⟨⟨slot, hslot, hid, (hsettled.applied.1 houtcome).alive⟩, ?_⟩
  refine List.mem_filterMap.2 ⟨.playerKilled record.target record.cause attackers unstoppable
    deathReveal, ?_, rfl⟩
  rw [hsettled.split, hafter]
  simp

end Night

/-! ## A game -/

section Game

variable {input : ResolutionInput F} {out : ResolutionOutput F} {state next : StateSnapshot F}
  {kills : List SlotId}

/-- Either resolution ends well. -/
def Resolves (input : ResolutionInput F) (out : ResolutionOutput F) : Prop :=
  resolve input = .ok out ∨ resolveInstant input = .ok out

/-- A later snapshot that keeps the queue and the slots, and in which no dead slot is alive again. -/
structure Follows (state next : StateSnapshot F) : Prop where
  delayedDeaths : next.delayedDeaths = state.delayedDeaths
  distinct : DistinctSlots next
  known : ∀ slot, Known state slot → Known next slot
  living : ∀ slot, Known state slot → Living next slot → Living state slot

/-- A game: resolutions of any phase, each on a snapshot that follows the last one, and the slots they
let die of poison. -/
inductive Game : StateSnapshot F → List SlotId → Prop where
  | start {state : StateSnapshot F} (distinct : DistinctSlots state)
      (fresh : state.delayedDeaths = []) : Game state []
  | follow {state next : StateSnapshot F} {kills : List SlotId} (game : Game state kills)
      (follows : Follows state next) : Game next kills
  | resolve {input : ResolutionInput F} {out : ResolutionOutput F} {kills : List SlotId}
      (game : Game input.state kills)
      (known : input.state.phaseId.kind = .night → SubmissionsKnown input)
      (resolves : Resolves input out) :
      Game out.postState (kills ++ poisonKills (out.applied.events.map (·.event)))

theorem finalizeResolution_postState {inner : InnerResolution F}
    (h : finalizeResolution input inner = .ok out) :
    out.postState = applyEvents input.state (out.applied.events.map (·.event)) := by
  unfold finalizeResolution at h
  split at h
  · cases h
  · dsimp only at h
    split at h
    · cases h
    · split at h
      · cases h
      · obtain rfl := Except.ok.inj h
        rw [wrapResolution_events]

/-- What ends well is a night's resolution, or it says nothing of delayed deaths. -/
theorem Resolves.cases (h : Resolves input out) :
    out.postState = applyEvents input.state (out.applied.events.map (·.event)) ∧
      ((input.state.phaseId.kind = .night ∧ resolve input = .ok out) ∨
        (out.applied.events.map (·.event)).filterMap queued? = [] ∧
          (out.applied.events.map (·.event)).filterMap resolved? = []) := by
  have hquiet : ∀ inner : InnerResolution F, Trail input [] [] inner.events →
      finalizeResolution input inner = .ok out →
      (out.applied.events.map (·.event)).filterMap queued? = [] ∧
        (out.applied.events.map (·.event)).filterMap resolved? = [] := by
    intro inner htrail hfinal
    obtain ⟨notes, hevents⟩ := finalizeResolution_events hfinal
    have hall := finalEvents_trail hevents
    exact ⟨hall.queued.trans htrail.queued, hall.resolved.trans htrail.resolved⟩
  rcases h with h | h
  · have hresolve := h
    unfold resolve at h
    split at h
    · cases h
    · refine ⟨finalizeResolution_postState h, ?_⟩
      by_cases hnight : input.state.phaseId.kind = .night
      · exact .inl ⟨hnight, hresolve⟩
      · exact .inr (hquiet _ (resolveInner_trail hnight) h)
  · unfold resolveInstant at h
    split at h
    · cases h
    · exact ⟨finalizeResolution_postState h, .inr (hquiet _ (selfDestructPhase_trail _) h)⟩

/-- What a game keeps: its queue, and that nobody who died of poison is alive. -/
structure GameOk (state : StateSnapshot F) (kills : List SlotId) : Prop where
  queue : QueueOk state
  once : kills.Nodup
  dead : ∀ slot ∈ kills, Known state slot ∧ ¬ Living state slot

section

omit [Float64 F]

theorem GameOk.follow (h : GameOk state kills) (follows : Follows state next) : GameOk next kills where
  queue := by
    refine ⟨follows.distinct, ?_, fun record hrecord => ?_⟩
    · rw [follows.delayedDeaths]
      exact h.queue.keys
    · rw [follows.delayedDeaths] at hrecord
      exact follows.known _ (h.queue.known record hrecord)
  once := h.once
  dead slot hslot := by
    obtain ⟨hknown, hdead⟩ := h.dead slot hslot
    exact ⟨follows.known slot hknown, fun hliving => hdead (follows.living slot hknown hliving)⟩

theorem GameOk.applyEvents (h : GameOk state kills) {events : List (InnerEvent F)}
    (hqueued : ∀ record ∈ events.filterMap queued?, Known state record.target) :
    GameOk (applyEvents state events) kills where
  queue := h.queue.applyEvents hqueued
  once := h.once
  dead slot hslot := by
    obtain ⟨hknown, hdead⟩ := h.dead slot hslot
    exact ⟨hknown.applyEvents events, fun hliving => hdead hliving.of_applyEvents⟩

theorem known_of_living {slot : SlotId} (h : Living state slot) : Known state slot := by
  obtain ⟨found, hmem, rfl, -⟩ := h
  exact known_iff.2 (List.mem_map_of_mem hmem)

end

theorem GameOk.night (h : GameOk input.state kills) (known : SubmissionsKnown input)
    (hnight : input.state.phaseId.kind = .night) (hresolve : resolve input = .ok out) :
    GameOk (Domain.applyEvents input.state (out.applied.events.map (·.event)))
      (kills ++ poisonKills (out.applied.events.map (·.event))) := by
  have hqueued : ∀ record ∈ (out.applied.events.map (·.event)).filterMap queued?,
      Known input.state record.target := by
    rw [(resolve_delayed hresolve hnight).1]
    exact nightStages_queued known
  have hafter := h.applyEvents hqueued
  refine ⟨hafter.queue, ?_, fun slot hslot => ?_⟩
  · refine List.nodup_append.2 ⟨h.once, poisonKills_nodup hresolve hnight h.queue, ?_⟩
    rintro slot hbefore _ hnow rfl
    exact (h.dead slot hbefore).2 (poisonKills_die hresolve hnight h.queue hnow).1
  · rcases List.mem_append.1 hslot with hbefore | hnow
    · exact hafter.dead slot hbefore
    · obtain ⟨hliving, hkilled⟩ := poisonKills_die hresolve hnight h.queue hnow
      exact ⟨(known_of_living hliving).applyEvents _,
        fun halive => (living_applyEvents h.queue.distinct halive).2 hkilled⟩

theorem Game.ok (h : Game state kills) : GameOk state kills := by
  induction h with
  | start distinct fresh =>
    refine ⟨⟨distinct, ?_, fun record hrecord => ?_⟩, List.nodup_nil, nofun⟩
    · rw [fresh]
      exact List.nodup_nil
    · rw [fresh] at hrecord
      exact absurd hrecord List.not_mem_nil
  | follow _ follows ih => exact ih.follow follows
  | resolve _ known resolves ih =>
    obtain ⟨hpost, ⟨hnight, hresolve⟩ | ⟨hqueued, hresolved⟩⟩ := resolves.cases
    · rw [hpost]
      exact ih.night (known hnight) hnight hresolve
    · rw [hpost, poisonKills, hresolved, List.filter_nil, List.map_nil, List.append_nil]
      refine ih.applyEvents fun record hrecord => ?_
      rw [hqueued] at hrecord
      exact absurd hrecord List.not_mem_nil

end Game

/-! ## Two nights of a poisoner -/

/-- A pack with a poisoner. -/
def poisonerPack : Pack Rat :=
  { villagePack [] with
    roles := (((villagePack []).roles).insert "poisoner"
      { alignment := some "mafia"
        actions := [{ nightAction "poison" .mark 40 [] [] with effect := some "poisoned" }] }) }

/-- A night of a game with the poisoner `"p"`. -/
def poisonerVillage (state : StateSnapshot Rat) (submissions : List Submission) : ResolutionInput Rat :=
  village ⟨poisonerPack, [.mark], .of_plain (by decide) rfl rfl⟩ state submissions

/-- The first night: the poisoner poisons `"a"`. -/
def poisonNight : ResolutionInput Rat :=
  poisonerVillage
    { phaseId := .first .night
      slots := [townie "a", townie "b", townie "c", { goon "p" with roleKey := "poisoner" }] }
    [{ actionId := "1", actor := "p", templateId := "poison", targets := ["a"]
       phaseId := .first .night, submittedAt := 1 }]

/-- The night after it. -/
def nightAfterPoison (night : ResolutionOutput Rat) : ResolutionInput Rat :=
  poisonerVillage { night.postState with phaseId := .second .night } []

theorem nightAfterPoison_game {night : ResolutionOutput Rat} (h : resolve poisonNight = .ok night) :
    Game (nightAfterPoison night).state ([] ++ poisonKills (night.applied.events.map (·.event))) := by
  have hdistinct : DistinctSlots poisonNight.state := by
    unfold DistinctSlots
    decide
  have hknown : SubmissionsKnown poisonNight := by
    intro sub hsub
    obtain rfl := List.mem_singleton.1 hsub
    unfold Known
    decide
  have hgame : Game night.postState _ :=
    .resolve (.start hdistinct rfl) (fun _ => hknown) (.inl h)
  exact hgame.follow ⟨rfl, hgame.ok.queue.distinct, fun _ => id, fun _ _ => id⟩

end Fmarch.Resolver
