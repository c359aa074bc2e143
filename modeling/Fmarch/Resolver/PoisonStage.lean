import Fmarch.Resolver.ResolutionTrail

/-!
# The poison stage of a night

`apply_pending_poison` runs once, between the stages of a night and its cascades. It says of every queued
poison what becomes of it, and pushes the kill of one that falls due right behind. What comes after it may
merge attackers into that kill, but moves no event: `Begins` is a prefix up to such merges, and any run of
kills only extends it.

**`poison_split`**: in the events of a night's resolution each queued poison has its place, and its target is
killed there exactly if the poison falls due.
-/

namespace Fmarch.Resolver

open Fmarch.Domain Keyed

variable {F : Type} [Float64 F]

/-! ## Events that keep their place -/

/-- An event, less what a merge adds to a kill. -/
def bare : InnerEvent F → InnerEvent F
  | .playerKilled slot cause _ _ deathReveal => .playerKilled slot cause [] false deathReveal
  | event => event

/-- The events `after` begin with those `before`, but for merges. -/
def Begins (before after : List (InnerEvent F)) : Prop := before.map bare <+: after.map bare

namespace Begins

variable {before after last : List (InnerEvent F)}

section

omit [Float64 F]

theorem refl (events : List (InnerEvent F)) : Begins events events := List.prefix_refl _

theorem trans (h : Begins before after) (h' : Begins after last) : Begins before last :=
  List.IsPrefix.trans h h'

theorem append (before events : List (InnerEvent F)) : Begins before (before ++ events) := by
  unfold Begins
  rw [List.map_append]
  exact List.prefix_append _ _

theorem behind (h : Begins before after) (events : List (InnerEvent F)) :
    Begins (events ++ before) (events ++ after) := by
  unfold Begins
  rw [List.map_append, List.map_append]
  exact (List.prefix_append_right_inj _).2 h

theorem split {event : InnerEvent F} (h : Begins (before ++ event :: after) last) :
    ∃ earlier found later, last = earlier ++ found :: later ∧ earlier.map bare = before.map bare ∧
      bare found = bare event ∧ Begins after later := by
  obtain ⟨rest, hrest⟩ := h
  rw [List.map_append, List.append_assoc] at hrest
  obtain ⟨earlier, tail, rfl, hearlier, htail⟩ := List.map_eq_append_iff.1 hrest.symm
  obtain ⟨found, later, rfl, hfound, hlater⟩ := List.map_eq_cons_iff.1 htail
  exact ⟨earlier, found, later, rfl, hearlier, hfound, ⟨rest, hlater.symm⟩⟩

end

end Begins

section

omit [Float64 F]

theorem filterMap_of_bare {α : Type} {f : InnerEvent F → Option α}
    (hf : ∀ event, f (bare event) = f event) {events others : List (InnerEvent F)}
    (h : events.map bare = others.map bare) : events.filterMap f = others.filterMap f := by
  have hbare : ∀ list : List (InnerEvent F), (list.map bare).filterMap f = list.filterMap f := by
    intro list
    rw [List.filterMap_map]
    exact congrArg (list.filterMap ·) (funext hf)
  rw [← hbare events, h, hbare others]

theorem bare_mergeAttribution (attacker : SlotId) (unstoppable : Bool) (event : InnerEvent F) :
    bare (mergeAttribution attacker unstoppable event) = bare event := by
  cases event <;> rfl

end

/-- A run extends the events, but for merges. -/
theorem Deaths.Run.begins {input : ResolutionInput F} {Apart : InnerEvent F → Prop} {Ok Att : SlotId → Prop} {a b : Deaths F}
    (h : Deaths.Run input Apart Ok Att a b) :
    Begins a.events b.events := by
  refine Steps.preserved (fun d : Deaths F => Begins a.events d.events) (fun c d hstep hc => ?_) h
    (.refl _)
  cases hstep with
  | emit event pushed => exact hc.trans (.append _ _)
  | kill slot cause attackers unstoppable deathReveal records fresh ok heard logged =>
    exact hc.trans (.append _ _)
  | merge target attacker unstoppable records logged =>
    unfold Begins
    rw [map_updateFirst bare (bare_mergeAttribution attacker unstoppable)]
    exact hc
  | save saves => exact hc

/-! ## One queued poison -/

section Stage

variable {input : ResolutionInput F} {clearedEffects : List (SlotId × Tag)}
  {queued : DelayedDeathRecord} {slot : SlotState}

/-- The poison falls due: its target is alive, was not killed before, and still carries the effect. -/
structure Due (clearedEffects : List (SlotId × Tag)) (killed : List SlotId)
    (queued : DelayedDeathRecord) (slot : SlotState) : Prop where
  alive : slot.isAlive = true
  spared : queued.target ∉ killed
  poisoned : "poisoned" ∈ slot.effects
  uncleared : (queued.target, "poisoned") ∉ clearedEffects

/-- What is said of one queued poison, and whether its target is killed. -/
theorem pendingPoison_events (clearedEffects : List (SlotId × Tag))
    (hslot : input.state.slot? queued.target = some slot) (d : Deaths F) :
    ∃ outcome later, (pendingPoison input clearedEffects d queued).events =
        d.events ++ delayedDeathResolved input queued outcome :: later ∧
      ((Due clearedEffects d.killed queued slot ∧ outcome = "applied" ∧
          later = [.playerKilled queued.target queued.cause [] true
            (deathRevealMode input queued.target queued.cause)]) ∨
        ¬ Due clearedEffects d.killed queued slot ∧ outcome ≠ "applied" ∧ later = []) := by
  obtain ⟨-, hid⟩ := slot?_some hslot
  unfold pendingPoison
  rw [hslot]
  dsimp only
  rw [hid]
  split
  · rename_i hdead
    refine ⟨"target_already_dead", [], rfl, .inr ⟨fun hdue => ?_, by decide, rfl⟩⟩
    simp [hdue.alive, hdue.spared] at hdead
  · rename_i halive
    split
    · rename_i hcleared
      refine ⟨"preempted_by_clear", [], rfl, .inr ⟨fun hdue => ?_, by decide, rfl⟩⟩
      simp [hdue.poisoned, hdue.uncleared] at hcleared
    · rename_i huncleared
      refine ⟨"applied", _, List.append_assoc _ [_] [_], .inl ⟨?_, rfl, rfl⟩⟩
      simp only [Bool.or_eq_true, Bool.not_eq_true', not_or, Bool.not_eq_false,
        List.contains_eq_mem, decide_eq_true_eq] at halive huncleared
      exact ⟨by simpa using halive.1, halive.2, by simpa using huncleared.2, huncleared.1⟩

theorem pendingPoison_unknown (hslot : input.state.slot? queued.target = none) (d : Deaths F) :
    pendingPoison input clearedEffects d queued = d := by
  unfold pendingPoison
  rw [hslot]

/-- What of a delayed death is settled: whose it is, and by which effect. -/
def DeathResolved.key (death : DeathResolved) : SlotId × Tag := (death.target, death.effect)

/-- The poisons the stage looks at, by target and effect. -/
def knownPoisons (input : ResolutionInput F) : List (SlotId × Tag) :=
  ((input.state.delayedDeaths.filter (·.effect == "poisoned")).filter fun record =>
    (input.state.slot? record.target).isSome).map fun record => (record.target, record.effect)

/-- The stage settles each of them once, in their order. -/
theorem applyPendingPoison_resolved (clearedEffects : List (SlotId × Tag)) (d : Deaths F) :
    ((applyPendingPoison input clearedEffects d).events.filterMap resolved?).map DeathResolved.key =
      (d.events.filterMap resolved?).map DeathResolved.key ++ knownPoisons input := by
  unfold applyPendingPoison knownPoisons
  generalize input.state.delayedDeaths.filter (·.effect == "poisoned") = records
  induction records generalizing d with
  | nil => simp
  | cons record records ih =>
    rw [List.foldl_cons, ih]
    cases hslot : input.state.slot? record.target with
    | none => rw [pendingPoison_unknown hslot, List.filter_cons_of_neg (by simp [hslot])]
    | some slot =>
      obtain ⟨outcome, later, hevents, hdue⟩ :=
        pendingPoison_events clearedEffects hslot d
      have hlater : later.filterMap (resolved? (F := F)) = [] := by
        rcases hdue with ⟨-, -, rfl⟩ | ⟨-, -, rfl⟩ <;> rfl
      rw [List.filter_cons_of_pos (by simp [hslot]), hevents, List.filterMap_append,
        List.filterMap_cons, delayedDeathResolved]
      simp [resolved?, hlater, DeathResolved.key]

end Stage

/-! ## A night's resolution -/

section Night

variable {input : ResolutionInput F} {out : ResolutionOutput F}

/-- The poison stage of the night. -/
def poisonedNight (input : ResolutionInput F) : Deaths F :=
  applyPendingPoison input (nightStages input).clearedEffects (nightStages input).deaths

theorem nightStages_tracked (input : ResolutionInput F) :
    (nightStages input).deaths.Tracked AnySlot AnySlot :=
  (nightStages_run (aliveOk_any input) (nightOk_any input _)).run.tracked
    (nightStart_tracked input)

theorem nightDeaths_begins (input : ResolutionInput F) :
    Begins (poisonedNight input).events (nightDeaths input (nightStages input)).1.events :=
  (poisonedDeaths_run (aliveOk_any input) (fun _ => id) (triggersOk_any _)
    (nightStages_run (aliveOk_any input) (nightOk_any input _)).ok
    (nightStages_tracked input).toKnown).begins

theorem finalParts_begins (input : ResolutionInput F) :
    Begins (innerParts input).body ((finalParts input).events input) := by
  have htagged : Begins (innerParts input).body (taggedParts input).body := .append _ _
  have hbody : Begins (taggedParts input).body (finalParts input).body := by
    exact Parts.finished_of (motive := fun parts => Begins (taggedParts input).body parts.body) (.refl _)
      fun _ win => (winTriggers_run (fun _ => id) (triggersOk_any _) (fun _ _ => trivial)
        fun _ _ => trivial).begins
  exact (htagged.trans hbody).trans (.append _ _)

/-- What the poison stage pushes keeps its place among the events of the resolution. -/
theorem resolve_begins (h : resolve input = .ok out) (hnight : input.state.phaseId.kind = .night) :
    Begins (preamble input ++ (poisonedNight input).events) (out.applied.events.map (·.event)) := by
  have hphase : (phaseParts input).body = nightAftermath input (nightStages input).actions
      (nightDeaths input (nightStages input)).1 := by
    unfold phaseParts
    rw [hnight]
  have hafter : Begins (nightDeaths input (nightStages input)).1.events (phaseParts input).body := by
    rw [hphase]
    obtain ⟨later, hlater, -⟩ := nightAftermath_extends input (nightStages input).actions
      (nightDeaths input (nightStages input)).1
    rw [hlater]
    exact .append _ _
  rw [(resolve_events h).1]
  exact (((nightDeaths_begins input).trans hafter).behind (preamble input)).trans
    (finalParts_begins input)

/-- Nothing of a resolution but its night's stages queues delayed deaths, and nothing but its poison
stage settles them. -/
theorem resolve_delayed (h : resolve input = .ok out) (hnight : input.state.phaseId.kind = .night) :
    (out.applied.events.map (·.event)).filterMap queued? =
        (nightStages input).deaths.events.filterMap queued? ∧
      ((out.applied.events.map (·.event)).filterMap resolved?).map DeathResolved.key =
        knownPoisons input := by
  have hinner : (resolveInner input).events = preamble input ++ (resolveNight input).events := by
    unfold resolveInner resolvePhase
    rw [hnight]
    rfl
  have hfinal : ∃ notes, finalEvents input (resolveInner input) =
      some (out.applied.events.map (·.event), notes) := by
    unfold resolve at h
    split at h
    · cases h
    · exact finalizeResolution_events h
  obtain ⟨notes, hfinal⟩ := hfinal
  have hpreamble : ∀ event ∈ preamble input, Aside event :=
    fun event hevent => (remark_preamble input event hevent).aside
  have hnightTrail : Trail input (poisonedNight input).events
      _ (nightDeaths input (nightStages input)).1.events := nightDeaths_trail (nightStages input)
  have hlast : Trail input (poisonedNight input).events _ (resolveNight input).events :=
    (hnightTrail.trans (nightAftermath_trail _ _)).trans (.announce _)
  have hout := finalEvents_trail hfinal
  rw [hinner] at hout
  constructor
  · rw [hout.queued, List.filterMap_append, hlast.queued, poisonedNight, (applyPendingPoison_shows _ _).2,
      List.filterMap_eq_nil_iff.2 fun event hevent => (hpreamble event hevent).2.1, List.nil_append]
  · have hintake : (nightStart input).deaths.events.filterMap resolved? = [] :=
      List.filterMap_eq_nil_iff.2 fun event hevent =>
        (remark_prepareNightActions input event hevent).aside.2.2
    rw [hout.resolved, List.filterMap_append, hlast.resolved, poisonedNight, List.map_append,
      applyPendingPoison_resolved, (nightStages_trail input).resolved, hintake,
      List.filterMap_eq_nil_iff.2 fun event hevent => (hpreamble event hevent).2.2]
    rfl

omit [Float64 F] in
theorem bare_killedSlot? (event : InnerEvent F) : (bare event).killedSlot? = event.killedSlot? := by
  cases event <;> rfl

omit [Float64 F] in
theorem bare_queued? (event : InnerEvent F) : queued? (bare event) = queued? event := by
  cases event <;> rfl

theorem bare_delayedDeathResolved {record : DelayedDeathRecord} {outcome : String}
    {event : InnerEvent F} (h : bare event = bare (delayedDeathResolved input record outcome)) :
    event = delayedDeathResolved input record outcome := by
  cases event <;> first | exact h | cases h

omit [Float64 F] in
theorem bare_playerKilled {slot : SlotId} {cause : String} {attackers : List SlotId}
    {unstoppable : Bool} {deathReveal : DeathRevealMode} {event : InnerEvent F}
    (h : bare event = bare (.playerKilled slot cause attackers unstoppable deathReveal)) :
    ∃ attackers unstoppable, event = .playerKilled slot cause attackers unstoppable deathReveal := by
  cases event <;> cases h
  exact ⟨_, _, rfl⟩

/-- The stage on its way comes to a queued poison. -/
theorem poisonedNight_reaches {record : DelayedDeathRecord}
    (hrecord : record ∈ input.state.delayedDeaths) (heffect : record.effect = "poisoned") :
    ∃ d : Deaths F, killedSlots d.events = d.killed ∧
      d.events.filterMap queued? = (nightStages input).deaths.events.filterMap queued? ∧
      Begins (pendingPoison input (nightStages input).clearedEffects d record).events
        (poisonedNight input).events := by
  obtain ⟨earlier, later, hsplit⟩ := List.append_of_mem
    (List.mem_filter.2 ⟨hrecord, by simpa using heffect⟩ :
      record ∈ input.state.delayedDeaths.filter (·.effect == "poisoned"))
  have hrun : ∀ (records : List DelayedDeathRecord) (d : Deaths F),
      Deaths.Run input (fun event => (resolved? event).isSome = true) AnySlot AnySlot d
      (records.foldl (pendingPoison input (nightStages input).clearedEffects) d) :=
    fun records d => Steps.foldl
      (fun d queued _ => pendingPoison_run (aliveOk_any input) (fun _ => id) _ d queued) d
  refine ⟨earlier.foldl (pendingPoison input (nightStages input).clearedEffects)
    (nightStages input).deaths, ?_, ?_, ?_⟩
  · exact ((hrun earlier _).tracked (nightStages_tracked input)).slots
  · exact queued_of_run (hrun earlier _) fun event h => (of_resolved event h).2
  · unfold poisonedNight applyPendingPoison
    rw [hsplit, List.foldl_append, List.foldl_cons]
    exact (hrun later _).begins

/-- The place of a queued poison among the events of the resolution: nothing queues a delayed death behind
it, it is applied exactly if the poison falls due, and then the kill of its target follows. -/
theorem poison_split (h : resolve input = .ok out) (hnight : input.state.phaseId.kind = .night)
    {record : DelayedDeathRecord} (hrecord : record ∈ input.state.delayedDeaths)
    (heffect : record.effect = "poisoned") {slot : SlotState}
    (hslot : input.state.slot? record.target = some slot) :
    ∃ before outcome after, out.applied.events.map (·.event) =
        before ++ delayedDeathResolved input record outcome :: after ∧
      after.filterMap queued? = [] ∧
      (outcome = "applied" → ∃ attackers unstoppable deathReveal later, after =
        .playerKilled record.target record.cause attackers unstoppable deathReveal :: later) ∧
      (outcome = "applied" ↔ Due (nightStages input).clearedEffects (killedSlots before) record slot) := by
  obtain ⟨d, hkilled, hqueued, hbegins⟩ := poisonedNight_reaches hrecord heffect
  obtain ⟨outcome, later, hevents, hdue⟩ :=
    pendingPoison_events (nightStages input).clearedEffects hslot d
  have hall : Begins (preamble input ++ d.events ++ delayedDeathResolved input record outcome :: later)
      (out.applied.events.map (·.event)) := by
    have hplaced := (hbegins.behind (preamble input)).trans (resolve_begins h hnight)
    rw [hevents, ← List.append_assoc] at hplaced
    exact hplaced
  obtain ⟨before, found, after, hout, hbefore, hfound, hafter⟩ := hall.split
  obtain rfl := bare_delayedDeathResolved hfound
  have hslots : killedSlots before = d.killed := by
    have hpreamble := killedSlots_plain (plain_of_remarks (remark_preamble input))
    unfold killedSlots
    rw [filterMap_of_bare bare_killedSlot? hbefore, List.filterMap_append]
    exact (congrArg (· ++ _) hpreamble).trans hkilled
  refine ⟨before, outcome, after, hout, ?_, ?_⟩
  · have hpreamble : (preamble input).filterMap queued? = [] :=
      List.filterMap_eq_nil_iff.2 fun event hevent => (remark_preamble input event hevent).aside.2.1
    have hsame := (resolve_delayed h hnight).1
    rw [hout, List.filterMap_append, filterMap_of_bare bare_queued? hbefore, List.filterMap_append,
      hpreamble, List.nil_append, hqueued] at hsame
    exact List.append_right_eq_self.1 hsame
  · rw [hslots]
    rcases hdue with ⟨hdue, houtcome, rfl⟩ | ⟨hdue, houtcome, rfl⟩
    · refine ⟨fun _ => ?_, iff_of_true houtcome hdue⟩
      have hkilled : Begins ([] ++ [_]) after := hafter
      obtain ⟨earlier, kill, last, rfl, hearlier, hkill, -⟩ := hkilled.split
      obtain ⟨attackers, unstoppable, rfl⟩ := bare_playerKilled hkill
      obtain rfl := List.map_eq_nil_iff.1 hearlier
      exact ⟨attackers, unstoppable, _, last, rfl⟩
    · exact ⟨fun happlied => absurd happlied houtcome, iff_of_false houtcome hdue⟩

end Night

end Fmarch.Resolver
