import Fmarch.Resolver.OneDeath

/-!
# The deaths a resolution announces

The night and the twilight announce what their kill events say. The day keeps a list of its own, from
the kill records its cascades return, and a record is returned for a merge too: when a trigger strikes
a slot that already died, a pack that aggregates attackers merges the attribution into the kill event
and returns one more record. `restruckSlots` are the slots so struck, once for each merge.

**`announced_perm_iff`**: a resolution announces each of its kills once exactly when no trigger its
vote sets off strikes a slot that already died that day.
-/

namespace Fmarch.Resolver

open Fmarch.Domain Keyed StableSort

variable {F : Type} [Float64 F]

/-! ## Merges -/

/-- The actor and the target of the kill a trigger makes of an observation. -/
def triggeredKill (input : ResolutionInput F) (observation : TriggerObservation)
    (trigger : TriggerRule) : Option (SlotId × SlotId) :=
  if trigger.on != observation.on || !triggerParticipatesInFixpoint input.pack.document trigger then none
  else
    match input.state.slot? observation.target with
    | none => none
    | some targetSlot =>
      if !triggerObservationMatches trigger targetSlot (input.state.slot? observation.actor)
          observation then none
      else
        match producedActor observation trigger.produces.actor,
            producedTarget observation trigger.produces.target with
        | some actor, some target =>
          if trigger.produces.ability != .kill then none else some (actor, target)
        | _, _ => none

/-- The slot a trigger strikes again: it is dead already, and the pack merges the attribution. -/
def restruck (input : ResolutionInput F) (observation : TriggerObservation)
    (trigger : TriggerRule) (d : Deaths F) : List SlotId :=
  match triggeredKill input observation trigger with
  | none => []
  | some (_, target) =>
    if aggregatesKillAttackers input.pack.document &&
        (targetStateGateReason input.pack.document (targetTags input ∅ target) .kill).isNone &&
        d.killed.contains target then [target]
    else []

/-- The slots one round of day triggers strikes again. -/
def roundRestruck (input : ResolutionInput F) :
    List (TriggerObservation × TriggerRule) → Deaths F → List SlotId
  | [], _ => []
  | (observation, trigger) :: rest, d =>
    restruck input observation trigger d ++
      roundRestruck input rest (fireTrigger input ∅ ∅ observation d trigger)

/-- Each observation with each trigger of the pack, in the order of a round. -/
def roundFirings (input : ResolutionInput F) (frontier : List TriggerObservation) :
    List (TriggerObservation × TriggerRule) :=
  frontier.flatMap fun observation =>
    input.pack.document.triggers.map fun trigger => (observation, trigger)

/-- The slots a fixpoint of day triggers strikes again. -/
def fixpointRestruck (input : ResolutionInput F) : Nat → List TriggerObservation → Deaths F → List SlotId
  | _, [], _ => []
  | 0, _ :: _, _ => []
  | rounds + 1, observation :: frontier, d =>
    let (next, kills) := triggerRound input ∅ ∅ (observation :: frontier) d
    roundRestruck input (roundFirings input (observation :: frontier)) { d with log := [] } ++
      fixpointRestruck input rounds (kills.flatMap killObservations) next

/-! ## Balanced ledgers -/

section Ledgers

open Deaths Relation

variable {input : ResolutionInput F}

theorem perm_ledger {before between after logged logged' merged merged' : List SlotId}
    (h : (before ++ logged).Perm (between ++ merged))
    (h' : (between ++ logged').Perm (after ++ merged')) :
    (before ++ (logged ++ logged')).Perm (after ++ (merged ++ merged')) := by
  calc before ++ (logged ++ logged')
    _ = before ++ logged ++ logged' := by rw [List.append_assoc]
    List.Perm _ (between ++ merged ++ logged') := h.append_right _
    List.Perm _ (between ++ logged' ++ merged) := by
        rw [List.append_assoc, List.append_assoc]
        exact List.perm_append_comm.append_left _
    List.Perm _ (after ++ merged' ++ merged) := h'.append_right _
    List.Perm _ (after ++ (merged ++ merged')) := by
        rw [List.append_assoc]
        exact List.perm_append_comm.append_left _

/-- The kills logged between two states are those made between them, and `merged` besides. -/
def Balanced (a b : Deaths F) (merged : List SlotId) : Prop :=
  ∃ records, b.log = a.log ++ records ∧ (a.killed ++ records.map (·.target)).Perm (b.killed ++ merged)

namespace Balanced

variable {a b c : Deaths F} {merged merged' : List SlotId}

omit [Float64 F] in
theorem same (hlog : b.log = a.log) (hkilled : b.killed = a.killed) : Balanced a b [] :=
  ⟨[], by simp [hlog], by simp [hkilled]⟩

omit [Float64 F] in
theorem trans (h : Balanced a b merged) (h' : Balanced b c merged') : Balanced a c (merged ++ merged') := by
  obtain ⟨records, hlog, hperm⟩ := h
  obtain ⟨records', hlog', hperm'⟩ := h'
  refine ⟨records ++ records', by rw [hlog', hlog, List.append_assoc], ?_⟩
  rw [List.map_append]
  exact perm_ledger hperm hperm'

end Balanced

variable {d : Deaths F}

/-- A kill without protections is logged as it is made; a kill of the dead is logged again where the
pack merges it. -/
theorem resolveOneKill_balanced (action : KillAction) (hslots : killedSlots d.events = d.killed) :
    Balanced d (resolveOneKill input ∅ action d)
      (if aggregatesKillAttackers input.pack.document && d.killed.contains action.target then
        [action.target] else []) := by
  unfold resolveOneKill
  dsimp only
  split
  · rename_i hdead
    have hevent : d.events.any (killsSlot action.target) = true := by
      have hmem : action.target ∈ killedSlots d.events := by
        rw [hslots]
        simpa using hdead
      obtain ⟨event, hevent, hkilled⟩ := List.mem_filterMap.1 hmem
      exact List.any_eq_true.2 ⟨event, hevent, by simp [killsSlot, hkilled]⟩
    unfold stackKill mergeStackedKillAttribution
    rw [hdead, Bool.and_true, if_pos hevent]
    split
    · exact ⟨[_], rfl, List.Perm.refl _⟩
    · exact .same rfl rfl
  · rename_i hfresh
    have hnone : blockingSources input.pack.document ∅ action.target action.cause = [] := by
      simp [blockingSources]
    rw [hnone, if_neg (by simp), if_neg (by simpa using fun _ => by simpa using hfresh)]
    split
    · unfold saveBulletproof
      dsimp only
      split <;> exact .same rfl rfl
    · exact ⟨[_], rfl, by simp [Deaths.kill]⟩

/-- What a day trigger does: nothing but to say that it fired, or to strike. -/
theorem fireTrigger_cases (observation : TriggerObservation) (trigger : TriggerRule) (d : Deaths F) :
    (triggeredKill input observation trigger = none ∧ (fireTrigger input ∅ ∅ observation d trigger = d ∨
          ∃ event, fireTrigger input ∅ ∅ observation d trigger = d.emit event)) ∨
      ∃ actor target event, triggeredKill input observation trigger = some (actor, target) ∧
        event.killedSlot? = none ∧
        fireTrigger input ∅ ∅ observation d trigger = strike input ∅ ∅ actor trigger.id
            (generatedKillBypassesProtect input.pack.document trigger) target (d.emit event) := by
  unfold fireTrigger triggeredKill
  dsimp only
  split_ifs
  · exact .inl ⟨rfl, .inl rfl⟩
  -- whether the trigger kills or not, it fires on the same observations
  all_goals
    cases input.state.slot? observation.target with
    | none => exact .inl ⟨rfl, .inl rfl⟩
    | some targetSlot =>
      dsimp only
      split_ifs
      · exact .inl ⟨rfl, .inl rfl⟩
      · cases producedActor observation trigger.produces.actor with
        | none => exact .inl ⟨rfl, .inl rfl⟩
        | some actor =>
          cases producedTarget observation trigger.produces.target with
          | none => exact .inl ⟨rfl, .inl rfl⟩
          | some target =>
            first
              | exact .inl ⟨rfl, .inr ⟨_, rfl⟩⟩
              | exact .inr ⟨actor, target, _, rfl, rfl, rfl⟩

theorem fireTrigger_balanced (observation : TriggerObservation) (trigger : TriggerRule)
    (hslots : killedSlots d.events = d.killed) :
    Balanced d (fireTrigger input ∅ ∅ observation d trigger) (restruck input observation trigger d) := by
  unfold restruck
  rcases @fireTrigger_cases F _ input observation trigger d with
    ⟨hnone, hsame | ⟨event, hemitted⟩⟩ | ⟨actor, target, event, hkill, hevent, hstruck⟩
  · rw [hnone, hsame]
    exact .same rfl rfl
  · rw [hnone, hemitted]
    exact .same rfl rfl
  · have hemitted : Balanced d (d.emit event) [] := .same rfl rfl
    have hslots' : killedSlots (d.emit event).events = (d.emit event).killed := by
      simpa [Deaths.emit, killedSlots, hevent] using hslots
    rw [hkill, hstruck]
    dsimp only
    unfold strike
    dsimp only
    cases targetStateGateReason input.pack.document (targetTags input ∅ target) .kill with
    | some reason => simpa using hemitted
    | none =>
      simp only [Option.isSome_none, Option.isNone_none, Bool.and_true, Bool.false_eq_true, if_false]
      exact hemitted.trans (resolveOneKill_balanced _ hslots')

theorem fireTrigger_any (observation : TriggerObservation) {trigger : TriggerRule}
    (htrigger : trigger ∈ input.pack.document.triggers) (d : Deaths F) :
    Run input NoEvent AnySlot AnySlot d (fireTrigger input ∅ ∅ observation d trigger) :=
  fireTrigger_run protectionsOk_empty (triggersOk_any _) ⟨trivial, trivial⟩ htrigger d

/-- A round's firings, one after another. -/
def fireAll (input : ResolutionInput F) (firings : List (TriggerObservation × TriggerRule))
    (d : Deaths F) : Deaths F :=
  firings.foldl (fun d firing => fireTrigger input ∅ ∅ firing.1 d firing.2) d

theorem triggerRound_eq (frontier : List TriggerObservation) (d : Deaths F) :
    triggerRound input ∅ ∅ frontier d =
      ({ fireAll input (roundFirings input frontier) { d with log := [] } with log := d.log },
        (fireAll input (roundFirings input frontier) { d with log := [] }).log) := by
  have hfold : ∀ start : Deaths F, frontier.foldl
        (fun d observation =>
          input.pack.document.triggers.foldl (fireTrigger input ∅ ∅ observation) d) start =
        fireAll input (roundFirings input frontier) start := by
    intro start
    unfold fireAll roundFirings
    rw [List.foldl_flatMap]
    simp only [List.foldl_map]
  unfold triggerRound
  dsimp only
  rw [hfold]

theorem fireAll_balanced {firings : List (TriggerObservation × TriggerRule)}
    (htriggers : ∀ firing ∈ firings, firing.2 ∈ input.pack.document.triggers)
    (hslots : killedSlots d.events = d.killed) :
    Balanced d (fireAll input firings d) (roundRestruck input firings d) ∧
      Run input NoEvent AnySlot AnySlot d (fireAll input firings d) := by
  induction firings generalizing d with
  | nil => exact ⟨.same rfl rfl, .refl⟩
  | cons firing firings ih =>
    obtain ⟨observation, trigger⟩ := firing
    have hrun := fireTrigger_any observation (htriggers _ List.mem_cons_self) d
    obtain ⟨hrest, hrestRun⟩ :=
      ih (fun other hother => htriggers other (List.mem_cons_of_mem _ hother)) (hrun.slots hslots)
    exact ⟨(fireTrigger_balanced observation trigger hslots).trans hrest, hrun.trans hrestRun⟩

/-- The kills a day fixpoint produced are those it made, and those it merged besides. -/
theorem triggerLoop_balanced (rounds : Nat) (frontier : List TriggerObservation)
    (hslots : killedSlots d.events = d.killed) :
    let result := triggerLoop input ∅ ∅ none rounds frontier d
    (d.killed ++ result.2.1.map (·.target)).Perm
      (result.1.killed ++ fixpointRestruck input rounds frontier d) := by
  intro result
  induction rounds generalizing frontier d with
  | zero => cases frontier <;> simp [result, triggerLoop, fixpointRestruck]
  | succ rounds ih =>
    cases frontier with
    | nil => simp [result, triggerLoop, fixpointRestruck]
    | cons observation frontier =>
      have hfirings : ∀ firing ∈ roundFirings input (observation :: frontier),
          firing.2 ∈ input.pack.document.triggers := by
        intro firing hfiring
        obtain ⟨_, -, hmem⟩ := List.mem_flatMap.1 hfiring
        obtain ⟨trigger, htrigger, rfl⟩ := List.mem_map.1 hmem
        exact htrigger
      let start : Deaths F := { d with log := [] }
      let fired := fireAll input (roundFirings input (observation :: frontier)) start
      obtain ⟨⟨records, hlog, hperm⟩, hrun⟩ := fireAll_balanced hfirings (d := start) hslots
      have hlogged : fired.log = records := hlog
      have hnext := ih (records.flatMap killObservations) (d := { fired with log := d.log })
        (hrun.slots hslots)
      have hround : triggerRound input ∅ ∅ (observation :: frontier) d =
          ({ fired with log := d.log }, records) := by
        rw [triggerRound_eq, ← hlogged]
      simp only [result, triggerLoop, fixpointRestruck, hround, triggerCascade, List.append_nil,
        List.map_append]
      exact perm_ledger hperm hnext

/-! ## The cascades of a vote -/

/-- A retaliation never turns on the dead. -/
theorem chosenRetaliation_balanced (killedNow : List SlotId) (retaliation : RetaliationRecord)
    (hslots : killedSlots d.events = d.killed) :
    Balanced d (chosenRetaliation input ∅ killedNow d retaliation) [] ∧
      killedSlots (chosenRetaliation input ∅ killedNow d retaliation).events =
        (chosenRetaliation input ∅ killedNow d retaliation).killed := by
  have hnone : Balanced d d [] := .same rfl rfl
  unfold chosenRetaliation
  split
  · exact ⟨hnone, hslots⟩
  · rename_i hskip
    split
    · exact ⟨hnone, hslots⟩
    · split
      · exact ⟨hnone, hslots⟩
      · have hfresh : d.killed.contains retaliation.target = false := by
          simp only [Bool.or_eq_true, not_or, Bool.not_eq_true] at hskip
          exact hskip.2
        let action : KillAction :=
          { target := retaliation.target
            attacker := retaliation.actor
            cause := retaliation.sourceAction
            unstoppable :=
              chosenRetaliationBypassesProtect input.pack.document retaliation.sourceAction
            deathReveal := deathRevealMode input retaliation.target retaliation.sourceAction
            targetTags := targetTags input ∅ retaliation.target }
        have hkill : Balanced d (resolveOneKill input ∅ action d)
            (if aggregatesKillAttackers input.pack.document &&
              d.killed.contains action.target then [action.target] else []) :=
          resolveOneKill_balanced action hslots
        have hrun : Run input NoEvent AnySlot AnySlot d (resolveOneKill input ∅ action d) :=
          resolveOneKill_run input protectionsOk_empty rfl trivial trivial fun _ => trivial
        rw [show d.killed.contains action.target = false from hfresh, Bool.and_false] at hkill
        exact ⟨hkill, hrun.slots hslots⟩

theorem applyChosenRetaliations_balanced (hslots : killedSlots d.events = d.killed) :
    Balanced d (applyChosenRetaliations input ∅ d) [] ∧
      killedSlots (applyChosenRetaliations input ∅ d).events =
        (applyChosenRetaliations input ∅ d).killed := by
  refine Steps.foldl_inv
    (fun c : Deaths F => Balanced d c [] ∧ killedSlots c.events = c.killed)
    (fun c retaliation _ hc => ?_) ⟨.same rfl rfl, hslots⟩
  obtain ⟨hstep, hstepSlots⟩ := chosenRetaliation_balanced d.killed retaliation hc.2
  exact ⟨hc.1.trans hstep, hstepSlots⟩

theorem killed_stackKill (pack : Pack F) (target attacker : SlotId) (cause : String)
    (unstoppable : Bool) (d : Deaths F) :
    (stackKill pack target attacker cause unstoppable d).killed = d.killed := by
  unfold stackKill mergeStackedKillAttribution
  split
  · split <;> rfl
  · rfl

/-- The slots a suicide pass returns are those it killed. -/
def SuicidesListed (d : Deaths F) (state : Deaths F × List SlotId × List SlotId) : Prop :=
  state.1.killed = d.killed ++ state.2.2

theorem loverSuicide_listed (killedNow : List SlotId) (sourceDead : SlotId)
    {state : Deaths F × List SlotId × List SlotId} (slotId : SlotId)
    (h : SuicidesListed d state) :
    SuicidesListed d (loverSuicide input killedNow sourceDead state slotId) := by
  obtain ⟨current, recorded, generated⟩ := state
  unfold loverSuicide SuicidesListed at *
  dsimp only at *
  split
  · exact h
  · split
    · rw [killed_stackKill]
      exact h
    · simp only [Deaths.kill, h, List.append_assoc]

theorem loverLoop_listed (fuel : Nat)
    {state : Deaths F × List SlotId × List SlotId} (h : SuicidesListed d state) :
    SuicidesListed d (loverLoop input fuel state) := by
  induction fuel generalizing state with
  | zero => exact h
  | succ fuel ih =>
    have hpass : SuicidesListed d
        (input.state.linkedSlots.foldl (loverLink input state.1.killed) state) := by
      refine Steps.foldl_inv (SuicidesListed d) (fun next link _ hnext => ?_) h
      unfold loverLink
      split
      · exact hnext
      · exact Steps.foldl_inv (SuicidesListed d)
          (fun _ slotId _ hinner => loverSuicide_listed _ _ slotId hinner) hnext
    unfold loverLoop
    dsimp only
    split
    · exact hpass
    · exact ih hpass

theorem applyLoverSuicides_listed (d : Deaths F) :
    (applyLoverSuicides input d).1.killed = d.killed ++ (applyLoverSuicides input d).2 := by
  unfold applyLoverSuicides
  dsimp only
  split
  · simp
  · exact loverLoop_listed _ (by simp [SuicidesListed])

/-- The slots a vote's triggers strike again. -/
def voteRestruck (input : ResolutionInput F) (lynch : Lynch F) : List SlotId :=
  fixpointRestruck input input.pack.document.redirects.loopCap
    (lynch.frontier ++ phaseEndObservations input (lynch.deaths.map (·.slotId)))
    (lynchDeaths lynch)

/-- A vote announces its kills, and the slots struck again besides. -/
theorem voteCascades_announced {lynch : Lynch F} (h : LynchOk input lynch) :
    let result := voteCascades input lynch
    killedSlots result.1.events = result.1.killed ∧
      (result.2.1.map (·.slotId)).Perm (result.1.killed ++ voteRestruck input lynch) ∧
      ∀ slot ∈ voteRestruck input lynch, slot ∈ result.1.killed := by
  intro result
  let triggered := (voteTriggers input lynch).1
  let generated := (voteTriggers input lynch).2.1
  let logged : Deaths F := { triggered with log := triggered.log ++ generated }
  let retaliated := applyChosenRetaliations input ∅ logged
  have hslots : killedSlots (lynchDeaths lynch).events = (lynchDeaths lynch).killed := h.deaths
  obtain ⟨hrun, hlogged, hrest⟩ :=
    voteCascades_run (fun _ => id) (aliveOk_any input) (triggersOk_any _)
      (fun _ _ => ⟨trivial, trivial⟩) (lynchDeaths_known lynch)
  have hfixpoint : ((lynchDeaths lynch).killed ++ generated.map (·.target)).Perm
      (triggered.killed ++ voteRestruck input lynch) := triggerLoop_balanced _ _ hslots
  obtain ⟨⟨records, hlog, hretaliated⟩, -⟩ :=
    applyChosenRetaliations_balanced (d := logged) (hrun.slots hslots)
  have hsuicides : result.1.killed = retaliated.killed ++ (applyLoverSuicides input retaliated).2 :=
    applyLoverSuicides_listed retaliated
  refine ⟨hrest.slots (hrun.slots hslots), ?_, fun slot hslot => ?_⟩
  · have hannounced : result.2.1.map (·.slotId) = (lynchDeaths lynch).killed ++ (generated.map (·.target) ++
            (records.map (·.target) ++ (applyLoverSuicides input retaliated).2)) := by
      have hdrop : retaliated.log.drop logged.log.length = records := by
        rw [show retaliated.log = logged.log ++ records from hlog, List.drop_left]
      have hdeaths : result.2.1 = lynch.deaths ++ deathsFromRecords generated ++
            deathsFromRecords (retaliated.log.drop logged.log.length) ++
            (applyLoverSuicides input retaliated).2.map fun slotId =>
              ⟨slotId, input.pack.document.loverPolicy.suicideCause, none, none⟩ := rfl
      rw [hdeaths, hdrop]
      simp [deathsFromRecords, lynchDeaths, Function.comp_def]
    have hlast : (retaliated.killed ++ (applyLoverSuicides input retaliated).2).Perm
        (result.1.killed ++ []) := by
      rw [hsuicides, List.append_nil]
    rw [hannounced]
    simpa using perm_ledger hfixpoint (perm_ledger hretaliated hlast)
  · have hmem : slot ∈ (lynchDeaths lynch).killed ++ generated.map (·.target) :=
      hfixpoint.mem_iff.2 (List.mem_append_right _ hslot)
    refine hrest.killed_subset ?_
    rcases List.mem_append.1 hmem with hbefore | hproduced
    · exact hrun.killed_subset hbefore
    · obtain ⟨record, hrecord, rfl⟩ := List.mem_map.1 hproduced
      exact (hlogged.logged record (List.mem_append_right _ hrecord)).1

end Ledgers

/-! ## The announcement -/

section Announcement

variable {input : ResolutionInput F}

/-- The slots struck again though they died that day: none but in the triggers of a day's vote. -/
def restruckSlots (input : ResolutionInput F) : List SlotId :=
  match input.state.phaseId.kind with
  | .day =>
    voteRestruck input (voteLynch input (resolveBadgeActions input).1 (dayBeforeVote input)).2
  | .twilight | .night => []

theorem phaseAnnouncement_slots (input : ResolutionInput F) (deaths : List Death) :
    (phaseAnnouncement input deaths).deaths.map (·.slotId) = deaths.map (·.slotId) := by
  unfold phaseAnnouncement dayDeathAnnouncementMetadata
  dsimp only
  split
  · rw [List.map_map]
    refine List.map_congr_left fun death _ => ?_
    simp only [Function.comp_def]
    split <;> rfl
  · rfl

/-- A resolution announces its kills, and the slots struck again besides. -/
def AnnouncesKills (input : ResolutionInput F) (parts : Parts F) : Prop :=
  (parts.deaths.map (·.slotId)).Perm (killedSlots parts.body ++ restruckSlots input) ∧
    ∀ slot ∈ restruckSlots input, slot ∈ killedSlots parts.body

theorem phaseParts_announces (input : ResolutionInput F) : AnnouncesKills input (phaseParts input) := by
  unfold AnnouncesKills restruckSlots phaseParts
  cases input.state.phaseId.kind with
  | day =>
    have hlynch : LynchOk input
        (voteLynch input (resolveBadgeActions input).1 (dayBeforeVote input)).2 :=
      voteLynch_ok _ (told_dayBeforeVote input)
    obtain ⟨hslots, hannounced, hmem⟩ := voteCascades_announced hlynch
    dsimp only
    rw [(voteAftermath_extends input _).killedSlots, hslots]
    exact ⟨hannounced, hmem⟩
  | twilight => simp [deathsFromEvents_slots]
  | night => simp [deathsFromEvents_slots]

theorem taggedParts_announces (input : ResolutionInput F) : AnnouncesKills input (taggedParts input) := by
  unfold AnnouncesKills
  rw [killedSlots_taggedParts]
  exact phaseParts_announces input

/-- The deaths announced anew are those of the slots not announced yet. -/
theorem announceNewDeaths_slots {announced deaths : List Death} {old fresh : List SlotId}
    (hslots : deaths.map (·.slotId) = old ++ fresh)
    (hold : ∀ slot ∈ old, slot ∈ announced.map (·.slotId)) (hnodup : fresh.Nodup)
    (hfresh : ∀ slot ∈ fresh, slot ∉ announced.map (·.slotId)) :
    (announceNewDeaths announced deaths).map (·.slotId) = announced.map (·.slotId) ++ fresh := by
  induction deaths generalizing announced old fresh with
  | nil =>
    obtain ⟨-, rfl⟩ := List.append_eq_nil_iff.1 hslots.symm
    simp [announceNewDeaths]
  | cons death deaths ih =>
    have hany : announced.any (·.slotId == death.slotId) = true ↔
        death.slotId ∈ announced.map (·.slotId) := by
      rw [List.any_eq_true, List.mem_map]
      exact exists_congr fun _ => and_congr_right fun _ => beq_iff_eq
    unfold announceNewDeaths
    cases old with
    | cons slot old =>
      obtain ⟨hslot, hrest⟩ := List.cons.inj hslots
      have hdead : death.slotId ∈ announced.map (·.slotId) := by
        rw [show death.slotId = slot from hslot]
        exact hold slot List.mem_cons_self
      rw [if_pos (hany.2 hdead)]
      exact ih hrest (fun other hother => hold other (List.mem_cons_of_mem _ hother)) hnodup hfresh
    | nil =>
      cases fresh with
      | nil => cases hslots
      | cons slot fresh =>
        obtain ⟨hslot, hrest⟩ := List.cons.inj hslots
        have hnew : death.slotId ∉ announced.map (·.slotId) := by
          rw [show death.slotId = slot from hslot]
          exact hfresh slot List.mem_cons_self
        rw [if_neg fun hdead => hnew (hany.1 hdead)]
        have hgrown : (announced ++ [death]).map (·.slotId) = announced.map (·.slotId) ++ [slot] := by
          rw [List.map_append, ← hslot]
          rfl
        obtain ⟨hnotin, htail⟩ := List.nodup_cons.1 hnodup
        rw [@ih _ [] _ hrest (by simp) htail, hgrown, List.append_assoc]
        · rfl
        · intro other hother hmem
          rw [hgrown, List.mem_append, List.mem_singleton] at hmem
          rcases hmem with hannounced | rfl
          · exact hfresh other (List.mem_cons_of_mem _ hother) hannounced
          · exact hnotin hother

theorem wonParts_announces {parts : Parts F} (h : AnnouncesKills input parts)
    (win : AlignmentKey × String) : AnnouncesKills input (wonParts input win parts) := by
  obtain ⟨hperm, hmem⟩ := h
  have hrun : Deaths.Run input NoEvent AnySlot AnySlot _ (winTriggers input win.1 parts.body).1 :=
    winTriggers_run (fun _ => id) (triggersOk_any _) (fun _ _ => trivial) fun _ _ => trivial
  have hstart := deathsFromEvents_slots parts.body
  have hslots := hrun.slots hstart.symm
  obtain ⟨fresh, hgrown, hnodup, hnew⟩ := hrun.grows
  have hkilled : killedSlots (wonParts input win parts).body = killedSlots parts.body ++ fresh :=
    hslots.trans (hgrown.trans (congrArg (· ++ fresh) hstart))
  have hold : ∀ slot, slot ∈ parts.deaths.map (·.slotId) ↔ slot ∈ killedSlots parts.body := by
    intro slot
    rw [hperm.mem_iff, List.mem_append]
    exact ⟨fun hslot => hslot.elim id (hmem slot), .inl⟩
  have hannounced : (wonParts input win parts).deaths.map (·.slotId) =
      parts.deaths.map (·.slotId) ++ fresh := by
    rw [← phaseAnnouncement_slots input parts.deaths]
    refine @announceNewDeaths_slots _ _ (killedSlots parts.body) _ ?_ (fun slot hslot => ?_) hnodup
      fun slot hslot hdead => ?_
    · rw [deathsFromEvents_slots]
      exact hkilled
    · rw [phaseAnnouncement_slots]
      exact (hold slot).2 hslot
    · rw [phaseAnnouncement_slots] at hdead
      exact hnew slot hslot (hstart.symm ▸ (hold slot).1 hdead)
  refine ⟨?_, fun slot hslot => ?_⟩
  · rw [hannounced, hkilled, List.append_assoc]
    refine (hperm.append_right fresh).trans ?_
    rw [List.append_assoc]
    exact List.perm_append_comm.append_left _
  · rw [hkilled]
    exact List.mem_append_left _ (hmem slot hslot)

theorem finalParts_announces (input : ResolutionInput F) : AnnouncesKills input (finalParts input) := by
  have htagged := taggedParts_announces input
  exact Parts.finished_of (motive := AnnouncesKills input) htagged fun _ win => wonParts_announces htagged win

/-- The announcement of a resolution is the one of its parts. -/
theorem mem_announcement {parts : Parts F} (h : parts.Sorted) {announcement : PhaseAnnouncement} :
    .phaseAnnouncement announcement ∈ parts.events input ↔
      announcement = phaseAnnouncement input parts.deaths := by
  unfold Parts.events
  rw [List.mem_append, List.mem_cons]
  constructor
  · rintro (hbody | hannouncement | hwin)
    · exact absurd (h.body _ hbody).not_announcement (by simp [InnerEvent.isPhaseAnnouncement])
    · exact InnerEvent.phaseAnnouncement.inj hannouncement
    · exact absurd (h.wins _ hwin) (by simp [InnerEvent.isWinReached])
  · rintro rfl
    exact .inr (.inl rfl)

end Announcement

/-! ## A saint and a bomb -/

/-- A bomb that goes off on its killer. -/
def bombRetaliates : TriggerRule where
  id := "bomb_retaliates"
  on := .ability .kill
  ifTargetHas := ["bomb"]
  produces := { ability := .kill, actor := .target, target := .killer }

/-- A super-saint that kills the voter who got it lynched. -/
def superSaintRetaliates : TriggerRule where
  id := "super_saint_retaliates"
  on := .event .lynch
  ifTargetHas := ["super_saint"]
  produces := { ability := .kill, actor := .target, target := .actor }

/-- The causes of death of the saints' pack that a protection stops, and the one it does not. -/
def saintProtection : ProtectionCausePolicy where
  blocks := ["bomb_retaliates", "factional_kill", "super_saint_retaliates"]
  bypasses := ["strongman_kill"]

/-- How the saints' pack resolves its nights. -/
def saintNights : NightResolutionPolicy Rat where
  mode := .explicit
  killStacking := some .aggregateAttackers
  conflictFamilies :=
    [.blockSuppressesActions, .protectBlocksKills, .strongmanBypassesProtect, .killStacking,
      .interceptProtection, .cprProtection, .generatedKillReentry]
  blockActionIds := ["jail"]
  protectActionIds := ["doctor_protect", "jail"]
  killActionIds := ["factional_kill"]
  teamKillActionIds := ["factional_kill"]
  bodyguardActionIds := ["bodyguard"]
  martyrActionIds := ["martyr_protect"]
  cprActionIds := ["cpr_protect"]
  jailkeepActionIds := ["jail"]
  strongmanActionIds := ["strongman_kill"]
  strongmanBypassesProtect := true
  killCauseIds :=
    ["bomb_retaliates", "factional_kill", "strongman_kill", "super_saint_retaliates"]
  interceptCausePolicy := ((∅ : BTreeMap String String).insert "bodyguard"
    "bodyguard_intercept").insert "martyr_protect" "martyr_intercept"
  cprHarmCausePolicy := (∅ : BTreeMap String String).insert "cpr_protect" "cpr_protect"
  generatedKillCausePolicy := ((∅ : BTreeMap String GeneratedKillCausePolicy).insert "bomb_retaliates"
      { on := some (.ability .kill), actor := some .target, target := some .killer }).insert
    "super_saint_retaliates"
      { on := some (.event .lynch), actor := some .target, target := some .actor }
  triggerFixpointPolicy := ((∅ : BTreeMap String TriggerFixpointPolicy).insert "bomb_retaliates"
      { on := some (.ability .kill), producedKillReenters := true
        loopCap := some .redirectLoopCap, trace := true }).insert "super_saint_retaliates"
      { on := some (.event .lynch), producedKillReenters := true
        loopCap := some .redirectLoopCap, trace := true }
  protectionCausePolicy := ["bodyguard", "cpr_protect", "doctor_protect", "jail",
    "martyr_protect"].foldl (fun policies id => policies.insert id saintProtection) ∅
  suppressionPolicy := (∅ : BTreeMap String SuppressionPolicy).insert "jail"
    { scope := some .firstMatchingAction
      suppresses := ["bodyguard", "cpr_protect", "doctor_protect", "factional_kill", "jail",
        "martyr_protect", "strongman_kill"] }

/-- The roles of the saints' pack. -/
def saintRoles : List (RoleKey × Role Rat) :=
  let town : Role Rat := { alignment := some "town" }
  let mafia : Role Rat := { alignment := some "mafia" }
  [("bodyguard", { town with actions := [nightAction "bodyguard" .protect 70 [] [.bodyguard]] }),
    ("bomb", { town with effects := ["bomb"] }),
    ("cpr_doctor", { town with actions := [nightAction "cpr_protect" .protect 70 [.kill] [.cpr]] }),
    ("doctor", { town with actions := [nightAction "doctor_protect" .protect 70 [] []] }),
    ("goon", { mafia with actions := [nightAction "factional_kill" .kill 30 [] []] }),
    ("jailkeeper", { town with actions := [nightAction "jail" .block 90 [.protect] []] }),
    ("martyr", { town with actions := [nightAction "martyr_protect" .protect 70 [] [.martyr]] }),
    ("strongman", { mafia with actions := [nightAction "strongman_kill" .kill 30 [] [.strongman]] }),
    ("super_saint", { town with effects := ["super_saint"] }),
    ("townie", town)]

/-- A pack of super-saints and bombs that aggregates the attackers of a kill. -/
def saintPack : Pack Rat :=
  { villagePack [] with
    roles := saintRoles.foldl (fun roles entry => roles.insert entry.1 entry.2) ∅
    precedence :=
      [{ id := "block_stops_roleblockable", when := { effect := .block }
         beats := [.kill, .protect] },
        { id := "protect_beats_kill", when := { effect := .protect }, beats := [.kill]
          blockedBy := [.block], unlessModifiers := [.strongman] },
        { id := "kill_resolves", when := { effect := .kill }, blockedBy := [.block, .protect] }]
    triggers := [bombRetaliates, superSaintRetaliates]
    nightResolution := saintNights }

/-- A day that lynches the super-saint `"s"`, the last voter being `last`. -/
def lynchOfSaint (last : SlotId) : ResolutionInput Rat :=
  village ⟨saintPack, [.block, .protect, .kill], .of_plain (by decide) rfl rfl⟩
    { phaseId := firstDay
      slots :=
        [townie "a", { townie "b" with roleKey := "bomb", effects := ["bomb"] }, townie "c",
          townie "d", goon "g", { townie "s" with roleKey := "super_saint",
                                                  effects := ["super_saint"] }] }
    ((["a", "b", "c", "d"].erase last ++ [last]).zipIdx.map fun (voter, turn) =>
      { actionId := voter, actor := voter, templateId := "day_vote", targets := ["s"],
        phaseId := firstDay, submittedAt := turn })

end Fmarch.Resolver
