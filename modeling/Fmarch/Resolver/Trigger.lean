import Fmarch.Resolver.Runs

/-!
# Trigger fixpoint

`resolver/trigger.rs`: observations of what a resolution did so far are matched against the pack's
triggers; a matching trigger may produce a kill, and the kills of one round are the observations of
the next, for at most `redirects.loop_cap` rounds.

**`triggerLoop_run`**: the whole fixpoint is a run of the working state, whatever the pack's
triggers, as long as the slots observed are such that a kill trigger may turn on them.
-/

namespace Fmarch.Resolver

open Fmarch.Domain Keyed StableSort

variable {F : Type} [Float64 F]

/-! ## Observations -/

structure TriggerObservation where
  on : TriggerOn
  target : SlotId
  actor : SlotId
  cause : String
  targetTags : List String := []
  actorTags : List String := []

def killObservations (record : KillRecord) : List TriggerObservation :=
  [{ on := .ability .kill, target := record.target, actor := record.attacker,
     cause := record.cause },
   { on := .event .death, target := record.target, actor := record.attacker,
     cause := record.cause }]

def visitObservations (actions : List (Action F)) : List TriggerObservation :=
  (actions.filter (!·.blocked)).flatMap fun action =>
    action.targets.map fun target =>
      { on := .ability .visit, target, actor := action.sub.actor, cause := action.template.id }

def effectMarkedObservation (target actor : SlotId) (effect : Tag) (sourceAction : String) :
    TriggerObservation :=
  { on := .event .effectMarked, target, actor, cause := sourceAction, targetTags := [effect] }

def phaseEndObservations (input : ResolutionInput F) (killed : List SlotId) : List TriggerObservation :=
  (input.state.slots.filter fun slot => slot.isAlive && !killed.contains slot.slotId).map
    fun slot =>
      { on := .event .phaseEnd, target := slot.slotId, actor := slot.slotId,
        cause := "phase_end:" ++ input.phaseId.canonical }

def winObservations (state : StateSnapshot F) (winner : String) : List TriggerObservation :=
  (state.slots.filter (·.isAlive)).map fun slot =>
    { on := .event .win, target := slot.slotId, actor := slot.slotId, cause := "win:" ++ winner,
      targetTags := ["win", "winner:" ++ winner] }

def collectNightObservations (input : ResolutionInput F) (actions : List (Action F))
    (killLog : List KillRecord) (effectMarked : List TriggerObservation)
    (killed : List SlotId) : List TriggerObservation :=
  killLog.flatMap killObservations ++ visitObservations actions ++ effectMarked ++
    phaseEndObservations input killed

/-! ## Matching -/

/-- `night_resolution_generated_kill_bypasses_protect`. The validator requires the policy in
explicit mode; without one, where the source panics, nothing is bypassed here. -/
def generatedKillBypassesProtect (pack : Pack F) (trigger : TriggerRule) : Bool :=
  if pack.nightResolution.isExplicit then
    match pack.nightResolution.generatedKillCausePolicy[trigger.id]? with
    | some policy => policy.strongmanBypassesProtect
    | none => false
  else trigger.produces.modifiers.contains .strongman

/-- `night_resolution_trigger_participates_in_fixpoint`, with the same remark. -/
def triggerParticipatesInFixpoint (pack : Pack F) (trigger : TriggerRule) : Bool :=
  if trigger.produces.ability != .kill then true
  else if pack.nightResolution.isExplicit then
    match pack.nightResolution.triggerFixpointPolicy[trigger.id]? with
    | some policy => policy.producedKillReenters
    | none => false
  else true

/-- Some trigger of the pack kills within the fixpoint. -/
def killTriggers (pack : Pack F) : Bool :=
  pack.triggers.any fun trigger =>
    trigger.produces.ability == .kill && triggerParticipatesInFixpoint pack trigger

def triggerSlotHasTags (tags : List Tag) (slot : SlotState) (observationTags : List String) : Bool :=
  tags.all fun tag => slot.effects.contains tag || observationTags.contains tag

def triggerObservationMatches (trigger : TriggerRule) (targetSlot : SlotState)
    (actorSlot : Option SlotState) (observation : TriggerObservation) : Bool :=
  if !triggerSlotHasTags trigger.ifTargetHas targetSlot observation.targetTags then false
  else if trigger.ifActorHas.isEmpty then true
  else
    match actorSlot with
    | some slot => triggerSlotHasTags trigger.ifActorHas slot observation.actorTags
    | none => false

/-- The name of an ability in `trigger_on_label`. -/
def abilityLabel : IrAbility → String
  | .kill => "Kill"
  | .protect => "Protect"
  | .block => "Block"
  | .redirect => "Redirect"
  | .investigate => "Investigate"
  | .convert => "Convert"
  | .mark => "Mark"
  | .clear => "Clear"
  | .grant => "Grant"
  | .link => "Link"
  | .retaliate => "Retaliate"
  | .badge => "Badge"
  | .duel => "Duel"
  | .itaShot => "ItaShot"
  | .selfDestruct => "SelfDestruct"
  | .visit => "Visit"
  | .revealTown => "RevealTown"
  | .voteDuel => "VoteDuel"
  | .veto => "Veto"
  | .info => "Info"

def triggerOnLabel : TriggerOn → String
  | .ability ability => abilityLabel ability
  | .event .visit => "Visit"
  | .event .lynch => "Lynch"
  | .event .death => "Death"
  | .event .effectMarked => "EffectMarked"
  | .event .phaseEnd => "PhaseEnd"
  | .event .win => "Win"

/-- The actor a production names. -/
def producedActor (observation : TriggerObservation) : ActorRef → Option SlotId
  | .target => some observation.target
  | .actor => some observation.actor
  | .targetGuard | .other => none

/-- The target a production names. -/
def producedTarget (observation : TriggerObservation) : TargetRef → Option SlotId
  | .killer | .actor => some observation.actor
  | .target => some observation.target
  | .other => none

/-! ## The fixpoint -/

/-- The body of the two inner loops of `apply_trigger_fixpoint`: one trigger on one observation. -/
def fireTrigger (input : ResolutionInput F) (protections : Protections)
    (transientEffects : BTreeMap SlotId (BTreeSet String)) (observation : TriggerObservation)
    (d : Deaths F) (trigger : TriggerRule) : Deaths F :=
  let pack := input.pack.document
  if trigger.on != observation.on || !triggerParticipatesInFixpoint pack trigger then d
  else
    match input.state.slot? observation.target with
    | none => d
    | some targetSlot =>
      if !triggerObservationMatches trigger targetSlot (input.state.slot? observation.actor)
          observation then d
      else
        match producedActor observation trigger.produces.actor,
            producedTarget observation trigger.produces.target with
        | some producedActor, some producedTarget =>
          let d := d.emit (.trigger trigger.id
            { on := triggerOnLabel observation.on
              sourceTarget := observation.target
              sourceActor := observation.actor
              sourceCause := observation.cause
              producedActor
              producedTarget
              actorFilter := trigger.ifActorHas })
          if trigger.produces.ability != .kill then d
          else
            strike input protections transientEffects producedActor trigger.id
              (generatedKillBypassesProtect pack trigger) producedTarget d
        | _, _ => d

/-- One round: the state and `next_kills`, which is a log of its own. -/
def triggerRound (input : ResolutionInput F) (protections : Protections)
    (transientEffects : BTreeMap SlotId (BTreeSet String)) (frontier : List TriggerObservation)
    (d : Deaths F) : Deaths F × List KillRecord :=
  let round := frontier.foldl
    (fun d observation =>
      input.pack.document.triggers.foldl (fireTrigger input protections transientEffects observation) d)
    { d with log := [] }
  ({ round with log := d.log }, round.log)

/-- `TriggerCascadeContext`: the guard and the hide dependencies. -/
abbrev TriggerCascade := List DeathDependency × List DeathDependency

/-- The night-only dependency deaths between two rounds, and the kills they add. -/
def triggerCascade (input : ResolutionInput F) (cascade : Option TriggerCascade)
    (d : Deaths F) : Deaths F × List KillRecord :=
  match cascade with
  | none => (d, [])
  | some (guards, hides) =>
    let (d, guardKills) := applyGuardDependencyDeaths input guards d
    let (d, hideKills) := applyHideDependencyDeaths input hides d
    (d, guardKills ++ hideKills)

/-- The loop of `apply_trigger_fixpoint`, with the rounds left: the state, `produced_kills` (which a
caller that asked for `FrontierOnly` ignores) and the notes. -/
def triggerLoop (input : ResolutionInput F) (protections : Protections)
    (transientEffects : BTreeMap SlotId (BTreeSet String)) (cascade : Option TriggerCascade) :
    Nat → List TriggerObservation → Deaths F → Deaths F × List KillRecord × List String
  | _, [], d => (d, [], [])
  | 0, _ :: _, d =>
    (d, [], ["trigger loop_cap (" ++ toString input.pack.document.redirects.loopCap ++
      ") reached; terminating trigger fixpoint"])
  | rounds + 1, observation :: frontier, d =>
    let (d, nextKills) :=
      triggerRound input protections transientEffects (observation :: frontier) d
    let (d, dependents) := triggerCascade input cascade d
    let (d, produced, notes) := triggerLoop input protections transientEffects cascade rounds
      ((nextKills ++ dependents).flatMap killObservations) d
    (d, nextKills ++ produced, notes)

def applyTriggerFixpoint (input : ResolutionInput F) (protections : Protections)
    (transientEffects : BTreeMap SlotId (BTreeSet String)) (cascade : Option TriggerCascade)
    (frontier : List TriggerObservation) (d : Deaths F) :
    Deaths F × List KillRecord × List String :=
  triggerLoop input protections transientEffects cascade input.pack.document.redirects.loopCap
    frontier d

/-! ## The fixpoint is a run -/

section Runs

open Deaths Relation

variable {Apart : InnerEvent F → Prop} {Ok Att : SlotId → Prop} {input : ResolutionInput F} {protections : Protections}
  {transientEffects : BTreeMap SlotId (BTreeSet String)}

/-- A kill trigger of the fixpoint may turn on every slot observed. -/
def TriggersOk (pack : Pack F) (Ok Att : SlotId → Prop) : Prop :=
  killTriggers pack = true → ∀ slot, Att slot → Ok slot

theorem triggersOk_any (pack : Pack F) : TriggersOk pack AnySlot AnySlot :=
  fun _ _ _ => trivial

theorem TriggersOk.of_mem {pack : Pack F} (h : TriggersOk pack Ok Att) {trigger : TriggerRule}
    (hmem : trigger ∈ pack.triggers) (hkill : trigger.produces.ability = .kill)
    (hfixpoint : triggerParticipatesInFixpoint pack trigger = true) (slot : SlotId)
    (hslot : Att slot) : Ok slot :=
  h (List.any_eq_true.2 ⟨trigger, hmem, by simp [hkill, hfixpoint]⟩) slot hslot

/-- The slots observed are `Att`. -/
def ObservationsOk (Att : SlotId → Prop) (frontier : List TriggerObservation) : Prop :=
  ∀ observation ∈ frontier, Att observation.target ∧ Att observation.actor

variable {observation : TriggerObservation} {d : Deaths F} {frontier : List TriggerObservation}
   {cascade : Option TriggerCascade}

theorem producedActor_att {ref : ActorRef} {slot : SlotId}
    (h : Att observation.target ∧ Att observation.actor)
    (hslot : producedActor observation ref = some slot) : Att slot := by
  cases ref with
  | target => obtain rfl := Option.some.inj hslot; exact h.1
  | actor => obtain rfl := Option.some.inj hslot; exact h.2
  | targetGuard | other => exact absurd hslot (by simp [producedActor])

theorem producedTarget_att {ref : TargetRef} {slot : SlotId}
    (h : Att observation.target ∧ Att observation.actor)
    (hslot : producedTarget observation ref = some slot) : Att slot := by
  cases ref with
  | target => obtain rfl := Option.some.inj hslot; exact h.1
  | actor | killer => obtain rfl := Option.some.inj hslot; exact h.2
  | other => exact absurd hslot (by simp [producedTarget])

theorem fireTrigger_run (hprotections : ProtectionsOk input.pack.document Apart Ok Att protections)
    (htriggers : TriggersOk input.pack.document Ok Att)
    (hobservation : Att observation.target ∧ Att observation.actor) {trigger : TriggerRule}
    (htrigger : trigger ∈ input.pack.document.triggers) (d : Deaths F) :
    Run input Apart Ok Att d (fireTrigger input protections transientEffects observation d trigger) := by
  unfold fireTrigger
  dsimp only
  split
  · exact .refl
  · rename_i hskip
    split
    · exact .refl
    · split
      · exact .refl
      · split
        · rename_i actor target hactor htarget
          split
          · exact Run.emit d (by exact trivial)
          · rename_i hkill
            have hfixpoint : trigger.on = observation.on ∧
                triggerParticipatesInFixpoint input.pack.document trigger = true := by
              simpa using hskip
            have hok := htriggers.of_mem htrigger (by simpa using hkill) hfixpoint.2
            have hactorAtt := producedActor_att hobservation hactor
            refine Relation.ReflTransGen.trans (Run.emit d ?_)
              (strike_run input hprotections (hok _ (producedTarget_att hobservation htarget))
                hactorAtt fun _ => hok _ hactorAtt)
            exact trivial
        · exact .refl

variable (transientEffects) in
theorem triggerRound_run (hprotections : ProtectionsOk input.pack.document Apart Ok Att protections)
    (htriggers : TriggersOk input.pack.document Ok Att) (hfrontier : ObservationsOk Att frontier)
    (hd : d.Known Ok Att) :
    let round := triggerRound input protections transientEffects frontier d
    Run input Apart Ok Att d round.1 ∧
      ∀ record ∈ round.2, record.target ∈ round.1.killed ∧ Att record.attacker := by
  intro round
  have hstart : ({ d with log := [] } : Deaths F).Known Ok Att :=
    { hd with logged := by simp }
  have hrun : Run input Apart Ok Att { d with log := [] } (frontier.foldl (fun d observation =>
        input.pack.document.triggers.foldl (fireTrigger input protections transientEffects observation) d)
      { d with log := [] }) := by
    refine Steps.foldl (fun b observation hobservation => ?_) _
    refine Steps.foldl (fun c trigger htrigger => ?_) b
    exact fireTrigger_run hprotections htriggers (hfrontier observation hobservation)
      htrigger c
  exact ⟨Deaths.Run.withLog hrun d.log, (Deaths.Run.known hrun hstart).logged⟩

theorem triggerCascade_run (okAtt : ∀ slot, Ok slot → Att slot) (cascade : Option TriggerCascade)
    (aliveOk : cascade.isSome = true → AliveOk input Ok) (hd : d.Known Ok Att) :
    let result := triggerCascade input cascade d
    Run input Apart Ok Att d result.1 ∧
      ∀ record ∈ result.2, record.target ∈ result.1.killed ∧ Att record.attacker := by
  intro result
  cases cascade with
  | none => exact ⟨.refl, fun record hrecord => absurd hrecord (List.not_mem_nil)⟩
  | some dependencies =>
    obtain ⟨guards, hides⟩ := dependencies
    have hguards : Run input Apart Ok Att d _ := dependencyDeaths_run okAtt (aliveOk rfl) guards hd.ok
    have hguarded := hguards.known hd
    have hhides : Run input Apart Ok Att _ _ := dependencyDeaths_run okAtt (aliveOk rfl) hides hguarded.ok
    refine ⟨hguards.trans hhides, fun record hrecord => ?_⟩
    rcases List.mem_append.1 hrecord with hguard | hhide
    · obtain ⟨htarget, hattacker⟩ :=
        hguarded.logged record (dependencyDeaths_logged guards d record hguard)
      exact ⟨hhides.killed_subset htarget, hattacker⟩
    · exact (hhides.known hguarded).logged record (dependencyDeaths_logged hides _ record hhide)

theorem killObservations_ok {records : List KillRecord}
    (h : ∀ record ∈ records, Att record.target ∧ Att record.attacker) :
    ObservationsOk Att (records.flatMap killObservations) := by
  intro observation hobservation
  obtain ⟨record, hrecord, hmem⟩ := List.mem_flatMap.1 hobservation
  simp only [killObservations, List.mem_cons, List.not_mem_nil, or_false] at hmem
  rcases hmem with rfl | rfl <;> exact h record hrecord

variable (transientEffects) in
/-- A round with its cascade is a run, its kills are of slots killed, and the next round may observe
them. -/
theorem triggerStep_run (okAtt : ∀ slot, Ok slot → Att slot)
    (hprotections : ProtectionsOk input.pack.document Apart Ok Att protections)
    (htriggers : TriggersOk input.pack.document Ok Att)
    (aliveOk : cascade.isSome = true → AliveOk input Ok) (hfrontier : ObservationsOk Att frontier)
    (hd : d.Known Ok Att) :
    let round := triggerRound input protections transientEffects frontier d
    let cascaded := triggerCascade input cascade round.1
    Run input Apart Ok Att d cascaded.1 ∧
      (∀ record ∈ round.2, record.target ∈ cascaded.1.killed ∧ Att record.attacker) ∧
      ObservationsOk Att ((round.2 ++ cascaded.2).flatMap killObservations) := by
  intro round cascaded
  obtain ⟨hround, hkills⟩ :=
    triggerRound_run transientEffects hprotections htriggers hfrontier hd
  have hrounded := hround.known hd
  obtain ⟨hcascade, hdependents⟩ := triggerCascade_run okAtt cascade aliveOk hrounded
  refine ⟨hround.trans hcascade, fun record hrecord => ?_, killObservations_ok fun record hrecord => ?_⟩
  · exact ⟨hcascade.killed_subset (hkills record hrecord).1, (hkills record hrecord).2⟩
  · rcases List.mem_append.1 hrecord with hkill | hdependent
    · obtain ⟨htarget, hattacker⟩ := hkills record hkill
      exact ⟨okAtt _ (hrounded.ok _ htarget), hattacker⟩
    · obtain ⟨htarget, hattacker⟩ := hdependents record hdependent
      exact ⟨okAtt _ ((hcascade.known hrounded).ok _ htarget), hattacker⟩

/-- The fixpoint is a run. -/
theorem triggerLoop_run (okAtt : ∀ slot, Ok slot → Att slot)
    (hprotections : ProtectionsOk input.pack.document Apart Ok Att protections)
    (htriggers : TriggersOk input.pack.document Ok Att)
    (aliveOk : cascade.isSome = true → AliveOk input Ok) (rounds : Nat)
    (hfrontier : ObservationsOk Att frontier) (hd : d.Known Ok Att) :
    Run input Apart Ok Att d (triggerLoop input protections transientEffects cascade rounds frontier d).1 := by
  induction rounds generalizing frontier d with
  | zero => cases frontier <;> exact .refl
  | succ rounds ih =>
    cases frontier with
    | nil => exact .refl
    | cons observation frontier =>
      obtain ⟨hstep, -, hnext⟩ :=
        triggerStep_run transientEffects okAtt hprotections htriggers aliveOk hfrontier hd
      exact hstep.trans (ih hnext (hstep.known hd))

/-- The kills the fixpoint produced are of slots killed by its end. -/
theorem triggerLoop_produced (okAtt : ∀ slot, Ok slot → Att slot)
    (hprotections : ProtectionsOk input.pack.document Apart Ok Att protections)
    (htriggers : TriggersOk input.pack.document Ok Att)
    (aliveOk : cascade.isSome = true → AliveOk input Ok) (rounds : Nat)
    (hfrontier : ObservationsOk Att frontier) (hd : d.Known Ok Att) :
    let result := triggerLoop input protections transientEffects cascade rounds frontier d
    ∀ record ∈ result.2.1, record.target ∈ result.1.killed ∧ Att record.attacker := by
  intro result
  induction rounds generalizing frontier d with
  | zero => cases frontier <;> exact fun record hrecord => absurd hrecord List.not_mem_nil
  | succ rounds ih =>
    cases frontier with
    | nil => exact fun record hrecord => absurd hrecord List.not_mem_nil
    | cons observation frontier =>
      obtain ⟨hstep, hkills, hnext⟩ :=
        triggerStep_run transientEffects okAtt hprotections htriggers aliveOk hfrontier hd
      have hstepped := hstep.known hd
      intro record hrecord
      rcases List.mem_append.1 hrecord with hkill | hproduced
      · obtain ⟨htarget, hattacker⟩ := hkills record hkill
        exact ⟨(triggerLoop_run okAtt hprotections htriggers aliveOk rounds hnext
          hstepped).killed_subset htarget, hattacker⟩
      · exact ih hnext hstepped record hproduced

theorem phaseEndObservations_ok (aliveAtt : AliveOk input Att) (killed : List SlotId) :
    ObservationsOk Att (phaseEndObservations input killed) := by
  intro observation hobservation
  obtain ⟨slot, hslot, rfl⟩ := List.mem_map.1 hobservation
  obtain ⟨hmem, halive⟩ := List.mem_filter.1 hslot
  have := aliveAtt slot hmem (Bool.and_eq_true_iff.1 halive).1
  exact ⟨this, this⟩

end Runs

end Fmarch.Resolver
