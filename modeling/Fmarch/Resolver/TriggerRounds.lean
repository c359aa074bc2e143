import Fmarch.Resolver.Announced
import Mathlib.Data.List.Dedup

/-!
# What the triggers observe (`resolver/trigger.rs`)

The kills of a round of the trigger fixpoint are what the next round observes. A pack that aggregates
attackers also records an attack on a slot that is dead already, and the guard and hide dependencies
record theirs once more after every round: such a record is observed as if it were a new death.

**`offersOnce_iff`**: a pack's triggers are offered every death at most once, and its fixpoint is only cut
off while a new death waits, whatever the state and the kill list, exactly if the pack does not aggregate
attackers and allows for at least one round.
-/

namespace Fmarch.Resolver

open Fmarch.Domain Keyed

variable {F : Type} [Float64 F]

/-! ## Rounds -/

/-- A round of the fixpoint with its cascade: the state and the kills the next round observes. -/
def triggerStep (input : ResolutionInput F) (protections : Protections)
    (transientEffects : BTreeMap SlotId (BTreeSet String)) (cascade : Option TriggerCascade)
    (frontier : List TriggerObservation) (d : Deaths F) : Deaths F × List KillRecord :=
  let (d, nextKills) := triggerRound input protections transientEffects frontier d
  let (d, dependents) := triggerCascade input cascade d
  (d, nextKills ++ dependents)

/-- The observations of every round that `apply_trigger_fixpoint` makes, and those that wait when it stops. -/
def triggerHistory (input : ResolutionInput F) (protections : Protections)
    (transientEffects : BTreeMap SlotId (BTreeSet String)) (cascade : Option TriggerCascade) :
    Nat → List TriggerObservation → Deaths F → List (List TriggerObservation) × List TriggerObservation
  | _, [], _ => ([], [])
  | 0, observation :: frontier, _ => ([], observation :: frontier)
  | rounds + 1, observation :: frontier, d =>
    let (d, kills) := triggerStep input protections transientEffects cascade (observation :: frontier) d
    let (made, waiting) := triggerHistory input protections transientEffects cascade rounds
      (kills.flatMap killObservations) d
    ((observation :: frontier) :: made, waiting)

/-- The fixpoint says that it was cut off exactly when observations wait. -/
theorem triggerLoop_notes (input : ResolutionInput F) (protections : Protections)
    (transientEffects : BTreeMap SlotId (BTreeSet String)) (cascade : Option TriggerCascade) (rounds : Nat)
    (frontier : List TriggerObservation) (d : Deaths F) :
    (triggerLoop input protections transientEffects cascade rounds frontier d).2.2 = [] ↔
      (triggerHistory input protections transientEffects cascade rounds frontier d).2 = [] := by
  induction rounds generalizing frontier d with
  | zero => cases frontier <;> simp [triggerLoop, triggerHistory]
  | succ rounds ih =>
    cases frontier with
    | nil => simp [triggerLoop, triggerHistory]
    | cons observation frontier => exact ih ..

/-! ## Deaths that are offered -/

/-- The observation is one of a kill or a death. -/
def TriggerObservation.isDeath (observation : TriggerObservation) : Bool :=
  observation.on == .ability .kill || observation.on == .event .death

/-- The observation is of this death. -/
def TriggerObservation.ofDeath (observation : TriggerObservation) (record : KillRecord) : Bool :=
  observation.isDeath && observation.target == record.target && observation.actor == record.attacker &&
    observation.cause == record.cause

/-- How often a trigger is offered a death. -/
def offers (trigger : TriggerRule) (record : KillRecord) (observations : List TriggerObservation) : Nat :=
  observations.countP fun observation => trigger.on == observation.on && observation.ofDeath record

/-- What the fixpoint is to do: offer a death to a trigger at most once, be cut off only while a new death
waits, and stop after a round that produces none. -/
structure OffersOnce (input : ResolutionInput F) (protections : Protections)
    (transientEffects : BTreeMap SlotId (BTreeSet String)) (cascade : Option TriggerCascade)
    (frontier : List TriggerObservation) (d : Deaths F) : Prop where
  once : ∀ trigger ∈ input.pack.document.triggers, ∀ record, offers trigger record
    (triggerHistory input protections transientEffects cascade input.pack.document.redirects.loopCap frontier
      d).1.flatten ≤ 1
  news : (applyTriggerFixpoint input protections transientEffects cascade frontier d).2.2 ≠ [] → ∃ record,
      (∃ observation ∈ (triggerHistory input protections transientEffects cascade
        input.pack.document.redirects.loopCap frontier d).2, observation.ofDeath record = true) ∧
      ∀ observation ∈ (triggerHistory input protections transientEffects cascade
        input.pack.document.redirects.loopCap frontier d).1.flatten, observation.ofDeath record = false
  idle : (∀ record ∈ (triggerStep input protections transientEffects cascade frontier d).2,
      ∃ observation ∈ frontier, observation.ofDeath record = true) →
    (triggerHistory input protections transientEffects cascade input.pack.document.redirects.loopCap frontier
      d).1.length ≤ 1 ∧
    (applyTriggerFixpoint input protections transientEffects cascade frontier d).2.2 = []

/-- A kill list: no kill twice, and every slot dead. -/
structure KillListOf (d : Deaths F) (kills : List KillRecord) : Prop where
  nodup : kills.Nodup
  dead : ∀ record ∈ kills, record.target ∈ d.killed

/-! ## Kills that land -/

/-- What a stage does that lands the kills `new`, each of a slot alive before. -/
structure Lands (a : Deaths F) (new : List KillRecord) (b : Deaths F) : Prop where
  log : b.log = a.log ++ new
  nodup : new.Nodup
  alive : ∀ record ∈ new, record.target ∉ a.killed
  dead : ∀ record ∈ new, record.target ∈ b.killed
  grows : a.killed ⊆ b.killed

section Lands

variable {a b c d : Deaths F} {new later : List KillRecord}

section

omit [Float64 F]

theorem Lands.refl (d : Deaths F) : Lands d [] d where
  log := by simp
  nodup := List.nodup_nil
  alive := by simp
  dead := by simp
  grows := List.Subset.refl _

theorem Lands.trans (h : Lands a new b) (h' : Lands b later c) : Lands a (new ++ later) c where
  log := by rw [h'.log, h.log, List.append_assoc]
  nodup := by
    refine List.nodup_append.2 ⟨h.nodup, h'.nodup, fun first hfirst second hsecond heq => ?_⟩
    exact h'.alive second hsecond (heq ▸ h.dead first hfirst)
  alive record hrecord := by
    rcases List.mem_append.1 hrecord with hnew | hlater
    · exact h.alive record hnew
    · exact fun hdead => h'.alive record hlater (h.grows hdead)
  dead record hrecord := by
    rcases List.mem_append.1 hrecord with hnew | hlater
    · exact h'.grows (h.dead record hnew)
    · exact h'.dead record hlater
  grows _ hslot := h'.grows (h.grows hslot)

theorem Lands.relog (h : Lands a new b) (log : List KillRecord) :
    Lands { a with log } new { b with log := log ++ new } :=
  ⟨rfl, h.nodup, h.alive, h.dead, h.grows⟩

theorem Lands.quiet (hkilled : b.killed = a.killed) (hlog : b.log = a.log) : Lands a [] b where
  log := by rw [hlog, List.append_nil]
  nodup := List.nodup_nil
  alive := by simp
  dead := by simp
  grows := hkilled ▸ List.Subset.refl _

theorem Lands.kill {slot attacker : SlotId} {cause : String} (attackers : List SlotId) (unstoppable : Bool)
    (deathReveal : DeathRevealMode) (halive : d.killed.contains slot = false) :
    Lands d [{ target := slot, attacker, cause }] (d.kill slot cause attackers unstoppable deathReveal
      [{ target := slot, attacker, cause }]) where
  log := rfl
  nodup := List.nodup_singleton _
  alive record hrecord := by
    obtain rfl := List.mem_singleton.1 hrecord
    simpa using halive
  dead record hrecord := by
    obtain rfl := List.mem_singleton.1 hrecord
    exact List.mem_append_right _ (List.mem_singleton_self _)
  grows := List.subset_append_left ..

theorem Lands.foldl {α : Type} {body : Deaths F → α → Deaths F} (h : ∀ d x, ∃ new, Lands d new (body d x))
    (xs : List α) (d : Deaths F) : ∃ new, Lands d new (xs.foldl body d) := by
  induction xs generalizing d with
  | nil => exact ⟨[], .refl d⟩
  | cons x xs ih =>
    obtain ⟨new, hnew⟩ := h d x
    obtain ⟨later, hlater⟩ := ih (body d x)
    exact ⟨new ++ later, hnew.trans hlater⟩

end

variable {input : ResolutionInput F} (hpack : aggregatesKillAttackers input.pack.document = false)

include hpack

theorem stackKill_eq (target attacker : SlotId) (cause : String) (unstoppable : Bool) (d : Deaths F) :
    stackKill input.pack.document target attacker cause unstoppable d = d := by
  unfold stackKill
  rw [hpack]
  rfl

theorem interceptKill_lands (attacker : SlotId) (d : Deaths F) (source : ProtectionSource) :
    ∃ new, Lands d new (interceptKill input attacker d source) := by
  unfold interceptKill
  cases source.interceptCause with
  | none => exact ⟨[], .refl d⟩
  | some cause =>
    dsimp only
    split
    · rw [stackKill_eq hpack]
      exact ⟨[], .refl d⟩
    · exact ⟨_, .kill _ _ _ (by simp_all)⟩

theorem guardRetaliation_lands (protections : Protections) (attacker : SlotId) (d : Deaths F)
    (source : ProtectionSource) : ∃ new, Lands d new (guardRetaliation input protections attacker d source) := by
  unfold guardRetaliation
  cases source.guardRetaliationCause with
  | none => exact ⟨[], .refl d⟩
  | some cause =>
    dsimp only
    split
    · rw [stackKill_eq hpack]
      exact ⟨[], .refl d⟩
    · split
      · exact ⟨[], .quiet rfl rfl⟩
      · exact ⟨_, .kill _ _ _ (by simp_all)⟩

theorem preventKill_lands (protections : Protections) (protectors : List ProtectionSource) (action : KillAction)
    (d : Deaths F) : ∃ new, Lands d new (preventKill input protections protectors action d) := by
  unfold preventKill
  obtain ⟨first, hfirst⟩ := Lands.foldl (interceptKill_lands hpack action.attacker) protectors
    (recordCprSaves protectors
      (d.emit (.playerSaved action.target ["protected"] (protectors.map (·.protector)))))
  obtain ⟨second, hsecond⟩ := Lands.foldl (guardRetaliation_lands hpack protections action.attacker) protectors
    (protectors.foldl (interceptKill input action.attacker) (recordCprSaves protectors
      (d.emit (.playerSaved action.target ["protected"] (protectors.map (·.protector))))))
  have hstart : Lands d [] (recordCprSaves protectors
      (d.emit (.playerSaved action.target ["protected"] (protectors.map (·.protector))))) := .quiet rfl rfl
  exact ⟨_, (hstart.trans hfirst).trans hsecond⟩

omit hpack in
theorem saveBulletproof_lands (action : KillAction) (reason : String) (d : Deaths F) :
    Lands d [] (saveBulletproof input action reason d) := by
  unfold saveBulletproof
  dsimp only
  split
  · exact .quiet rfl rfl
  · exact .quiet rfl rfl

theorem resolveOneKill_lands (protections : Protections) (action : KillAction) (d : Deaths F) :
    ∃ new, Lands d new (resolveOneKill input protections action d) := by
  unfold resolveOneKill
  dsimp only
  split
  · rw [stackKill_eq hpack]
    exact ⟨[], .refl d⟩
  · split
    · exact preventKill_lands hpack protections _ action d
    · split
      · exact ⟨[], saveBulletproof_lands action _ d⟩
      · exact ⟨_, .kill _ _ _ (by simp_all)⟩

theorem strike_lands (protections : Protections) (transientEffects : BTreeMap SlotId (BTreeSet String))
    (attacker : SlotId) (cause : String) (unstoppable : Bool) (target : SlotId) (d : Deaths F) :
    ∃ new, Lands d new (strike input protections transientEffects attacker cause unstoppable target d) := by
  unfold strike
  dsimp only
  split
  · exact ⟨[], .refl d⟩
  · exact resolveOneKill_lands hpack protections _ d

theorem fireTrigger_lands (protections : Protections) (transientEffects : BTreeMap SlotId (BTreeSet String))
    (observation : TriggerObservation) (d : Deaths F) (trigger : TriggerRule) :
    ∃ new, Lands d new (fireTrigger input protections transientEffects observation d trigger) := by
  unfold fireTrigger
  dsimp only
  split
  · exact ⟨[], .refl d⟩
  split
  · exact ⟨[], .refl d⟩
  split
  · exact ⟨[], .refl d⟩
  split
  · rename_i actor target _ _
    split
    · exact ⟨[], .quiet rfl rfl⟩
    · have hemit (event : InnerEvent F) : Lands d [] (d.emit event) := .quiet rfl rfl
      obtain ⟨new, hnew⟩ := strike_lands hpack protections transientEffects actor trigger.id
        (generatedKillBypassesProtect input.pack.document trigger) target (d.emit (.trigger trigger.id _))
      exact ⟨new, (hemit _).trans hnew⟩
  · exact ⟨[], .refl d⟩

/-- A dependency adds to the log what it adds to its records. -/
theorem dependencyDeath_lands (killedNow : List SlotId) (state : Deaths F × List KillRecord)
    (dependency : DeathDependency) :
    ∃ new, Lands state.1 new (dependencyDeath input killedNow state dependency).1 ∧
      (dependencyDeath input killedNow state dependency).2 = state.2 ++ new := by
  unfold dependencyDeath
  dsimp only
  split
  · exact ⟨[], .refl _, by simp⟩
  split
  · rw [hpack, if_neg (by simp)]
    exact ⟨[], .refl _, by simp⟩
  · exact ⟨_, .kill _ _ _ (by simp_all), rfl⟩

theorem dependencies_land (dependencies : List DeathDependency) (killedNow : List SlotId)
    (state : Deaths F × List KillRecord) :
    ∃ new, Lands state.1 new (dependencies.foldl (dependencyDeath input killedNow) state).1 ∧
      (dependencies.foldl (dependencyDeath input killedNow) state).2 = state.2 ++ new := by
  induction dependencies generalizing state with
  | nil => exact ⟨[], .refl _, by simp⟩
  | cons dependency dependencies ih =>
    obtain ⟨new, hnew, hrecords⟩ := dependencyDeath_lands hpack killedNow state dependency
    obtain ⟨later, hlater, hmore⟩ := ih (dependencyDeath input killedNow state dependency)
    refine ⟨new ++ later, hnew.trans hlater, ?_⟩
    rw [List.foldl_cons, hmore, hrecords, List.append_assoc]

theorem triggerRound_lands (protections : Protections) (transientEffects : BTreeMap SlotId (BTreeSet String))
    (frontier : List TriggerObservation) (d : Deaths F) :
    let round := triggerRound input protections transientEffects frontier d
    Lands { d with log := [] } round.2 { round.1 with log := round.2 } := by
  intro round
  obtain ⟨new, hnew⟩ := Lands.foldl (fun d observation =>
    Lands.foldl (fireTrigger_lands hpack protections transientEffects observation) input.pack.document.triggers d)
    frontier { d with log := [] }
  have hkills : round.2 = new := hnew.log
  rw [hkills]
  exact ⟨rfl, hnew.nodup, hnew.alive, hnew.dead, hnew.grows⟩

theorem triggerCascade_lands (cascade : Option TriggerCascade) (d : Deaths F) :
    Lands d (triggerCascade input cascade d).2 (triggerCascade input cascade d).1 := by
  cases cascade with
  | none => exact .refl d
  | some dependencies =>
    obtain ⟨guards, hides⟩ := dependencies
    obtain ⟨first, hfirst, hguards⟩ := dependencies_land hpack guards d.killed (d, [])
    obtain ⟨second, hsecond, hhides⟩ := dependencies_land hpack hides
      (applyGuardDependencyDeaths input guards d).1.killed ((applyGuardDependencyDeaths input guards d).1, [])
    have hrecords : (triggerCascade input (some (guards, hides)) d).2 = first ++ second :=
      congrArg₂ (· ++ ·) hguards hhides
    rw [hrecords]
    exact hfirst.trans hsecond

/-- The kills that a step of the fixpoint produces are new, and each its own. -/
theorem triggerStep_lands (protections : Protections) (transientEffects : BTreeMap SlotId (BTreeSet String))
    (cascade : Option TriggerCascade) (frontier : List TriggerObservation) (d : Deaths F) :
    let step := triggerStep input protections transientEffects cascade frontier d
    KillListOf step.1 step.2 ∧ (∀ record ∈ step.2, record.target ∉ d.killed) ∧ d.killed ⊆ step.1.killed := by
  intro step
  have hround := triggerRound_lands hpack protections transientEffects frontier d
  have hcascade := triggerCascade_lands hpack cascade (triggerRound input protections transientEffects frontier d).1
  have hstep := hround.trans (hcascade.relog _)
  exact ⟨⟨hstep.nodup, hstep.dead⟩, hstep.alive, hstep.grows⟩

end Lands

/-! ## Observations of kills -/

section Frontiers

variable {kills : List KillRecord} {frontier others : List TriggerObservation}

variable {observation : TriggerObservation}

theorem ofDeath_kill {kill record : KillRecord}
    (h : observation ∈ killObservations kill) : observation.ofDeath record = true ↔ record = kill := by
  simp only [killObservations, List.mem_cons, List.not_mem_nil, or_false] at h
  rcases h with rfl | rfl
  all_goals
    simp only [TriggerObservation.ofDeath, TriggerObservation.isDeath, Bool.and_eq_true, beq_iff_eq]
    constructor
    · rintro ⟨⟨⟨_, htarget⟩, hattacker⟩, hcause⟩
      cases record
      cases kill
      simp_all
    · rintro rfl
      simp

/-- A trigger is offered a kill as often as the kill is in the list. -/
theorem offers_kills_le (trigger : TriggerRule) (record : KillRecord) (kills : List KillRecord) :
    offers trigger record (kills.flatMap killObservations) ≤ kills.count record := by
  induction kills with
  | nil => simp [offers]
  | cons kill kills ih =>
    unfold offers at ih ⊢
    rw [List.flatMap_cons, List.countP_append, List.count_cons]
    by_cases hsame : kill = record
    · subst hsame
      have hpair : (killObservations kill).countP
          (fun observation => trigger.on == observation.on && observation.ofDeath kill) ≤ 1 := by
        unfold killObservations
        rw [List.countP_cons, List.countP_cons, List.countP_nil]
        by_cases hkill : trigger.on = .ability .kill
        · simp [hkill, TriggerObservation.ofDeath, TriggerObservation.isDeath]
        · simp only [beq_eq_false_iff_ne.2 hkill]
          split <;> simp
      rw [beq_self_eq_true, if_pos rfl]
      omega
    · have hnone : (killObservations kill).countP
          (fun observation => trigger.on == observation.on && observation.ofDeath record) = 0 := by
        refine List.countP_eq_zero.2 fun observation hobservation hoffered => hsame ?_
        exact ((ofDeath_kill hobservation).1 (Bool.and_eq_true_iff.1 hoffered).2).symm
      rw [beq_eq_false_iff_ne.2 hsame]
      simp only [Bool.false_eq_true, if_false]
      omega

/-- The deaths among some observations are those of a kill list. -/
structure FrontierOf (kills : List KillRecord) (frontier : List TriggerObservation) : Prop where
  offers_le : ∀ trigger record, offers trigger record frontier ≤ kills.count record
  known : ∀ observation ∈ frontier, ∀ record, observation.ofDeath record = true → record ∈ kills

theorem frontierOf_kills (hothers : ∀ observation ∈ others, observation.isDeath = false) :
    FrontierOf kills (kills.flatMap killObservations ++ others) where
  offers_le trigger record := by
    have hnone : offers trigger record others = 0 := by
      refine List.countP_eq_zero.2 fun observation hobservation hoffered => ?_
      unfold TriggerObservation.ofDeath at hoffered
      rw [hothers observation hobservation] at hoffered
      simp at hoffered
    have hkills := offers_kills_le trigger record kills
    unfold offers at hnone hkills ⊢
    rw [List.countP_append, hnone]
    exact hkills
  known observation hobservation record hof := by
    rcases List.mem_append.1 hobservation with hkill | hother
    · obtain ⟨kill, hmem, hin⟩ := List.mem_flatMap.1 hkill
      exact (ofDeath_kill hin).1 hof ▸ hmem
    · unfold TriggerObservation.ofDeath at hof
      rw [hothers observation hother] at hof
      simp at hof

theorem frontierOf_next (kills : List KillRecord) : FrontierOf kills (kills.flatMap killObservations) := by
  have h : FrontierOf kills (kills.flatMap killObservations ++ []) := frontierOf_kills (by simp)
  rwa [List.append_nil] at h

theorem exists_kill (h : kills.flatMap killObservations ≠ []) :
    ∃ record ∈ kills, ∃ observation ∈ kills.flatMap killObservations, observation.ofDeath record = true := by
  obtain ⟨observation, hobservation⟩ := List.exists_mem_of_ne_nil _ h
  obtain ⟨record, hrecord, hin⟩ := List.mem_flatMap.1 hobservation
  exact ⟨record, hrecord, observation, hobservation, (ofDeath_kill hin).2 rfl⟩

end Frontiers

/-! ## The history of the rounds -/

section History

variable {input : ResolutionInput F} {protections : Protections}
  {transientEffects : BTreeMap SlotId (BTreeSet String)} {cascade : Option TriggerCascade}

theorem triggerHistory_nil (rounds : Nat) (d : Deaths F) :
    triggerHistory input protections transientEffects cascade rounds [] d = ([], []) := by
  cases rounds <;> rfl

variable {d : Deaths F} {frontier : List TriggerObservation} {kills : List KillRecord}

/-- Without a round, everything waits. -/
theorem triggerHistory_waits {rounds : Nat}
    (h : (triggerHistory input protections transientEffects cascade rounds frontier d).1 = []) :
    (triggerHistory input protections transientEffects cascade rounds frontier d).2 = frontier := by
  cases frontier with
  | nil => rw [triggerHistory_nil]
  | cons observation frontier =>
    cases rounds with
    | zero => rfl
    | succ rounds => cases h

variable (hpack : aggregatesKillAttackers input.pack.document = false)

include hpack

/-- All deaths observed from some round on are of slots that were alive before it. -/
theorem history_alive (rounds : Nat) {killed : List SlotId}
    (hkills : ∀ record ∈ kills, record.target ∉ killed) (hkilled : killed ⊆ d.killed) :
    let history := triggerHistory input protections transientEffects cascade rounds
      (kills.flatMap killObservations) d
    ∀ observation ∈ history.1.flatten ++ history.2, ∀ record, observation.ofDeath record = true →
      record.target ∉ killed := by
  intro history observation hobservation record hof
  have hfrontier : observation ∈ kills.flatMap killObservations → record.target ∉ killed := fun hmem =>
    hkills record ((frontierOf_next kills).known observation hmem record hof)
  induction rounds generalizing kills d with
  | zero =>
    apply hfrontier
    cases hobservations : kills.flatMap killObservations with
    | nil =>
      simp only [history, hobservations, triggerHistory_nil] at hobservation
      cases hobservation
    | cons first rest =>
      simp only [history, hobservations, triggerHistory] at hobservation
      exact hobservation
  | succ rounds ih =>
    cases hobservations : kills.flatMap killObservations with
    | nil =>
      simp only [history, hobservations, triggerHistory_nil] at hobservation
      cases hobservation
    | cons first rest =>
      obtain ⟨-, halive, hgrows⟩ := triggerStep_lands hpack protections transientEffects cascade (first :: rest) d
      simp only [history, hobservations, triggerHistory, List.flatten_cons, List.append_assoc] at hobservation
      rcases List.mem_append.1 hobservation with hnow | hlater
      · exact hfrontier (hobservations ▸ hnow)
      · have hnext : ∀ next ∈ (triggerStep input protections transientEffects cascade (first :: rest) d).2,
            next.target ∉ killed := fun next hmem hdead => halive next hmem (hkilled hdead)
        exact ih hnext (fun slot hslot => hgrows (hkilled hslot)) hlater fun hmem =>
          hnext record ((frontierOf_next _).known observation hmem record hof)

/-- A death is offered to a trigger once. -/
theorem history_once (rounds : Nat) (hkills : KillListOf d kills)
    (hfrontier : FrontierOf kills frontier) (trigger : TriggerRule) (record : KillRecord) :
    offers trigger record
      (triggerHistory input protections transientEffects cascade rounds frontier d).1.flatten ≤ 1 := by
  induction rounds generalizing kills frontier d with
  | zero => cases frontier <;> exact Nat.zero_le _
  | succ rounds ih =>
    cases frontier with
    | nil => exact Nat.zero_le _
    | cons first rest =>
      obtain ⟨hnext, halive, hgrows⟩ :=
        triggerStep_lands hpack protections transientEffects cascade (first :: rest) d
      have hlater := ih hnext (frontierOf_next _)
      have hnow := hfrontier.offers_le trigger record
      have hsplit : offers trigger record (triggerHistory input protections transientEffects cascade (rounds + 1)
          (first :: rest) d).1.flatten = offers trigger record (first :: rest) + offers trigger record
            (triggerHistory input protections transientEffects cascade rounds
              ((triggerStep input protections transientEffects cascade (first :: rest) d).2.flatMap killObservations)
              (triggerStep input protections transientEffects cascade (first :: rest) d).1).1.flatten :=
        List.countP_append
      rw [hsplit]
      by_cases hmem : record ∈ kills
      · have hnone : offers trigger record (triggerHistory input protections transientEffects cascade rounds
            ((triggerStep input protections transientEffects cascade (first :: rest) d).2.flatMap killObservations)
            (triggerStep input protections transientEffects cascade (first :: rest) d).1).1.flatten = 0 := by
          refine List.countP_eq_zero.2 fun observation hobservation hoffered => ?_
          exact history_alive hpack rounds halive hgrows observation (List.mem_append_left _ hobservation) record
            (Bool.and_eq_true_iff.1 hoffered).2 (hkills.dead record hmem)
        have hcount := List.nodup_iff_count_le_one.1 hkills.nodup record
        omega
      · rw [List.count_eq_zero_of_not_mem hmem] at hnow
        omega

/-- The fixpoint is cut off only while a new death waits. -/
theorem history_news (rounds : Nat) (hkills : KillListOf d kills) (hfrontier : FrontierOf kills frontier) :
    let history := triggerHistory input protections transientEffects cascade rounds frontier d
    history.1 ≠ [] → history.2 ≠ [] →
      ∃ record, (∃ observation ∈ history.2, observation.ofDeath record = true) ∧
        ∀ observation ∈ history.1.flatten, observation.ofDeath record = false := by
  induction rounds generalizing kills frontier d with
  | zero => cases frontier <;> exact fun hmade => absurd rfl hmade
  | succ rounds ih =>
    cases frontier with
    | nil => exact fun hmade => absurd rfl hmade
    | cons first rest =>
      intro history _ hwaiting
      obtain ⟨hnext, halive, hgrows⟩ :=
        triggerStep_lands hpack protections transientEffects cascade (first :: rest) d
      let next := triggerStep input protections transientEffects cascade (first :: rest) d
      let later := triggerHistory input protections transientEffects cascade rounds
        (next.2.flatMap killObservations) next.1
      -- A slot that was alive before this round is not among those it observes.
      have hunobserved : ∀ record : KillRecord, record.target ∉ d.killed →
          ∀ observation ∈ first :: rest, observation.ofDeath record = false := by
        intro record hrecord observation hobservation
        rw [Bool.eq_false_iff]
        exact fun hof => hrecord (hkills.dead record (hfrontier.known observation hobservation record hof))
      by_cases hmade : later.1 = []
      · have hwaits : history.2 = next.2.flatMap killObservations := triggerHistory_waits hmade
        rw [hwaits] at hwaiting
        obtain ⟨record, hrecord, hobserved⟩ := exists_kill hwaiting
        refine ⟨record, hwaits ▸ hobserved, fun observation hobservation => ?_⟩
        have hflat : history.1.flatten = (first :: rest) ++ later.1.flatten := rfl
        rw [hflat, hmade, List.flatten_nil, List.append_nil] at hobservation
        exact hunobserved record (halive record hrecord) observation hobservation
      · obtain ⟨record, ⟨waiting, hmem, hof⟩, hnone⟩ := ih hnext (frontierOf_next _) hmade hwaiting
        have hrecord := history_alive hpack rounds halive hgrows waiting (List.mem_append_right _ hmem) record hof
        refine ⟨record, ⟨waiting, hmem, hof⟩, fun observation hobservation => ?_⟩
        rcases List.mem_append.1 hobservation with hnow | hlater
        · exact hunobserved record hrecord observation hnow
        · exact hnone observation hlater

/-- A round that produces nothing new is the last. -/
theorem history_idle {rounds : Nat} (hrounds : 0 < rounds) (hkills : KillListOf d kills)
    (hfrontier : FrontierOf kills frontier)
    (hold : ∀ record ∈ (triggerStep input protections transientEffects cascade frontier d).2, ∃ observation ∈ frontier, observation.ofDeath record = true) :
    let history := triggerHistory input protections transientEffects cascade rounds frontier d
    history.1.length ≤ 1 ∧ history.2 = [] := by
  intro history
  obtain ⟨rounds, rfl⟩ := Nat.exists_eq_succ_of_ne_zero hrounds.ne'
  cases frontier with
  | nil => exact ⟨Nat.zero_le _, rfl⟩
  | cons first rest =>
    obtain ⟨-, halive, -⟩ := triggerStep_lands hpack protections transientEffects cascade (first :: rest) d
    have hnone : (triggerStep input protections transientEffects cascade (first :: rest) d).2 = [] := by
      refine List.eq_nil_iff_forall_not_mem.2 fun record hrecord => ?_
      obtain ⟨observation, hobservation, hof⟩ := hold record hrecord
      exact halive record hrecord (hkills.dead record (hfrontier.known observation hobservation record hof))
    simp only [history, triggerHistory, hnone, List.flatMap_nil, triggerHistory_nil]
    exact ⟨Nat.le_refl 1, trivial⟩

/-- Without aggregation, the fixpoint offers every death once. -/
theorem offersOnce_of_not_aggregating (hcap : 0 < input.pack.document.redirects.loopCap)
    {others : List TriggerObservation} (hkills : KillListOf d kills)
    (hothers : ∀ observation ∈ others, observation.isDeath = false) :
    OffersOnce input protections transientEffects cascade (kills.flatMap killObservations ++ others) d := by
  have hfrontier : FrontierOf kills (kills.flatMap killObservations ++ others) := frontierOf_kills hothers
  have hnotes := triggerLoop_notes input protections transientEffects cascade input.pack.document.redirects.loopCap
    (kills.flatMap killObservations ++ others) d
  refine ⟨fun trigger _ record => history_once hpack _ hkills hfrontier trigger record, fun hcut => ?_,
    fun hold => ?_⟩
  · have hwaiting := fun hnone => hcut (hnotes.2 hnone)
    refine history_news hpack _ hkills hfrontier (fun hmade => ?_) hwaiting
    have hwaits := triggerHistory_waits hmade
    obtain ⟨rounds, hrounds⟩ := Nat.exists_eq_succ_of_ne_zero hcap.ne'
    rw [hrounds] at hmade hwaits hwaiting
    cases hobservations : kills.flatMap killObservations ++ others with
    | nil =>
      rw [hobservations] at hwaits
      exact hwaiting (by rw [hobservations]; exact hwaits)
    | cons first rest =>
      rw [hobservations] at hmade
      cases hmade
  · obtain ⟨hshort, hnone⟩ := history_idle hpack hcap hkills hfrontier hold
    exact ⟨hshort, hnotes.2 hnone⟩

end History

/-! ## A babysitter and a ward who are both dead -/

section Babysitting

variable (pack : ValidatedPack F)

/-- One of the two. -/
def Pair (slot : SlotId) : Prop := slot = "guard" ∨ slot = "ward"

/-- The night of the two. -/
def pairNight : ResolutionInput F where
  gameId := "village"
  phaseId := .first .night
  runId := "run"
  state := { phaseId := .first .night, slots := [townie "guard", townie "ward"] }
  submissions := []
  pack
  seed := 0
  logicalTime := 0

/-- The ward dies with the babysitter. -/
def pairDependency : DeathDependency := { host := "guard", dependent := "ward", cause := "babysitter" }

/-- The record of its death. -/
def pairRecord : KillRecord := { target := "ward", attacker := "guard", cause := "babysitter" }

/-- The two are dead. -/
def pairDeaths : Deaths F where
  events := [.playerKilled "guard" "babysitter" ["ward"] false .full,
    .playerKilled "ward" "babysitter" ["guard"] true .full]
  killed := ["guard", "ward"]

/-- Every kill among the two, by a trigger of the pack or by the dependency. -/
def pairKills : List KillRecord :=
  (["guard", "ward"].flatMap fun target => ["guard", "ward"].flatMap fun attacker =>
    ("babysitter" :: pack.document.triggers.map (·.id)).map fun cause => { target, attacker, cause }).dedup

theorem mem_pairKills {record : KillRecord} : record ∈ pairKills pack ↔
    Pair record.target ∧ Pair record.attacker ∧
      record.cause ∈ "babysitter" :: pack.document.triggers.map (·.id) := by
  obtain ⟨target, attacker, cause⟩ := record
  unfold pairKills Pair
  rw [List.mem_dedup]
  simp only [List.mem_flatMap, List.mem_map, List.mem_cons, List.not_mem_nil, or_false, KillRecord.mk.injEq]
  constructor
  · rintro ⟨_, htarget, _, hattacker, _, hcause, rfl, rfl, rfl⟩
    exact ⟨htarget, hattacker, hcause⟩
  · rintro ⟨htarget, hattacker, hcause⟩
    exact ⟨target, htarget, attacker, hattacker, cause, hcause, rfl, rfl, rfl⟩

/-- Nothing but the kills of the two is ever logged. -/
structure PairOnly (d : Deaths F) : Prop where
  killed : d.killed = ["guard", "ward"]
  slots : killedSlots d.events = ["guard", "ward"]
  log : ∀ record ∈ d.log, record ∈ pairKills pack

variable {pack} {d : Deaths F}

theorem PairOnly.stack (h : PairOnly pack d) {target attacker : SlotId} {cause : String} (htarget : Pair target)
    (hattacker : Pair attacker) (hcause : cause ∈ "babysitter" :: pack.document.triggers.map (·.id))
    (unstoppable : Bool) :
    PairOnly pack (mergeStackedKillAttribution target attacker cause unstoppable d).1 := by
  unfold mergeStackedKillAttribution
  split
  · refine ⟨h.killed, (killedSlots_merge ..).trans h.slots, fun record hrecord => ?_⟩
    rcases List.mem_append.1 hrecord with hold | hnew
    · exact h.log record hold
    · obtain rfl := List.mem_singleton.1 hnew
      exact (mem_pairKills pack).2 ⟨htarget, hattacker, hcause⟩
  · exact h

/-- The dead are dead to a trigger's kill. -/
theorem PairOnly.strike (h : PairOnly pack d) {target attacker : SlotId} {cause : String} (htarget : Pair target)
    (hattacker : Pair attacker) (hcause : cause ∈ "babysitter" :: pack.document.triggers.map (·.id))
    (unstoppable : Bool) :
    PairOnly pack (Resolver.strike (pairNight pack) ∅ ∅ attacker cause unstoppable target d) := by
  have hdead : d.killed.contains target = true := by
    rw [h.killed]
    rcases htarget with rfl | rfl <;> decide
  unfold Resolver.strike
  dsimp only
  split
  · exact h
  · unfold resolveOneKill stackKill
    dsimp only
    rw [if_pos hdead]
    split
    · exact h.stack htarget hattacker hcause unstoppable
    · exact h

theorem PairOnly.fire (h : PairOnly pack d) (htarget : Pair observation.target)
    (hactor : Pair observation.actor) {trigger : TriggerRule} (htrigger : trigger ∈ pack.document.triggers) :
    PairOnly pack (fireTrigger (pairNight pack) ∅ ∅ observation d trigger) := by
  unfold fireTrigger
  dsimp only
  split
  · exact h
  split
  · exact h
  split
  · exact h
  split
  · rename_i actor target hproducedActor hproducedTarget
    have hemitted (body : TriggerPayload) : PairOnly pack (d.emit (.trigger trigger.id body)) := by
      refine ⟨h.killed, ?_, h.log⟩
      have hsame : killedSlots (d.events ++ [.trigger trigger.id body]) = killedSlots d.events := by
        rw [killedSlots_append]
        exact List.append_nil _
      exact hsame.trans h.slots
    split
    · exact hemitted _
    · have hpair : Pair observation.target ∧ Pair observation.actor := ⟨htarget, hactor⟩
      exact (hemitted _).strike (producedTarget_att hpair hproducedTarget) (producedActor_att hpair hproducedActor)
        (List.mem_cons_of_mem _ (List.mem_map_of_mem htrigger)) _
  · exact h

/-- The frontier is of kills of the two. -/
def PairFrontier (pack : ValidatedPack F) (frontier : List TriggerObservation) : Prop :=
  ∀ observation ∈ frontier, ∃ record ∈ pairKills pack, observation ∈ killObservations record

variable {frontier : List TriggerObservation}

theorem PairFrontier.pair (h : PairFrontier pack frontier) (hobservation : observation ∈ frontier) :
    Pair observation.target ∧ Pair observation.actor := by
  obtain ⟨record, hrecord, hin⟩ := h observation hobservation
  obtain ⟨htarget, hattacker, -⟩ := (mem_pairKills pack).1 hrecord
  simp only [killObservations, List.mem_cons, List.not_mem_nil, or_false] at hin
  rcases hin with rfl | rfl <;> exact ⟨htarget, hattacker⟩

theorem PairOnly.round (h : PairOnly pack d) (hfrontier : PairFrontier pack frontier) :
    PairOnly pack (triggerRound (pairNight pack) ∅ ∅ frontier d).1 ∧
      ∀ record ∈ (triggerRound (pairNight pack) ∅ ∅ frontier d).2, record ∈ pairKills pack := by
  have hround : PairOnly pack (frontier.foldl (fun d observation =>
      pack.document.triggers.foldl (fireTrigger (pairNight pack) ∅ ∅ observation) d) { d with log := [] }) := by
    refine Steps.foldl_inv (PairOnly pack) (fun d observation hobservation hd => ?_)
      ⟨h.killed, h.slots, fun record hrecord => absurd hrecord List.not_mem_nil⟩
    obtain ⟨htarget, hactor⟩ := hfrontier.pair hobservation
    exact Steps.foldl_inv (PairOnly pack) (fun d trigger htrigger hd => hd.fire htarget hactor htrigger) hd
  exact ⟨⟨hround.killed, hround.slots, h.log⟩, hround.log⟩

/-- The dependency records the ward's death once more. -/
theorem PairOnly.cascade (hpack : aggregatesKillAttackers pack.document = true) (h : PairOnly pack d) :
    PairOnly pack (triggerCascade (pairNight pack) (some ([pairDependency], [])) d).1 ∧
      (triggerCascade (pairNight pack) (some ([pairDependency], [])) d).2 = [pairRecord] := by
  have hkilled : d.events.any (killsSlot "ward") = true := by
    have hward : "ward" ∈ killedSlots d.events := h.slots ▸ List.mem_cons_of_mem _ (List.mem_singleton_self _)
    obtain ⟨event, hevent, hward⟩ := List.mem_filterMap.1 hward
    exact List.any_eq_true.2 ⟨event, hevent, beq_iff_eq.2 hward⟩
  have hhost : (["guard", "ward"] : List SlotId).contains "guard" = true := by decide
  have hward : (["guard", "ward"] : List SlotId).contains "ward" = true := by decide
  have halive : aliveInState (pairNight pack) "ward" = true := by
    simp [aliveInState, pairNight, StateSnapshot.slot?, townie, SlotState.isAlive]
  have hcascade : triggerCascade (pairNight pack) (some ([pairDependency], [])) d =
      ((mergeStackedKillAttribution "ward" "guard" "babysitter" true d).1, [pairRecord]) := by
    simp only [triggerCascade, applyGuardDependencyDeaths, applyHideDependencyDeaths, List.foldl_cons, List.foldl_nil,
      dependencyDeath, pairDependency, h.killed, hhost, hward, halive, Bool.not_true, Bool.or_false, if_true,
      Bool.false_eq_true, if_false]
    have haggregates : aggregatesKillAttackers (pairNight pack).pack.document = true := hpack
    rw [haggregates]
    unfold mergeStackedKillAttribution
    rw [if_pos hkilled]
    rfl
  rw [hcascade]
  exact ⟨h.stack (.inr rfl) (.inl rfl) List.mem_cons_self true, rfl⟩

theorem pairRecord_mem (pack : ValidatedPack F) : pairRecord ∈ pairKills pack :=
  (mem_pairKills pack).2 ⟨.inr rfl, .inl rfl, List.mem_cons_self⟩

theorem pairFrontier_kills {kills : List KillRecord} (h : ∀ record ∈ kills, record ∈ pairKills pack) :
    PairFrontier pack (kills.flatMap killObservations) := by
  intro observation hobservation
  obtain ⟨record, hrecord, hin⟩ := List.mem_flatMap.1 hobservation
  exact ⟨record, h record hrecord, hin⟩

/-- The rounds never end, and only ever observe kills of the two. -/
theorem PairOnly.history (hpack : aggregatesKillAttackers pack.document = true) (rounds : Nat)
    (h : PairOnly pack d) (hfrontier : PairFrontier pack frontier) (hsome : frontier ≠ []) :
    let history := triggerHistory (pairNight pack) ∅ ∅ (some ([pairDependency], [])) rounds frontier d
    history.2 ≠ [] ∧ PairFrontier pack history.2 := by
  induction rounds generalizing frontier d with
  | zero =>
    cases frontier with
    | nil => exact absurd rfl hsome
    | cons first rest => exact ⟨hsome, hfrontier⟩
  | succ rounds ih =>
    cases frontier with
    | nil => exact absurd rfl hsome
    | cons first rest =>
      obtain ⟨hround, hkills⟩ := h.round hfrontier
      obtain ⟨hnext, hdependents⟩ := hround.cascade hpack
      have hstep : (triggerStep (pairNight pack) ∅ ∅ (some ([pairDependency], [])) (first :: rest) d).2 =
          (triggerRound (pairNight pack) ∅ ∅ (first :: rest) d).2 ++ [pairRecord] :=
        congrArg ((triggerRound (pairNight pack) ∅ ∅ (first :: rest) d).2 ++ ·) hdependents
      have hpair : ∀ record ∈ (triggerStep (pairNight pack) ∅ ∅ (some ([pairDependency], [])) (first :: rest) d).2,
          record ∈ pairKills pack := by
        rw [hstep]
        intro record hrecord
        rcases List.mem_append.1 hrecord with hkill | hdependent
        · exact hkills record hkill
        · obtain rfl := List.mem_singleton.1 hdependent
          exact pairRecord_mem pack
      have hmore : (triggerStep (pairNight pack) ∅ ∅ (some ([pairDependency], [])) (first :: rest) d).2.flatMap
          killObservations ≠ [] := by
        rw [hstep, List.flatMap_append]
        simp [killObservations]
      exact ih hnext (pairFrontier_kills hpair) hmore

theorem pairOnly_deaths (pack : ValidatedPack F) : PairOnly pack pairDeaths :=
  ⟨rfl, rfl, fun _ hrecord => absurd hrecord List.not_mem_nil⟩

theorem pairKills_of (pack : ValidatedPack F) : KillListOf (pairDeaths : Deaths F) (pairKills pack) where
  nodup := List.nodup_dedup _
  dead _ hrecord := by
    rcases ((mem_pairKills pack).1 hrecord).1 with htarget | htarget
    · exact htarget ▸ List.mem_cons_self
    · exact htarget ▸ List.mem_cons_of_mem _ (List.mem_singleton_self _)

/-- With aggregation, the two dead keep the fixpoint going until it is cut off with nothing new to observe. -/
theorem pair_not_offersOnce (hpack : aggregatesKillAttackers pack.document = true)
    (hcap : 0 < pack.document.redirects.loopCap) :
    ¬ OffersOnce (pairNight pack) ∅ ∅ (some ([pairDependency], [])) ((pairKills pack).flatMap killObservations)
      pairDeaths := by
  intro hoffers
  have hfrontier : PairFrontier pack ((pairKills pack).flatMap killObservations) := pairFrontier_kills fun _ h => h
  have hmem : (killObservations pairRecord).head (by simp [killObservations]) ∈
      (pairKills pack).flatMap killObservations :=
    List.mem_flatMap.2 ⟨pairRecord, pairRecord_mem pack, List.head_mem _⟩
  have hhistory := (pairOnly_deaths pack).history hpack pack.document.redirects.loopCap hfrontier
    (List.ne_nil_of_mem hmem)
  have hnotes := triggerLoop_notes (pairNight pack) ∅ ∅ (some ([pairDependency], []))
    pack.document.redirects.loopCap ((pairKills pack).flatMap killObservations) pairDeaths
  obtain ⟨record, ⟨waiting, hwaiting, hof⟩, hnone⟩ := hoffers.news fun hnote => hhistory.1 (hnotes.1 hnote)
  obtain ⟨kill, hkill, hin⟩ := hhistory.2 waiting hwaiting
  obtain rfl := (ofDeath_kill hin).1 hof
  -- The first round has observed every kill of the two.
  obtain ⟨rounds, hrounds⟩ := Nat.exists_eq_succ_of_ne_zero hcap.ne'
  have hobserved : waiting ∈ (pairKills pack).flatMap killObservations := List.mem_flatMap.2 ⟨record, hkill, hin⟩
  have hfalse := hnone waiting (by
    show waiting ∈ (triggerHistory (pairNight pack) ∅ ∅ (some ([pairDependency], []))
      pack.document.redirects.loopCap ((pairKills pack).flatMap killObservations) pairDeaths).1.flatten
    rw [hrounds]
    cases hobservations : (pairKills pack).flatMap killObservations with
    | nil => exact absurd (hobservations ▸ hobserved) List.not_mem_nil
    | cons first rest => exact List.mem_append_left _ (hobservations ▸ hobserved))
  rw [hof] at hfalse
  cases hfalse

theorem phaseEndObservations_not_death (input : ResolutionInput F) (killed : List SlotId) :
    ∀ observation ∈ phaseEndObservations input killed, observation.isDeath = false := by
  intro observation hobservation
  obtain ⟨slot, -, rfl⟩ := List.mem_map.1 hobservation
  rfl

/-- Without a round, whatever there is to observe cuts the fixpoint off. -/
theorem noRounds_not_offersOnce (hcap : pack.document.redirects.loopCap = 0) :
    ¬ OffersOnce (pairNight pack) ∅ ∅ none (phaseEndObservations (pairNight pack) []) ({} : Deaths F) := by
  intro hoffers
  have hhistory : triggerHistory (pairNight pack) ∅ ∅ none pack.document.redirects.loopCap
      (phaseEndObservations (pairNight pack) []) ({} : Deaths F) =
        ([], phaseEndObservations (pairNight pack) []) := by
    rw [hcap]
    rfl
  have hnotes := triggerLoop_notes (pairNight pack) ∅ ∅ none pack.document.redirects.loopCap
    (phaseEndObservations (pairNight pack) []) ({} : Deaths F)
  obtain ⟨record, ⟨waiting, hwaiting, hof⟩, -⟩ := hoffers.news fun hnote => by
    have hnone := hnotes.1 hnote
    rw [hhistory] at hnone
    cases hnone
  have hwaits : waiting ∈ (triggerHistory (pairNight pack) ∅ ∅ none pack.document.redirects.loopCap
      (phaseEndObservations (pairNight pack) []) ({} : Deaths F)).2 := hwaiting
  rw [hhistory] at hwaits
  unfold TriggerObservation.ofDeath at hof
  rw [phaseEndObservations_not_death _ _ waiting hwaits] at hof
  cases hof

end Babysitting

/-! ## A night with a babysitter -/

/-- The saints' pack, with a babysitter whose ward dies with it. -/
def babysitterPack : Pack Rat :=
  { saintPack with
    roles := saintPack.roles.insert "babysitter"
      { alignment := some "town", actions := [nightAction "babysit" .protect 70 [] [.babysitter]] }
    nightResolution :=
      { saintNights with
        protectActionIds := "babysit" :: saintNights.protectActionIds
        killCauseIds := "babysit" :: saintNights.killCauseIds
        guardDependencyCausePolicy := (∅ : BTreeMap String String).insert "babysit" "babysit"
        protectionCausePolicy := saintNights.protectionCausePolicy.insert "babysit" saintProtection } }

/-- A goon kills the babysitter of a townie. -/
def babysitterNight : ResolutionInput Rat :=
  village ⟨babysitterPack, [.block, .protect, .kill], .of_plain (by decide) rfl rfl⟩
    { phaseId := .first .night
      slots := [{ townie "b" with roleKey := "babysitter" }, townie "c", goon "g", townie "w"] }
    [{ actionId := "b", actor := "b", templateId := "babysit", targets := ["w"], phaseId := .first .night
       submittedAt := 0 },
      { actionId := "g", actor := "g", templateId := "factional_kill", targets := ["b"], phaseId := .first .night
        submittedAt := 1 }]

end Fmarch.Resolver
