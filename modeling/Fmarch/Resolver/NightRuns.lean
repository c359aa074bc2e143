import Fmarch.Resolver.Night

/-!
# The night is a run

Each stage of `Night.lean` is a run of the working state, and leaves the actions, the protections and
the carry tokens such that the next stage is one too. `ActionOk` says what that asks of an action;
redirects keep it, because the slots they aim at are asked of the redirecting action.

**`resolveNight_run`**: all of `resolve_night` up to its announcement is one run.
-/

namespace Fmarch.Resolver

open Fmarch.Domain Keyed StableSort

variable {F : Type} [Float64 F]

/-! ## What is asked of a night -/

/-- The action kills its targets: by itself, or as one half of a guard and a witch. -/
def killsTargets (pack : Pack F) (action : Action F) : Bool :=
  (action.hasAbility .kill && action.template.readsEffect.isNone) ||
    (action.hasAbility .protect && guardWitchKills pack)

/-- The slots an unblocked action names are such that it may kill those it can turn on. `Kills` says
whether a redirect has an action to aim that kills its targets. -/
structure ActionOk (pack : Pack F) (Ok Att : SlotId → Prop) (Kills : Prop) (action : Action F) :
    Prop where
  actor : Att action.sub.actor
  targets : ∀ target ∈ action.targets, Att target
  kill : action.hasAbility .kill = true → action.template.readsEffect = none →
    ∀ target ∈ action.targets, Ok target
  killer : action.hasAbility .kill = true →
    (guardRetaliates pack || action.template.alignmentFailback.isSome) = true →
    Ok action.sub.actor
  interceptor : action.hasAbility .protect = true →
    (interceptCause pack action.template).isSome = true → Ok action.sub.actor
  ward : action.hasAbility .protect = true → guardWitchKills pack = true →
    ∀ target ∈ action.targets, Ok target
  weak : action.hasAbility .investigate = true → action.template.hasModifier .weak = true →
    Ok action.sub.actor
  redirector : action.hasAbility .redirect = true → Kills →
    Ok action.sub.actor ∧ ∀ target ∈ action.targets, Ok target

/-- What a stage relies on. -/
structure NightOk (input : ResolutionInput F) (Ok Att : SlotId → Prop) (Kills : Prop)
    (night : Night F) : Prop where
  actions : ∀ action ∈ night.actions, action.blocked = false →
    ActionOk input.pack.document Ok Att Kills action
  kills : ∀ action ∈ night.actions, action.blocked = false →
    killsTargets input.pack.document action = true → Kills
  protections : ProtectionsOk input.pack.document AnyEvent Ok Att night.protections
  tokens : ∀ token ∈ night.wolfCarryTokens,
    Att token.ownerId ∧ (guardRetaliates input.pack.document = true → Ok token.ownerId)
  marked : ObservationsOk Att night.effectMarked

/-- The night got from `start` to `night` by a run, and the next stage can rely on it. -/
structure NightRun (input : ResolutionInput F) (Apart : InnerEvent F → Prop) (Ok Att : SlotId → Prop)
    (Kills : Prop) (start night : Night F) : Prop where
  run : Deaths.Run input Apart Ok Att start.deaths night.deaths
  ok : NightOk input Ok Att Kills night

section Runs

open Deaths Relation

variable {Apart : InnerEvent F → Prop} {Ok Att : SlotId → Prop} {Kills : Prop} {input : ResolutionInput F}
  {start night : Night F}

namespace NightRun

theorem refl (ok : NightOk input Ok Att Kills night) : NightRun input Apart Ok Att Kills night night :=
  ⟨.refl, ok⟩

section

variable (h : NightRun input Apart Ok Att Kills start night)
include h

theorem deaths {d : Deaths F}
    (hrun : Run input Apart Ok Att night.deaths d) : NightRun input Apart Ok Att Kills start { night with deaths := d } :=
  ⟨h.run.trans hrun, { h.ok with }⟩

theorem emit {event : InnerEvent F}
    (hushed : Hushed event) : NightRun input Apart Ok Att Kills start (night.emit event) :=
  h.deaths (Run.emit _ hushed)

theorem emitAll {events : List (InnerEvent F)} (pushed : ∀ event ∈ events, Pushed input Apart event) :
    NightRun input Apart Ok Att Kills start (night.emitAll events) :=
  h.deaths (Run.emitAll _ pushed)

theorem addTransient (slot : SlotId) (effect : Tag) :
    NightRun input Apart Ok Att Kills start (night.addTransient slot effect) :=
  ⟨h.run, { h.ok with }⟩

theorem removeTransient (effect : Tag) (slot : SlotId) :
    NightRun input Apart Ok Att Kills start (night.removeTransient effect slot) := by
  unfold Night.removeTransient
  split
  · exact ⟨h.run, { h.ok with }⟩
  · exact h

end

end NightRun

/-- Of a night where every slot may die nothing is asked. -/
theorem nightOk_any (input : ResolutionInput F) (night : Night F) : NightOk input AnySlot AnySlot True night where
  actions _ _ _ := ⟨trivial, fun _ _ => trivial, fun _ _ _ _ => trivial, fun _ _ => trivial, fun _ _ => trivial,
    fun _ _ _ _ => trivial, fun _ _ => trivial, fun _ _ => ⟨trivial, fun _ _ => trivial⟩⟩
  kills _ _ _ _ := trivial
  protections := ⟨fun _ _ _ => trivial, fun _ _ _ => trivial, fun _ _ _ _ => trivial,
    fun _ _ _ _ => .inr fun _ => trivial, fun _ _ _ _ _ _ => trivial⟩
  tokens _ _ := ⟨trivial, fun _ => trivial⟩
  marked _ _ := ⟨trivial, trivial⟩

/-! ## Actions in their order -/

variable {ability : IrAbility} {actions : List (Action F)} {entry : Nat × Action F}
   {action : Action F} {pack : Pack F} {target : SlotId} {d : Deaths F}

omit [Float64 F] in
theorem mem_abilityOrder (h : entry ∈ abilityOrder actions ability) :
    entry.2 ∈ actions ∧ entry.2.hasAbility ability = true := by
  obtain ⟨⟨action, index⟩, hmem, rfl⟩ := List.mem_map.1 (mem_sortBy.1 h)
  obtain ⟨hzip, hability⟩ := List.mem_filter.1 hmem
  exact ⟨List.fst_mem_of_mem_zipIdx hzip, hability⟩

omit [Float64 F] in
theorem mem_stageActions (h : entry ∈ stageActions actions ability) :
    entry.2 ∈ actions ∧ entry.2.hasAbility ability = true ∧ entry.2.blocked = false := by
  obtain ⟨hmem, hlive⟩ := List.mem_filter.1 h
  obtain ⟨haction, hability⟩ := mem_abilityOrder hmem
  exact ⟨haction, hability, by simpa using hlive⟩

/-- An action a stage takes up is asked what `ActionOk` asks. -/
theorem NightOk.stageAction (h : NightOk input Ok Att Kills night)
    (hentry : entry ∈ stageActions night.actions ability) :
    ActionOk input.pack.document Ok Att Kills entry.2 ∧ entry.2.hasAbility ability = true := by
  obtain ⟨haction, hability, hlive⟩ := mem_stageActions hentry
  exact ⟨h.actions _ haction hlive, hability⟩

/-- A stage that folds over its actions is a run when each of them is. -/
theorem stage_run {f : Night F → Action F → Night F} (h : NightOk input Ok Att Kills night)
    (step : ∀ next : Night F, ∀ action, ActionOk input.pack.document Ok Att Kills action → action.hasAbility ability = true → NightRun input Apart Ok Att Kills night next → NightRun input Apart Ok Att Kills night (f next action)) :
    NightRun input Apart Ok Att Kills night (((stageActions night.actions ability).map (·.2)).foldl f night) := by
  refine Steps.foldl_inv (NightRun input Apart Ok Att Kills night) (fun next action haction hnext => ?_)
    (.refl h)
  obtain ⟨entry, hentry, rfl⟩ := List.mem_map.1 haction
  obtain ⟨hok, hability⟩ := h.stageAction hentry
  exact step next entry.2 hok hability hnext

/-! ## Suppression and redirects -/

section

omit [Float64 F]

/-- Blocking never frees an action. -/
theorem mem_of_mem_setBlocked {index : Nat} (h : action ∈ setBlocked actions index)
    (hlive : action.blocked = false) :
    action ∈ actions := by
  unfold setBlocked at h
  obtain ⟨i, hi, hget⟩ := List.mem_iff_getElem.1 h
  rw [List.getElem_modify] at hget
  split at hget
  · rw [← hget] at hlive
    cases hlive
  · rw [← hget]
    exact List.getElem_mem _

theorem mem_of_mem_setBlockedAll {entries : List (Nat × Action F)}
    (h : action ∈ entries.foldl (fun actions (index, _) => setBlocked actions index) actions)
    (hlive : action.blocked = false) : action ∈ actions :=
  Steps.foldl_inv (fun next : List (Action F) => action ∈ next → action ∈ actions)
    (fun _ _ _ ih hmem => ih (mem_of_mem_setBlocked hmem hlive)) id h

theorem getElem?_setBlockedAll (entries : List (Nat × Action F)) (actions : List (Action F)) (index : Nat) :
    (entries.foldl (fun actions (index, _) => setBlocked actions index) actions)[index]? =
      actions[index]?.map fun action =>
        if index ∈ entries.map (·.1) then { action with blocked := true } else action := by
  induction entries generalizing actions with
  | nil => simp
  | cons entry entries ih =>
    rw [List.foldl_cons, ih]
    unfold setBlocked
    rw [List.getElem?_modify, List.map_cons]
    cases actions[index]? with
    | none => rfl
    | some action =>
      by_cases hfirst : entry.1 = index <;> by_cases hlater : index ∈ entries.map (·.1) <;>
        simp_all [eq_comm]

end

theorem blockStage_run (h : NightOk input Ok Att Kills night) :
    NightRun input Apart Ok Att Kills night (blockStage input night) := by
  unfold blockStage resolveSuppression
  dsimp only
  refine ⟨Run.emitAll _ fun event hevent => ?_, { h with
      actions := fun action haction hlive => ?_
      kills := fun action haction hlive => ?_ }⟩
  · obtain ⟨entry, -, rfl⟩ := List.mem_map.1 hevent
    exact Hushed.pushed trivial
  · exact h.actions action (mem_of_mem_setBlockedAll haction hlive) hlive
  · exact h.kills action (mem_of_mem_setBlockedAll haction hlive) hlive

omit [Float64 F] in
theorem redirectActionRules_ok {targetSpace : List SlotId} {group : Nat}
    (actor : Ok action.sub.actor) (targets : ∀ target ∈ action.targets, Ok target) :
    ∀ rule ∈ redirectActionRules targetSpace group action, Ok rule.target := by
  intro rule hrule
  unfold redirectActionRules at hrule
  split at hrule
  · rename_i first second _ htargets
    split at hrule
    · exact absurd hrule List.not_mem_nil
    · simp only [List.mem_cons, List.not_mem_nil, or_false] at hrule
      rcases hrule with rfl | rfl <;> exact targets _ (by simp [htargets])
  · rename_i first second third rest _ htargets
    obtain ⟨⟨source, target⟩, hpair, rfl⟩ := List.mem_map.1 hrule
    have hright := (List.of_mem_zip (List.mem_filter.1 hpair).1).2
    refine targets target ?_
    rw [htargets]
    simp only [List.tail_cons, List.mem_append, List.mem_cons, List.not_mem_nil, or_false] at hright ⊢
    tauto
  · rename_i first second _ htargets
    split at hrule
    · exact absurd hrule List.not_mem_nil
    · obtain rfl := List.mem_singleton.1 hrule
      exact targets _ (by simp [htargets])
  · obtain ⟨source, -, rfl⟩ := List.mem_map.1 hrule
    cases htargets : action.targets with
    | nil => exact actor
    | cons target rest => exact targets _ (by simp [htargets])
  · exact absurd hrule List.not_mem_nil

omit [Float64 F] in
theorem collectRedirectRules_ok {cap : Nat} {targetSpace : List SlotId} {entries : List (Nat × Action F)}
    (h : ∀ entry ∈ entries, entry.2.blocked = false →
      Ok entry.2.sub.actor ∧ ∀ target ∈ entry.2.targets, Ok target)
    {rules : List RedirectRule} (hrules : ∀ rule ∈ rules, Ok rule.target) :
    ∀ rule ∈ (collectRedirectRules cap targetSpace rules entries).1, Ok rule.target := by
  induction entries generalizing rules with
  | nil => exact hrules
  | cons entry entries ih =>
    have hrest := fun other hother => h other (List.mem_cons_of_mem entry hother)
    unfold collectRedirectRules
    split
    · exact ih hrest hrules
    · rename_i hlive
      split
      · exact hrules
      · obtain ⟨actor, targets⟩ := h entry List.mem_cons_self (by simpa using hlive)
        refine ih hrest fun rule hrule => ?_
        rcases List.mem_append.1 hrule with hold | hnew
        · exact hrules rule hold
        · exact redirectActionRules_ok actor targets rule hnew

/-- A redirect points at slots its action names. -/
theorem buildRedirectRules_ok (h : NightOk input Ok Att Kills night) :
    ∀ rule ∈ (buildRedirectRules night.actions input.pack.document).1,
      Att rule.target ∧ (Kills → Ok rule.target) := by
  intro rule hrule
  let Named : SlotId → Prop := fun slot => Att slot ∧ (Kills → Ok slot)
  have hnamed : Named rule.target := by
    refine collectRedirectRules_ok (fun entry hentry hlive => ?_) (by simp) rule
      (List.mem_of_mem_take hrule)
    obtain ⟨⟨action, index⟩, hzip, rfl⟩ := List.mem_map.1 hentry
    obtain ⟨original, horiginal, rfl⟩ := List.mem_map.1 (List.fst_mem_of_mem_zipIdx hzip)
    obtain ⟨haction, hability⟩ := mem_abilityOrder horiginal
    have hok := h.actions _ haction hlive
    exact ⟨⟨hok.actor, fun kills => (hok.redirector hability kills).1⟩,
      fun target htarget => ⟨hok.targets target htarget,
        fun kills => (hok.redirector hability kills).2 target htarget⟩⟩
  exact hnamed

omit [Float64 F] in
/-- A redirected target is a target still, or the one some rule points at. -/
theorem redirectTarget_ok {rules : List RedirectRule} (cap : Nat)
    (hrules : ∀ rule ∈ rules, Ok rule.target) (applied : List Nat) (current : SlotId) :
    redirectTarget cap rules applied current = current ∨ Ok (redirectTarget cap rules applied current) := by
  induction rules generalizing applied current with
  | nil => exact .inl rfl
  | cons rule rules ih =>
    have ih := ih fun other hother => hrules other (List.mem_cons_of_mem rule hother)
    unfold redirectTarget
    split
    · exact .inl rfl
    · split
      · exact ih _ _
      · split
        · rcases ih (applied ++ [rule.group]) rule.target with heq | hok
          · rw [heq]
            exact .inr (hrules rule List.mem_cons_self)
          · exact .inr hok
        · exact ih _ _

/-- Rewriting the targets of an action keeps `ActionOk`. -/
theorem ActionOk.redirect (h : ActionOk pack Ok Att Kills action)
    (hkills : killsTargets pack action = true → Kills) {f : SlotId → SlotId}
    (hf : ∀ target, f target = target ∨ Att (f target) ∧ (Kills → Ok (f target))) :
    ActionOk pack Ok Att Kills { action with targets := action.targets.map f } := by
  have hall : ∀ {P : SlotId → Prop}, (∀ slot, Att slot ∧ (Kills → Ok slot) → P slot) →
      (∀ target ∈ action.targets, P target) → ∀ target ∈ action.targets.map f, P target := by
    intro P hP htargets target htarget
    obtain ⟨original, horiginal, rfl⟩ := List.mem_map.1 htarget
    rcases hf original with heq | hok
    · rw [heq]
      exact htargets original horiginal
    · exact hP _ hok
  refine { h with targets := ?_, kill := ?_, ward := ?_, redirector := ?_ }
  · exact hall (fun _ hslot => hslot.1) h.targets
  · intro hability hreads
    have kills : Kills := hkills (by simp_all [killsTargets, Action.hasAbility])
    exact hall (fun _ hslot => hslot.2 kills) (h.kill hability hreads)
  · intro hability hpolicy
    have kills : Kills := hkills (by simp_all [killsTargets, Action.hasAbility])
    exact hall (fun _ hslot => hslot.2 kills) (h.ward hability hpolicy)
  · intro hability kills
    obtain ⟨hactor, htargets⟩ := h.redirector hability kills
    exact ⟨hactor, hall (fun _ hslot => hslot.2 kills) htargets⟩

theorem resolveRedirects_ok (h : NightOk input Ok Att Kills night) (empowered : BTreeSet SlotId)
    (haction : action ∈ (resolveRedirects input.pack.document empowered night.actions).1)
    (hlive : action.blocked = false) :
    ActionOk input.pack.document Ok Att Kills action ∧
      (killsTargets input.pack.document action = true → Kills) := by
  unfold resolveRedirects at haction
  obtain ⟨original, horiginal, hrewritten⟩ := List.mem_map.1 haction
  split at hrewritten
  · subst hrewritten
    exact ⟨h.actions _ horiginal hlive, h.kills _ horiginal hlive⟩
  · subst hrewritten
    have hkills := h.kills original horiginal hlive
    refine ⟨(h.actions original horiginal hlive).redirect hkills fun target => ?_, hkills⟩
    let Named : SlotId → Prop := fun slot => Att slot ∧ (Kills → Ok slot)
    have hrules : ∀ rule ∈ (buildRedirectRules night.actions input.pack.document).1,
        Named rule.target := buildRedirectRules_ok h
    exact redirectTarget_ok _ hrules [] target

theorem redirectStage_run (h : NightOk input Ok Att Kills night) :
    NightRun input Apart Ok Att Kills night (redirectStage input night) :=
  ⟨.refl, { h with
    actions := fun _ haction hlive => (resolveRedirects_ok h _ haction hlive).1
    kills := fun _ haction hlive => (resolveRedirects_ok h _ haction hlive).2 }⟩

/-! ## Marks -/

theorem hushed_effectNotification (input : ResolutionInput F) (pack : Pack F) (effect : Tag)
    (status : String) (actor target : SlotId) :
    ∀ event ∈ effectNotification input pack effect status actor target, Hushed event := by
  unfold effectNotification
  dsimp only
  split
  · simp
  · simp [Hushed, Quiet, Plain, Body]

/-- Only a mark that is a delayed death says so. -/
theorem pushed_persistentMarkEvents (queues : ∀ event : InnerEvent F, (queued? event).isSome = true → Apart event)
    (action : Action F) (effect : Tag) (target : SlotId) :
    ∀ event ∈ persistentMarkEvents input action effect target, Pushed input Apart event := by
  intro event hevent
  unfold persistentMarkEvents at hevent
  rcases List.mem_cons.1 hevent with rfl | hevent
  · exact Hushed.pushed trivial
  · rcases List.mem_append.1 hevent with hevent | hbackup
    · rcases List.mem_append.1 hevent with hdelayed | hbeauty
      · split at hdelayed
        · obtain rfl := List.mem_singleton.1 hdelayed
          exact ⟨trivial, .inr (queues _ rfl)⟩
        · exact absurd hdelayed List.not_mem_nil
      · split at hbeauty
        · obtain rfl := List.mem_singleton.1 hbeauty
          exact Hushed.pushed trivial
        · exact absurd hbeauty List.not_mem_nil
    · split at hbackup
      · split at hbackup
        · obtain rfl := List.mem_singleton.1 hbackup
          exact Hushed.pushed trivial
        · exact absurd hbackup List.not_mem_nil
      · exact absurd hbackup List.not_mem_nil

theorem hushed_targetLynchWinTargeted (input : ResolutionInput F) (action : Action F) (effect : Tag)
    (target : SlotId) :
    ∀ event ∈ targetLynchWinTargeted input action effect target, Hushed event := by
  intro event hevent
  unfold targetLynchWinTargeted at hevent
  split at hevent
  · exact absurd hevent List.not_mem_nil
  · obtain ⟨policy, -, rfl⟩ := List.mem_map.1 hevent
    exact trivial

section

variable (h : NightRun input Apart Ok Att Kills start night)
include h

theorem hideBehind_run (action : Action F)
    (target : SlotId) : NightRun input Apart Ok Att Kills start (hideBehind input action target night) := by
  unfold hideBehind
  split
  · exact h
  · dsimp only
    split
    · split
      · exact ⟨h.run, { h.ok with }⟩
      · exact ⟨h.run, { h.ok with }⟩
    · exact ⟨h.run, { h.ok with }⟩

theorem clearPreviousBeautyMark_run (action : Action F)
    (effect : Tag) (target : SlotId) (marks : List WolfBeautyMarkRecord) :
    NightRun input Apart Ok Att Kills start (clearPreviousBeautyMark action effect target marks night) := by
  unfold clearPreviousBeautyMark
  split
  · exact h
  · split
    · exact h
    · exact ⟨h.run.trans (Run.emit _ trivial), { h.ok with }⟩

theorem landMark_run (action : Action F) (effect : Tag)
    (marks : List WolfBeautyMarkRecord) (target : SlotId) :
    NightRun input Apart Ok Att Kills start (landMark input action effect marks target night) := by
  have hnotified := ((hideBehind_run h action target).addTransient target effect).emitAll
    fun event hevent => (hushed_effectNotification input input.pack.document effect "marked" action.sub.actor
      target event hevent).pushed
  unfold landMark
  dsimp only
  split
  · exact clearPreviousBeautyMark_run hnotified action effect target marks
  · exact hnotified

theorem persistMark_run (queues : ∀ event : InnerEvent F, (queued? event).isSome = true → Apart event)
    (actor : Att action.sub.actor)
    (effect : Tag) (targetAtt : Att target) (marks : List WolfBeautyMarkRecord) :
    NightRun input Apart Ok Att Kills start (persistMark input action effect target marks night).1 := by
  have hrecorded := h.emitAll (pushed_persistentMarkEvents queues action effect target)
  have hobserved : NightRun input Apart Ok Att Kills start
      { night.emitAll (persistentMarkEvents input action effect target) with
        effectMarked := night.effectMarked ++
          [effectMarkedObservation target action.sub.actor effect action.sub.actionId] } := by
    refine ⟨hrecorded.run, { hrecorded.ok with marked := fun observation hmem => ?_ }⟩
    rcases List.mem_append.1 hmem with hold | hnew
    · exact h.ok.marked observation hold
    · obtain rfl := List.mem_singleton.1 hnew
      exact ⟨targetAtt, actor⟩
  unfold persistMark
  dsimp only
  split <;> exact hobserved

end

section

variable (queues : ∀ event : InnerEvent F, (queued? event).isSome = true → Apart event)
include queues

theorem markTarget_run (actor : Att action.sub.actor) (effect : Tag) (targetAtt : Att target)
    {state : Night F × List WolfBeautyMarkRecord} (h : NightRun input Apart Ok Att Kills start state.1) :
    NightRun input Apart Ok Att Kills start (markTarget input action effect state target).1 := by
  obtain ⟨night, marks⟩ := state
  have hlanded := landMark_run h action effect marks target
  have htargeted : ∀ event ∈ targetLynchWinTargeted input action effect target, Pushed input Apart event :=
    fun event hevent => (hushed_targetLynchWinTargeted input action effect target event hevent).pushed
  unfold markTarget
  dsimp only
  split
  · exact h.emit trivial
  · split
    · exact hlanded.emitAll htargeted
    · exact (persistMark_run hlanded queues actor effect targetAtt marks).emitAll htargeted

theorem markAction_run (hok : ActionOk input.pack.document Ok Att Kills action)
    {state : Night F × List WolfBeautyMarkRecord} (h : NightRun input Apart Ok Att Kills start state.1) :
    NightRun input Apart Ok Att Kills start (markAction input state action).1 := by
  unfold markAction
  split
  · exact h
  · rename_i effect _
    exact Steps.foldl_inv
      (fun state : Night F × List WolfBeautyMarkRecord => NightRun input Apart Ok Att Kills start state.1)
      (fun _ target htarget hstate =>
        markTarget_run queues hok.actor effect (hok.targets target htarget) hstate) h

theorem markStage_run (h : NightOk input Ok Att Kills night) :
    NightRun input Apart Ok Att Kills night (markStage input night) := by
  unfold markStage
  refine Steps.foldl_inv
    (fun state : Night F × List WolfBeautyMarkRecord => NightRun input Apart Ok Att Kills night state.1)
    (fun state action haction hstate => ?_) (.refl h)
  obtain ⟨entry, hentry, rfl⟩ := List.mem_map.1 haction
  exact markAction_run queues (h.stageAction hentry).1 hstate

end

/-! ## Stages that only push events or effects -/

theorem clearAction_run (h : NightRun input Apart Ok Att Kills start night) (action : Action F) :
    NightRun input Apart Ok Att Kills start (clearAction input night action) := by
  unfold clearAction
  split
  · exact h
  · rename_i effect _
    split
    · exact h
    · have hquiet : ∀ event ∈ action.targets.flatMap fun target =>
          effectNotification input input.pack.document effect "cleared" action.sub.actor target,
          Pushed input Apart event := by
        intro event hevent
        obtain ⟨target, -, hmem⟩ := List.mem_flatMap.1 hevent
        exact (hushed_effectNotification _ _ _ _ _ _ event hmem).pushed
      have hcleared := (h.emitAll hquiet).emit
        (show Hushed (.effectsCleared effect action.targets action.sub.actor none none) from trivial)
      refine Steps.foldl_inv (NightRun input Apart Ok Att Kills start)
        (fun next target _ hnext => hnext.removeTransient effect target) ?_
      exact ⟨hcleared.run, { hcleared.ok with }⟩

theorem eventStage_run {events : Action F → List (InnerEvent F)}
    (hushed : ∀ action, ∀ event ∈ events action, Hushed event) (h : NightOk input Ok Att Kills night) :
    NightRun input Apart Ok Att Kills night (eventStage ability events night) := by
  refine (NightRun.refl h).emitAll fun event hevent => ?_
  obtain ⟨entry, -, hmem⟩ := List.mem_flatMap.1 hevent
  exact (hushed entry.2 event hmem).pushed

theorem hushed_grantEvents (input : ResolutionInput F) (action : Action F) :
    ∀ event ∈ grantEvents input action, Hushed event := by
  intro event hevent
  unfold grantEvents at hevent
  split at hevent
  · exact absurd hevent List.not_mem_nil
  · obtain ⟨target, -, hmem⟩ := List.mem_flatMap.1 hevent
    rcases List.mem_cons.1 hmem with rfl | hnotice
    · exact trivial
    · unfold grantNotification at hnotice
      split at hnotice
      · exact absurd hnotice List.not_mem_nil
      · obtain rfl := List.mem_singleton.1 hnotice
        exact trivial

theorem hushed_linkEvents (input : ResolutionInput F) (action : Action F) :
    ∀ event ∈ linkEvents input action, Hushed event := by
  intro event hevent
  unfold linkEvents at hevent
  dsimp only at hevent
  split at hevent
  · exact absurd hevent List.not_mem_nil
  · split at hevent
    · simp only [List.mem_cons, List.not_mem_nil, or_false] at hevent
      rcases hevent with rfl | rfl <;> exact trivial
    · obtain rfl := List.mem_singleton.1 hevent
      exact trivial

omit [Float64 F] in
theorem hushed_retaliateEvents (action : Action F) : ∀ event ∈ retaliateEvents action, Hushed event := by
  intro event hevent
  unfold retaliateEvents at hevent
  split at hevent
  · exact absurd hevent List.not_mem_nil
  · obtain rfl := List.mem_singleton.1 hevent
    exact trivial

theorem hushed_visitEvents (input : ResolutionInput F) (action : Action F) :
    ∀ event ∈ visitEvents input action, Hushed event := by
  intro event hevent
  obtain ⟨target, -, rfl⟩ := List.mem_map.1 hevent
  exact trivial

theorem hushed_infoEvents (input : ResolutionInput F) (action : Action F) :
    ∀ event ∈ infoEvents input action, Hushed event := by
  intro event hevent
  unfold infoEvents at hevent
  split at hevent
  · exact absurd hevent List.not_mem_nil
  · obtain ⟨target, -, rfl⟩ := List.mem_map.1 hevent
    exact trivial

theorem hushed_convertTarget (input : ResolutionInput F) (night : Night F) (action : Action F)
    (target : SlotId) : ∀ event ∈ convertTarget input night action target, Hushed event := by
  intro event hevent
  unfold convertTarget at hevent
  dsimp only at hevent
  have hone : ∀ {other : InnerEvent F}, event ∈ [other] → Hushed other → Hushed event :=
    fun hmem hother => List.mem_singleton.1 hmem ▸ hother
  have hif : ∀ {c : Prop} [Decidable c] {reason : String},
      event ∈ (if c then [conversionBlocked target reason] else []) → Hushed event := by
    intro c _ reason hmem
    split at hmem
    · exact hone hmem trivial
    · exact absurd hmem List.not_mem_nil
  split at hevent
  · exact absurd hevent List.not_mem_nil
  · split at hevent
    · exact hone hevent trivial
    · split at hevent
      · exact hif hevent
      · split at hevent
        · exact hif hevent
        · split at hevent
          · exact hone hevent trivial
          · split at hevent
            · exact hone hevent trivial
            · exact hone hevent trivial

theorem convertStage_run (h : NightOk input Ok Att Kills night) :
    NightRun input Apart Ok Att Kills night (convertStage input night) := by
  refine (NightRun.refl h).emitAll fun event hevent => ?_
  obtain ⟨entry, -, hentry⟩ := List.mem_flatMap.1 hevent
  obtain ⟨target, -, hmem⟩ := List.mem_flatMap.1 hentry
  exact (hushed_convertTarget input night entry.2 target event hmem).pushed

/-! ## Protections -/

theorem modeCause_isSome {table : BTreeMap String String} {template : ActionTemplate F}
    (h : (modeCause pack table none template).isSome = true) :
    pack.nightResolution.isExplicit = true ∧ table.isEmpty = false := by
  unfold modeCause at h
  split at h
  · rename_i hexplicit
    refine ⟨hexplicit, ?_⟩
    have hmem : template.id ∈ table := by
      rw [Std.TreeMap.isSome_getElem?_iff_mem] at h
      exact h
    exact Std.TreeMap.isEmpty_eq_false_iff_exists_mem.2 ⟨_, hmem⟩
  · cases h

/-- One more protection by an action that asks what `ActionOk` asks. -/
theorem ProtectionsOk.insert {protections : Protections} (h : ProtectionsOk pack AnyEvent Ok Att protections)
    (hok : ActionOk pack Ok Att Kills action) (hprotect : action.hasAbility .protect = true)
    (htarget : target ∈ action.targets) :
    ProtectionsOk pack AnyEvent Ok Att (protections.insert target
      ((protections.getD target []) ++ [protectionSource pack action])) := by
  have hsource : ∀ {P : ProtectionSource → Prop}, P (protectionSource pack action) →
      (∀ other, ∀ source ∈ protections.getD other [], P source) →
      ∀ other, ∀ source ∈ (protections.insert target
        ((protections.getD target []) ++ [protectionSource pack action])).getD other [],
        P source := by
    intro P hnew hold other source hmem
    rw [Std.TreeMap.getD_insert] at hmem
    split at hmem
    · rcases List.mem_append.1 hmem with hmem | hmem
      · exact hold target source hmem
      · obtain rfl := List.mem_singleton.1 hmem
        exact hnew
    · exact hold other source hmem
  refine ⟨fun hkills entry hentry => ?_, ?_, ?_, ?_, fun _ _ _ _ _ _ => trivial⟩
  · obtain ⟨slot, sources⟩ := entry
    rw [Std.TreeMap.mem_toList_iff_getElem?_eq_some, Std.TreeMap.getElem?_insert] at hentry
    split at hentry
    · rename_i heq
      obtain rfl := Std.LawfulEqOrd.eq_of_compare heq
      exact hok.ward hprotect hkills _ htarget
    · exact h.ward hkills (slot, sources) (Std.TreeMap.mem_toList_iff_getElem?_eq_some.2 hentry)
  · exact hsource hok.actor h.protector
  · exact hsource (hok.interceptor hprotect) h.intercepts
  · refine hsource (fun hcause => .inl ?_) h.retaliates
    obtain ⟨hexplicit, htable⟩ := modeCause_isSome hcause
    simp [guardRetaliates, hexplicit, htable]

theorem protectTarget_run (hok : ActionOk input.pack.document Ok Att Kills action)
    (hprotect : action.hasAbility .protect = true) (htarget : target ∈ action.targets)
    (h : NightRun input Apart Ok Att Kills start night) :
    NightRun input Apart Ok Att Kills start (protectTarget input action night target) := by
  unfold protectTarget
  dsimp only
  split
  · exact h.emit trivial
  · split
    · exact h
    · split
      · exact ⟨h.run, { h.ok with }⟩
      · exact ⟨h.run, { h.ok with
          protections := h.ok.protections.insert hok hprotect htarget }⟩

theorem protectStage_run (h : NightOk input Ok Att Kills night) :
    NightRun input Apart Ok Att Kills night (protectStage input night) := by
  have hprotected : NightRun input Apart Ok Att Kills night
      (((stageActions night.actions .protect).map (·.2)).foldl (protectAction input) night) := by
    refine stage_run h fun next action hok hprotect hnext => ?_
    unfold protectAction
    split
    · exact hnext
    · exact Steps.foldl_inv (NightRun input Apart Ok Att Kills night)
        (fun _ target htarget hstate => protectTarget_run hok hprotect htarget hstate) hnext
  exact hprotected.deaths
    (applyGuardWitchSameTargetPolicy_run hprotected.ok.protections _)

/-! ## Kills -/

theorem killTargets_ok (aliveOk : AliveOk input Ok) (hok : ActionOk input.pack.document Ok Att Kills action)
    (hkill : action.hasAbility .kill = true) (clearedEffects : List (SlotId × Tag)) :
    ∀ target ∈ killTargets input clearedEffects action, Ok target := by
  intro target htarget
  unfold killTargets at htarget
  split at htarget
  · rename_i hreads
    exact hok.kill hkill hreads target htarget
  · obtain ⟨slot, hslot, rfl⟩ := List.mem_map.1 htarget
    obtain ⟨hmem, hmarked⟩ := List.mem_filter.1 hslot
    exact aliveOk slot hmem (by simp_all)

theorem alignmentFailbackVictim_ok {template : ActionTemplate F} {actor : SlotId} (ok : Ok target)
    (actorOk : template.alignmentFailback.isSome = true → Ok actor) :
    Ok (alignmentFailbackVictim input template actor target).1 := by
  unfold alignmentFailbackVictim
  split
  · exact ok
  · rename_i hfailback
    have hactor := actorOk (by simp [hfailback])
    dsimp only
    split_ifs
    · exact ok
    · exact hactor

omit [Float64 F] in
/-- The carries spend tokens of the stage on targets of the kill; the rest stay. -/
theorem carryTargets_mem (policy : WolfCarryPolicy) (actor : SlotId)
    (tokens : List WolfCarryTokenRecord) (targets : List SlotId) :
    let result := (carryTargets policy actor tokens targets :
      List (WolfCarryTokenRecord × SlotId) × List WolfCarryTokenRecord × List (InnerEvent F))
    (∀ carry ∈ result.1, carry.1 ∈ tokens ∧ carry.2 ∈ targets) ∧
      (∀ token ∈ result.2.1, token ∈ tokens) ∧ ∀ event ∈ result.2.2, Hushed event := by
  induction targets generalizing tokens with
  | nil => exact ⟨by simp [carryTargets], fun _ => id, by simp [carryTargets]⟩
  | cons target targets ih =>
    unfold carryTargets
    split
    · obtain ⟨hcarries, htokens, hevents⟩ := ih tokens
      refine ⟨fun carry hcarry => ?_, htokens, fun event hevent => ?_⟩
      · exact ⟨(hcarries carry hcarry).1, List.mem_cons_of_mem _ (hcarries carry hcarry).2⟩
      · rcases List.mem_cons.1 hevent with rfl | hrest
        · exact trivial
        · exact hevents event hrest
    · rename_i token htoken
      obtain ⟨hcarries, htokens, hevents⟩ :=
        ih (tokens.eraseP fun token => policy.eligibleRoles.contains token.roleKey)
      have hsub := List.eraseP_subset
        (p := fun token : WolfCarryTokenRecord => policy.eligibleRoles.contains token.roleKey)
        (l := tokens)
      refine ⟨fun carry hcarry => ?_, fun token htoken => hsub (htokens token htoken), hevents⟩
      rcases List.mem_cons.1 hcarry with rfl | hrest
      · exact ⟨List.mem_of_find?_eq_some htoken, List.mem_cons_self⟩
      · exact ⟨hsub (hcarries carry hrest).1, List.mem_cons_of_mem _ (hcarries carry hrest).2⟩

theorem killAll_run (hok : ActionOk input.pack.document Ok Att Kills action)
    (hkill : action.hasAbility .kill = true)
    (hprotections : ProtectionsOk input.pack.document AnyEvent Ok Att night.protections)
    {targets : List SlotId} (htargets : ∀ target ∈ targets, Ok target)
    {carries : List (WolfCarryTokenRecord × SlotId)}
    (hcarries : ∀ carry ∈ carries, (Att carry.1.ownerId ∧ (guardRetaliates input.pack.document = true → Ok carry.1.ownerId)) ∧ Ok carry.2)
    (d : Deaths F) : Run input AnyEvent Ok Att d (killAll input night action targets carries d) := by
  unfold killAll
  dsimp only
  refine (Steps.foldl (fun b target htarget => ?_) d).trans
    (Steps.foldl (fun b carry hcarry => ?_) _)
  · refine strike_run input hprotections ?_ hok.actor fun hretaliates => ?_
    · exact alignmentFailbackVictim_ok (htargets target htarget) fun hfailback =>
        hok.killer hkill (by simp [hfailback])
    · exact hok.killer hkill (by simp [hretaliates])
  · obtain ⟨⟨token, target⟩, index⟩ := carry
    obtain ⟨⟨ownerAtt, ownerOk⟩, htarget⟩ := hcarries _ (List.fst_mem_of_mem_zipIdx hcarry)
    unfold carryKill
    dsimp only
    refine Relation.ReflTransGen.trans (Run.emit b ?_)
      (strike_run input hprotections htarget ownerAtt ownerOk)
    exact trivial

theorem killAction_run (aliveOk : AliveOk input Ok) (hok : ActionOk input.pack.document Ok Att Kills action)
    (hkill : action.hasAbility .kill = true) (h : NightRun input AnyEvent Ok Att Kills start night) :
    NightRun input AnyEvent Ok Att Kills start (killAction input night action) := by
  have htargets := killTargets_ok aliveOk hok hkill night.clearedEffects
  unfold killAction
  dsimp only
  split
  · exact h
  · split
    · obtain ⟨hcarries, htokens, hevents⟩ := carryTargets_mem (F := F) input.pack.document.wolfCarry
        action.sub.actor night.wolfCarryTokens
        (killTargets input night.clearedEffects action).tail
      have hemitted := h.emitAll fun event hevent => (hevents event hevent).pushed
      refine ⟨hemitted.run.trans ?_, { h.ok with
        tokens := fun token htoken => h.ok.tokens token (htokens token htoken) }⟩
      refine killAll_run hok hkill h.ok.protections
        (fun target htarget => htargets target (List.mem_of_mem_take htarget))
        (fun carry hcarry => ?_) _
      obtain ⟨htoken, htarget⟩ := hcarries carry hcarry
      exact ⟨h.ok.tokens _ htoken, htargets _ (List.mem_of_mem_tail htarget)⟩
    · exact h.deaths (killAll_run hok hkill h.ok.protections htargets (by simp) _)

/-! ## Investigations -/

theorem rememberResult_run (input : ResolutionInput F) (action : Action F) (target : SlotId)
    (mode : InvestigateMode) (result : String) (d : Deaths F) :
    Run input Apart Ok Att d (rememberResult input action target mode result d) := by
  unfold rememberResult
  split
  · exact Run.emit d ⟨result, rfl⟩
  · exact .refl

theorem parityBody_valid (input : ResolutionInput F) (action : Action F) (target : SlotId)
    (result : String) (index : Nat) :
    validateInvestigationResult index .parity (parityBody input action target .parity result) = .ok () := by
  unfold parityBody
  dsimp only
  split
  · rfl
  · rename_i memory _
    split
    · split <;> rfl
    · generalize Option.bind _ _ = previous
      cases previous <;> rfl

theorem investigationBody_valid (input : ResolutionInput F) (actions : List (Action F))
    (position : Nat) (target : SlotId) (mode : InvestigateMode) (index : Nat) :
    validateInvestigationResult index mode
      (investigationBody input actions position target mode) = .ok () := by
  cases mode <;> rfl

theorem investigateParity_run (actorOk : action.template.hasModifier .weak = true → Ok action.sub.actor)
    (targetAtt : Att target) (transientEffects : BTreeMap SlotId (BTreeSet String)) (d : Deaths F) :
    Run input Apart Ok Att d (investigateParity input transientEffects action target .parity d) := by
  have hresult : Hushed (.investigationResult .parity action.sub.actor target
      (parityBody input action target .parity
        (parityResult input transientEffects target .parity)) : InnerEvent F) :=
    parityBody_valid input action target _
  unfold investigateParity
  dsimp only
  refine (Run.emit d hresult).trans ?_
  refine (rememberResult_run input action target .parity
    (parityResult input transientEffects target .parity) _).trans ?_
  split
  · rename_i hweak
    simp only [Bool.and_eq_true, Bool.not_eq_true'] at hweak
    exact Run.kill _ _ _ (.inl rfl) hweak.2 (actorOk hweak.1.1) targetAtt
  · exact .refl

theorem investigateAction_run (hok : ActionOk input.pack.document Ok Att Kills entry.2)
    (hinvestigate : entry.2.hasAbility .investigate = true) (d : Deaths F) :
    Run input Apart Ok Att d (investigateAction input night entry d) := by
  obtain ⟨index, action⟩ := entry
  unfold investigateAction
  dsimp only
  split
  · exact .refl
  · rename_i mode _
    refine Steps.foldl (fun b target htarget => ?_) d
    split
    · exact Run.emit b (by exact trivial)
    · unfold investigateTarget
      split
      · rename_i hparity
        rw [hparity]
        exact investigateParity_run (hok.weak hinvestigate) (hok.targets target htarget) _ b
      · have hresult : Hushed (.investigationResult mode action.sub.actor target
            (investigationBody input night.actions index target mode) : InnerEvent F) :=
          investigationBody_valid input night.actions index target mode
        exact Run.emit b hresult

theorem investigateStage_run (h : NightOk input Ok Att Kills night) :
    NightRun input Apart Ok Att Kills night (investigateStage input night) := by
  refine (NightRun.refl h).deaths (Steps.foldl (fun b entry hentry => ?_) _)
  obtain ⟨hok, hability⟩ := h.stageAction hentry
  exact investigateAction_run hok hability b

/-! ## All stages -/

/-- Of the stages but Kill, only Mark is heard of delayed deaths. -/
theorem otherStage_run (h : NightOk input Ok Att Kills night) (hkill : ability ≠ .kill)
    (queues : ability = .mark → ∀ event : InnerEvent F, (queued? event).isSome = true → Apart event) :
    NightRun input Apart Ok Att Kills night (nightStage input night ability) := by
  cases ability with
  | block => exact blockStage_run h
  | redirect => exact redirectStage_run h
  | mark => exact markStage_run (queues rfl) h
  | clear => exact stage_run h fun _ action _ _ hnext => clearAction_run hnext action
  | grant => exact eventStage_run (hushed_grantEvents input) h
  | link => exact eventStage_run (hushed_linkEvents input) h
  | retaliate => exact eventStage_run hushed_retaliateEvents h
  | visit => exact eventStage_run (hushed_visitEvents input) h
  | info => exact eventStage_run (hushed_infoEvents input) h
  | protect => exact protectStage_run h
  | kill => exact absurd rfl hkill
  | convert => exact convertStage_run h
  | investigate => exact investigateStage_run h
  | revealTown | voteDuel | veto | badge | duel | itaShot | selfDestruct => exact .refl h

theorem nightStage_run (aliveOk : AliveOk input Ok)
    (h : NightOk input Ok Att Kills night) (ability : IrAbility) :
    NightRun input AnyEvent Ok Att Kills night (nightStage input night ability) := by
  by_cases hkill : ability = .kill
  · subst hkill
    exact stage_run h fun _ _ hok hkill hnext => killAction_run aliveOk hok hkill hnext
  · exact otherStage_run h hkill fun _ _ _ => trivial

theorem nightStages_run (aliveOk : AliveOk input Ok) (h : NightOk input Ok Att Kills (nightStart input)) :
    NightRun input AnyEvent Ok Att Kills (nightStart input) (nightStages input) := by
  refine Steps.foldl_inv (NightRun input AnyEvent Ok Att Kills (nightStart input))
    (fun next ability _ hnext => ?_) (.refl h)
  have hstage := nightStage_run aliveOk hnext.ok ability
  exact ⟨hnext.run.trans hstage.run, hstage.ok⟩

/-! ## Cascades and triggers -/

section

variable (aliveOk : AliveOk input Ok)
include aliveOk

section

variable (resolves : ∀ event : InnerEvent F, (resolved? event).isSome = true → Apart event)
include resolves

theorem pendingPoison_run (clearedEffects : List (SlotId × Tag))
    (d : Deaths F) (queued : DelayedDeathRecord) :
    Run input Apart Ok Att d (pendingPoison input clearedEffects d queued) := by
  unfold pendingPoison
  split
  · exact .refl
  · rename_i slot hslot
    have hresolved : ∀ outcome, Run input Apart Ok Att d (d.emit (delayedDeathResolved input queued outcome)) :=
      fun _ => .single (.emit d _ ⟨trivial, .inr (resolves _ rfl)⟩)
    split
    · exact hresolved _
    · rename_i halive
      simp only [Bool.or_eq_true, Bool.not_eq_true', not_or, Bool.not_eq_true] at halive
      split
      · exact hresolved _
      · refine (hresolved _).trans (.single (.kill _ _ _ _ _ _ _ ?_ ?_ (.inl rfl) (by simp)))
        · simpa [Deaths.emit] using halive.2
        · exact aliveOk slot (slot?_some hslot).1 (by simpa using halive.1)

theorem applyPendingPoison_run (clearedEffects : List (SlotId × Tag)) (d : Deaths F) :
    Run input Apart Ok Att d (applyPendingPoison input clearedEffects d) :=
  Steps.foldl (fun b queued _ => pendingPoison_run aliveOk resolves clearedEffects b queued) d

end

theorem wolfBeautyDragTrigger_run
    (state : Deaths F × List SlotId) {record : KillRecord} (targetAtt : Att record.target) :
    Run input Apart Ok Att state.1 (wolfBeautyDragTrigger input state record).1 := by
  obtain ⟨d, processed⟩ := state
  unfold wolfBeautyDragTrigger
  dsimp only
  split
  · exact .refl
  · split
    · exact .refl
    · split
      · exact .refl
      · split
        · exact .refl
        · rename_i mark _
          split
          · exact .refl
          · rename_i halive
            have hdragged : Hushed (.wolfBeautyDragged record.target [mark.targetId]
              input.pack.document.wolfBeauty.dragCause input.phaseId : InnerEvent F) := trivial
            refine (Run.emit d hdragged).trans ?_
            split
            · rename_i hdead
              unfold mergeStackedKillAttribution
              split
              · exact .single (.merge _ _ _ _ _ (by simp_all))
              · exact .refl
            · rename_i hfresh
              exact Run.kill _ _ _ (.inl rfl) (by simpa using hfresh)
                (aliveOk.of_aliveInState (by simpa using halive)) targetAtt

theorem applyWolfBeautyDragTriggers_run (hlog : ∀ record ∈ d.log, Att record.target) :
    Run input Apart Ok Att d (applyWolfBeautyDragTriggers input d) := by
  unfold applyWolfBeautyDragTriggers
  split
  · exact .refl
  · exact Steps.foldl_on Prod.fst
      (fun state record hrecord => wolfBeautyDragTrigger_run aliveOk state (hlog record hrecord))
      (d, [])

variable (okAtt : ∀ slot, Ok slot → Att slot)
include okAtt

/-- What follows the poison and precedes the triggers. -/
theorem poisonedCascades_run (h : NightOk input Ok Att Kills night)
    (hpoisoned : (applyPendingPoison input night.clearedEffects night.deaths).Known Ok Att) :
    Run input AnyEvent Ok Att (applyPendingPoison input night.clearedEffects night.deaths) (nightCascades input night) := by
  have hretaliate := applyChosenRetaliations_run okAtt aliveOk h.protections hpoisoned.ok
  have hretaliated := hretaliate.known hpoisoned
  have hguard : Run input AnyEvent Ok Att _ _ := dependencyDeaths_run okAtt aliveOk night.guardDependencies hretaliated.ok
  have hguarded := hguard.known hretaliated
  have hhide : Run input AnyEvent Ok Att _ _ := dependencyDeaths_run okAtt aliveOk night.hideDependencies hguarded.ok
  have hhid := hhide.known hguarded
  have hdrag : Run input AnyEvent Ok Att _ _ := applyWolfBeautyDragTriggers_run aliveOk fun record hrecord =>
    okAtt _ (hhid.ok _ (hhid.logged record hrecord).1)
  exact ((hretaliate.trans hguard).trans hhide).trans hdrag

theorem collectNightObservations_ok (h : NightOk input Ok Att Kills night) (hd : d.Known Ok Att) :
    ObservationsOk Att (collectNightObservations input night.actions d.log night.effectMarked d.killed) := by
  intro observation hobservation
  unfold collectNightObservations at hobservation
  rcases List.mem_append.1 hobservation with hobservation | hphase
  · rcases List.mem_append.1 hobservation with hobservation | hmark
    · rcases List.mem_append.1 hobservation with hkill | hvisit
      · refine killObservations_ok (fun record hrecord => ?_) observation hkill
        obtain ⟨htarget, hattacker⟩ := hd.logged record hrecord
        exact ⟨okAtt _ (hd.ok _ htarget), hattacker⟩
      · obtain ⟨action, haction, hmem⟩ := List.mem_flatMap.1 hvisit
        obtain ⟨target, htarget, rfl⟩ := List.mem_map.1 hmem
        obtain ⟨hmem, hlive⟩ := List.mem_filter.1 haction
        have hok := h.actions action hmem (by simpa using hlive)
        exact ⟨hok.targets target htarget, hok.actor⟩
    · exact h.marked observation hmark
  · exact phaseEndObservations_ok (fun slot hslot halive => okAtt _ (aliveOk slot hslot halive))
      d.killed observation hphase

theorem nightTriggers_run
    (htriggers : TriggersOk input.pack.document Ok Att) (h : NightOk input Ok Att Kills night)
    (hd : d.Known Ok Att) : Run input AnyEvent Ok Att d (nightTriggers input night d).1 :=
  triggerLoop_run okAtt h.protections htriggers (fun _ => aliveOk) _
    (collectNightObservations_ok aliveOk okAtt h hd) hd

/-- All that follows the poison. -/
theorem poisonedDeaths_run
    (htriggers : TriggersOk input.pack.document Ok Att) (h : NightOk input Ok Att Kills night)
    (hd : night.deaths.Known Ok Att) :
    Run input AnyEvent Ok Att (applyPendingPoison input night.clearedEffects night.deaths) (nightDeaths input night).1 := by
  have hpoisoned := (applyPendingPoison_run aliveOk (fun _ _ => trivial) night.clearedEffects night.deaths).known hd
  have hcascades := poisonedCascades_run aliveOk okAtt h hpoisoned
  have hcascaded := hcascades.known hpoisoned
  have hfixpoint := nightTriggers_run aliveOk okAtt htriggers h hcascaded
  have hharms : Run input AnyEvent Ok Att _ _ := applyCprHarms_run aliveOk h.protections
    (nightTriggers input night (nightCascades input night)).1
  have hsuicides : Run input AnyEvent Ok Att _ _ := applyLoverSuicides_run okAtt aliveOk
    (hharms.ok (hfixpoint.ok hcascaded.ok))
  exact ((hcascades.trans hfixpoint).trans hharms).trans hsuicides

theorem nightDeaths_run
    (htriggers : TriggersOk input.pack.document Ok Att) (h : NightOk input Ok Att Kills night)
    (hd : night.deaths.Known Ok Att) :
    Run input AnyEvent Ok Att night.deaths (nightDeaths input night).1 :=
  (applyPendingPoison_run aliveOk (fun _ _ => trivial) night.clearedEffects night.deaths).trans
    (poisonedDeaths_run aliveOk okAtt htriggers h hd)

end

/-! ## The start of the night -/

omit [Float64 F] in
theorem remark_interfereAll (reason : String) (losers : List (Nat × Action F))
    {state : List (Action F) × List (InnerEvent F)} (h : ∀ event ∈ state.2, Remark event) :
    ∀ event ∈ (interfereAll reason losers state).2, Remark event := by
  refine Steps.foldl_inv
    (fun state : List (Action F) × List (InnerEvent F) => ∀ event ∈ state.2, Remark event)
    (fun state loser _ hstate event hevent => ?_) h
  rcases List.mem_append.1 hevent with hold | hnew
  · exact hstate event hold
  · obtain rfl := List.mem_singleton.1 hnew
    exact trivial

theorem remark_coordinateFactionAction (spec : FactionActionSpec)
    {state : List (Action F) × List (InnerEvent F)} (h : ∀ event ∈ state.2, Remark event) :
    ∀ event ∈ (coordinateFactionAction input state spec).2, Remark event := by
  unfold coordinateFactionAction
  dsimp only
  split
  · exact h
  · split
    · exact remark_interfereAll _ _ h
    · split
      · exact h
      · exact remark_interfereAll _ _ h

section

variable (input)

theorem remark_missingCompulsiveActions (actions : List (Action F)) :
    ∀ event ∈ missingCompulsiveActions input actions, Remark event := by
  intro event hevent
  obtain ⟨slot, -, hslot⟩ := List.mem_flatMap.1 hevent
  split at hslot
  · exact absurd hslot List.not_mem_nil
  · obtain ⟨template, -, hmem⟩ := List.mem_flatMap.1 hslot
    unfold missingCompulsiveAction at hmem
    split at hmem
    · exact absurd hmem List.not_mem_nil
    · split at hmem
      · exact absurd hmem List.not_mem_nil
      · simp only [List.mem_cons, List.not_mem_nil, or_false] at hmem
        rcases hmem with rfl | rfl <;> exact trivial

theorem remark_xShotAdmission (action : Action F) :
    ∀ event ∈ (xShotAdmission input action).2, Remark event := by
  unfold xShotAdmission
  split
  · simp
  · split
    · simp
    · exact fun event hevent => List.mem_singleton.1 hevent ▸ trivial

theorem remark_counterAdmission (action : Action F) :
    ∀ event ∈ (counterAdmission input action).2, Remark event := by
  have hxShot := remark_xShotAdmission input action
  unfold counterAdmission
  split
  · rename_i heq
    rw [heq] at hxShot
    exact hxShot
  · rename_i heq
    rw [heq] at hxShot
    split
    · exact hxShot
    · split
      · exact hxShot
      · intro event hevent
        rcases List.mem_append.1 hevent with hold | hnew
        · exact hxShot event hold
        · exact List.mem_singleton.1 hnew ▸ trivial

theorem remark_constrainAction (action : Action F) :
    ∀ event ∈ (constrainAction input action).2, Remark event := by
  have hadmission := remark_counterAdmission input action
  have hsuppress : ∀ reason, ∀ event ∈ (suppress action reason).2, Remark event :=
    fun reason event hevent => List.mem_singleton.1 hevent ▸ trivial
  unfold constrainAction
  split
  · exact hsuppress _
  · split
    · rename_i heq
      rw [heq] at hadmission
      intro event hevent
      rcases List.mem_append.1 hevent with hold | hnew
      · exact hadmission event hold
      · exact hsuppress _ event hnew
    · rename_i heq
      rw [heq] at hadmission
      intro event hevent
      rcases List.mem_append.1 hevent with hold | hnew
      · exact hadmission event hold
      · unfold intakeAnnouncements at hnew
        rcases List.mem_append.1 hnew with hnew | hnew
        · split at hnew
          · exact List.mem_singleton.1 hnew ▸ trivial
          · exact absurd hnew List.not_mem_nil
        · split at hnew
          · exact List.mem_singleton.1 hnew ▸ trivial
          · exact absurd hnew List.not_mem_nil

theorem remark_applyActionConstraints (seen : List (SlotId × String)) (actions : List (Action F)) :
    ∀ event ∈ (applyActionConstraints input seen actions).2, Remark event := by
  induction actions generalizing seen with
  | nil => simp [applyActionConstraints]
  | cons action actions ih =>
    unfold applyActionConstraints
    dsimp only
    split
    · exact ih seen
    · split
      · intro event hevent
        rcases List.mem_append.1 hevent with hnew | hold
        · exact List.mem_singleton.1 hnew ▸ trivial
        · exact ih seen event hold
      · intro event hevent
        rcases List.mem_append.1 hevent with hnew | hold
        · exact remark_constrainAction input action event hnew
        · exact ih _ event hold

/-- Intake kills nobody. -/
theorem remark_prepareNightActions : ∀ event ∈ (prepareNightActions input).2, Remark event := by
  have hfactions : ∀ event ∈ (applyFactionActionCoordination input
      (submittedActions input, missingCompulsiveActions input (submittedActions input))).2,
      Remark event := by
    unfold applyFactionActionCoordination
    dsimp only
    split
    · exact Steps.foldl_inv
        (fun state : List (Action F) × List (InnerEvent F) => ∀ event ∈ state.2, Remark event)
        (fun _ spec _ hstate => remark_coordinateFactionAction spec hstate)
        (remark_missingCompulsiveActions input _)
    · exact remark_missingCompulsiveActions input _
  intro event hevent
  unfold prepareNightActions at hevent
  rcases List.mem_append.1 hevent with hold | hnew
  · exact hfactions event hold
  · exact remark_applyActionConstraints input [] _ event hnew

theorem nightStart_tracked : (nightStart input).deaths.Tracked Ok Att where
  ok := by simp [nightStart]
  logged := by simp [nightStart]
  slots := killedSlots_plain (plain_of_remarks (remark_prepareNightActions input))
  nodup := List.nodup_nil

end

/-- All of `resolve_night` up to its announcement is one run. -/
theorem resolveNight_run (okAtt : ∀ slot, Ok slot → Att slot) (aliveOk : AliveOk input Ok)
    (htriggers : TriggersOk input.pack.document Ok Att)
    (h : NightOk input Ok Att Kills (nightStart input)) :
    Run input AnyEvent Ok Att (nightStart input).deaths (nightDeaths input (nightStages input)).1 := by
  have hstages := nightStages_run aliveOk h
  exact hstages.run.trans (nightDeaths_run aliveOk okAtt htriggers hstages.ok
    (hstages.run.known (nightStart_tracked input).toKnown))

end Runs

end Fmarch.Resolver
