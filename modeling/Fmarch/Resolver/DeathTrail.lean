import Fmarch.Resolver.Aftermath

/-!
# How the deaths of a resolution are shown

Every function that kills pushes the kill event itself. All but two ask `death_reveal_mode` how the death
is shown; an interceptor and an attacker struck down by a guard die with `Full`. `Trail` says what a
function may have pushed: kills shown by the pack's policy, the kills of a list `struck` shown in full, and
events that are neither a kill nor about a delayed death.

**`triggerLoop_trail`**: the trigger fixpoint, and with it every function below it, leaves a trail; the
`…Struck` definitions list, function by function, the interceptors and the attackers it strikes down.
-/

namespace Fmarch.Resolver

open Fmarch.Domain Keyed Steps

variable {F : Type} [Float64 F]

/-- An event that is neither a kill nor about a delayed death. -/
def Aside (event : InnerEvent F) : Prop :=
  shown? event = none ∧ queued? event = none ∧ resolved? event = none

omit [Float64 F] in
theorem Remark.aside {event : InnerEvent F} (h : Remark event) : Aside event := by
  cases event <;> first | exact ⟨rfl, rfl, rfl⟩ | exact absurd h id

omit [Float64 F] in
theorem filterMap_merge {α : Type} {f : InnerEvent F → Option α} {attacker : SlotId}
    {unstoppable : Bool} (hf : ∀ event, f (mergeAttribution attacker unstoppable event) = f event)
    (target : SlotId) (events : List (InnerEvent F)) :
    (updateFirst (killsSlot target) (mergeAttribution attacker unstoppable) events).filterMap f =
      events.filterMap f := by
  induction events with
  | nil => rfl
  | cons event events ih =>
    unfold updateFirst
    split
    · rw [List.filterMap_cons, List.filterMap_cons, hf]
    · rw [List.filterMap_cons, List.filterMap_cons, ih]

/-! ## Trails -/

/-- The events `after` show the deaths that `before` shows, then others: by the pack's policy, or in full
where the list names them, and all that the list names. -/
structure Shows (input : ResolutionInput F) (before : List (InnerEvent F))
    (struck : List (SlotId × String)) (after : List (InnerEvent F)) : Prop where
  shown : ∃ deaths, after.filterMap shown? = before.filterMap shown? ++ deaths ∧
    (∀ death ∈ deaths, death.mode = deathRevealMode input death.slot death.cause ∨
      death.mode = .full ∧ (death.slot, death.cause) ∈ struck) ∧
    ∀ entry ∈ struck, ⟨entry.1, entry.2, .full⟩ ∈ deaths

/-- Besides, no delayed death is resolved. -/
structure StageTrail (input : ResolutionInput F) (before : List (InnerEvent F))
    (struck : List (SlotId × String)) (after : List (InnerEvent F)) : Prop extends
    Shows input before struck after where
  resolved : after.filterMap resolved? = before.filterMap resolved?

/-- Besides, none is queued. -/
structure Trail (input : ResolutionInput F) (before : List (InnerEvent F))
    (struck : List (SlotId × String)) (after : List (InnerEvent F)) : Prop extends
    StageTrail input before struck after where
  queued : after.filterMap queued? = before.filterMap queued?

section Order

variable {input : ResolutionInput F} {before after last : List (InnerEvent F)}
  {struck later : List (SlotId × String)}

theorem Shows.refl (events : List (InnerEvent F)) : Shows input events [] events :=
  ⟨[], by simp⟩

theorem Shows.trans (h : Shows input before struck after) (h' : Shows input after later last) :
    Shows input before (struck ++ later) last := by
  obtain ⟨deaths, hdeaths, hmodes, hstruck⟩ := h.shown
  obtain ⟨deaths', hdeaths', hmodes', hlater⟩ := h'.shown
  refine ⟨deaths ++ deaths', by rw [hdeaths', hdeaths, List.append_assoc], ?_, ?_⟩
  · intro death hdeath
    rcases List.mem_append.1 hdeath with hold | hnew
    · exact (hmodes death hold).imp_right fun hfull => ⟨hfull.1, List.mem_append_left _ hfull.2⟩
    · exact (hmodes' death hnew).imp_right fun hfull => ⟨hfull.1, List.mem_append_right _ hfull.2⟩
  · intro entry hentry
    rcases List.mem_append.1 hentry with hold | hnew
    · exact List.mem_append_left _ (hstruck entry hold)
    · exact List.mem_append_right _ (hlater entry hnew)

theorem Shows.of_eq (h : after.filterMap shown? = before.filterMap shown?) : Shows input before [] after :=
  ⟨[], by rw [h, List.append_nil], by simp, by simp⟩

theorem StageTrail.refl (events : List (InnerEvent F)) : StageTrail input events [] events :=
  ⟨.refl events, rfl⟩

theorem StageTrail.trans (h : StageTrail input before struck after)
    (h' : StageTrail input after later last) : StageTrail input before (struck ++ later) last :=
  ⟨h.toShows.trans h'.toShows, h'.resolved.trans h.resolved⟩

theorem StageTrail.append {events : List (InnerEvent F)}
    (h : ∀ event ∈ events, shown? event = none ∧ resolved? event = none) :
    StageTrail input before [] (before ++ events) where
  toShows := .of_eq (by
    rw [List.filterMap_append, List.filterMap_eq_nil_iff.2 fun event hevent => (h event hevent).1,
      List.append_nil])
  resolved := by
    rw [List.filterMap_append, List.filterMap_eq_nil_iff.2 fun event hevent => (h event hevent).2,
      List.append_nil]

end Order

namespace Trail

variable {input : ResolutionInput F} {before after last : List (InnerEvent F)}
  {struck later : List (SlotId × String)}

theorem refl (events : List (InnerEvent F)) : Trail input events [] events :=
  ⟨.refl events, rfl⟩

theorem trans (h : Trail input before struck after) (h' : Trail input after later last) :
    Trail input before (struck ++ later) last :=
  ⟨h.toStageTrail.trans h'.toStageTrail, h'.queued.trans h.queued⟩

theorem append {events : List (InnerEvent F)} (h : ∀ event ∈ events, Aside event) :
    Trail input before [] (before ++ events) where
  toStageTrail := .append fun event hevent => ⟨(h event hevent).1, (h event hevent).2.2⟩
  queued := by
    rw [List.filterMap_append, List.filterMap_eq_nil_iff.2 fun event hevent => (h event hevent).2.1,
      List.append_nil]

theorem emit {event : InnerEvent F} (h : Aside event) : Trail input before [] (before ++ [event]) :=
  append fun _ hevent => List.mem_singleton.1 hevent ▸ h

/-- One kill event, shown by the pack's policy or among those struck down. -/
theorem push {slot : SlotId} {cause : String} {mode : DeathRevealMode} (attackers : List SlotId)
    (unstoppable : Bool)
    (h : mode = deathRevealMode input slot cause ∨ mode = .full ∧ (slot, cause) ∈ struck)
    (hstruck : ∀ entry ∈ struck, entry = (slot, cause) ∧ mode = .full) :
    Trail input before struck (before ++ [.playerKilled slot cause attackers unstoppable mode]) where
  shown := by
    refine ⟨[⟨slot, cause, mode⟩], ?_, ?_, ?_⟩
    · rw [List.filterMap_append]
      rfl
    · intro death hdeath
      rw [List.mem_singleton.1 hdeath]
      exact h
    · intro entry hentry
      obtain ⟨rfl, rfl⟩ := hstruck entry hentry
      exact List.mem_singleton_self _
  queued := by
    rw [List.filterMap_append]
    exact List.append_nil _
  resolved := by
    rw [List.filterMap_append]
    exact List.append_nil _

theorem kill (slot : SlotId) (cause : String) (attackers : List SlotId) (unstoppable : Bool) :
    Trail input before [] (before ++
      [.playerKilled slot cause attackers unstoppable (deathRevealMode input slot cause)]) :=
  push attackers unstoppable (.inl rfl) (by simp)

theorem struckDown (slot : SlotId) (cause : String) (attackers : List SlotId) (unstoppable : Bool) :
    Trail input before [(slot, cause)] (before ++ [.playerKilled slot cause attackers unstoppable .full]) :=
  push attackers unstoppable (.inr ⟨rfl, List.mem_singleton_self _⟩) (by simp)

theorem merge (target attacker : SlotId) (unstoppable : Bool) : Trail input before []
      (updateFirst (killsSlot target) (mergeAttribution attacker unstoppable) before) where
  toShows := .of_eq (filterMap_merge (fun event => by cases event <;> rfl) target before)
  queued := filterMap_merge (fun event => by cases event <;> rfl) target before
  resolved := filterMap_merge (fun event => by cases event <;> rfl) target before

theorem foldl {α β : Type} (events : β → List (InnerEvent F)) {step : β → α → β}
    {found : β → α → List (SlotId × String)} {xs : List α}
    (h : ∀ b, ∀ x ∈ xs, Trail input (events b) (found b x) (events (step b x))) (init : β) :
    Trail input (events init) (along step found xs init) (events (xs.foldl step init)) :=
  foldl_along (T := fun b struck b' => Trail input (events b) struck (events b'))
    (fun b => .refl (events b)) (fun h h' => h.trans h') h init

end Trail

/-! ## Runs leave trails -/

section Runs

open Deaths

variable {input : ResolutionInput F} {Apart : InnerEvent F → Prop} {Ok Att : SlotId → Prop} {a b : Deaths F}

/-- What a reader finds in no event that may be pushed, a run leaves as it is. -/
theorem filterMap_of_run {α : Type} {f : InnerEvent F → Option α} (h : Run input Apart Ok Att a b)
    (hmerge : ∀ attacker unstoppable event, f (mergeAttribution attacker unstoppable event) = f event)
    (hnone : ∀ event, Heard input event ∨ Apart event → f event = none) :
    b.events.filterMap f = a.events.filterMap f := by
  have hpush : ∀ {d : Deaths F} {event : InnerEvent F}, Heard input event ∨ Apart event →
      (d.events ++ [event]).filterMap f = d.events.filterMap f := by
    intro d event hevent
    simp [hnone event hevent]
  refine Steps.preserved (fun d : Deaths F => d.events.filterMap f = a.events.filterMap f)
    (fun c d hstep hc => ?_) h rfl
  cases hstep with
  | emit event pushed => exact (hpush pushed.2).trans hc
  | kill slot cause attackers unstoppable deathReveal records fresh ok heard logged =>
    have hevent : Heard input (.playerKilled slot cause attackers unstoppable deathReveal) ∨ Apart _ := heard
    exact (hpush hevent).trans hc
  | merge target attacker unstoppable records logged =>
    exact (filterMap_merge (fun event => hmerge attacker unstoppable event) target c.events).trans hc
  | save saves => exact hc

theorem Shows.of_run (h : Run input Apart Ok Att a b) (hshown : ∀ event, Apart event → shown? event = none) :
    Shows input a.events [] b.events := by
  refine Steps.preserved (fun d : Deaths F => Shows input a.events [] d.events) (fun c d hstep hc => ?_) h (.refl _)
  refine hc.trans ?_
  cases hstep with
  | emit event pushed =>
    have hnone : shown? event = none := by
      cases event with
      | playerKilled => exact absurd pushed.1 id
      | _ => rfl
    exact .of_eq (by simp [Deaths.emit, hnone])
  | kill slot cause attackers unstoppable deathReveal records fresh ok heard logged =>
    have hmode := heard.resolve_right fun hapart => Option.some_ne_none _ (hshown _ hapart)
    exact (Trail.push attackers unstoppable (.inl hmode) (by simp)).toShows
  | merge target attacker unstoppable records logged => exact (Trail.merge target attacker unstoppable).toShows
  | save saves => exact .refl _

theorem resolved_of_run (h : Run input Apart Ok Att a b) (hapart : ∀ event, Apart event → resolved? event = none) :
    b.events.filterMap resolved? = a.events.filterMap resolved? :=
  filterMap_of_run h (fun _ _ event => by cases event <;> rfl) fun event hevent =>
    hevent.elim (fun hheard => by cases event <;> first | rfl | exact absurd hheard id) (hapart event)

theorem queued_of_run (h : Run input Apart Ok Att a b) (hapart : ∀ event, Apart event → queued? event = none) :
    b.events.filterMap queued? = a.events.filterMap queued? :=
  filterMap_of_run h (fun _ _ event => by cases event <;> rfl) fun event hevent =>
    hevent.elim (fun hheard => by cases event <;> first | rfl | exact absurd hheard id) (hapart event)

theorem Trail.of_run (h : Run input NoEvent Ok Att a b) : Trail input a.events [] b.events :=
  ⟨⟨.of_run h fun _ => False.elim, resolved_of_run h fun _ => False.elim⟩, queued_of_run h fun _ => False.elim⟩

end Runs

/-! ## One kill -/

section Kills

variable (input : ResolutionInput F) (protections : Protections)

/-- The interceptor that dies in the target's place. -/
def interceptStruck (d : Deaths F) (source : ProtectionSource) : List (SlotId × String) :=
  match source.interceptCause with
  | none => []
  | some cause => if d.killed.contains source.protector then [] else [(source.protector, cause)]

/-- The attacker that a guard strikes down. -/
def retaliationStruck (attacker : SlotId) (d : Deaths F) (source : ProtectionSource) :
    List (SlotId × String) :=
  match source.guardRetaliationCause with
  | none => []
  | some cause =>
    if d.killed.contains attacker ||
        !(blockingSources input.pack.document protections attacker cause).isEmpty then []
    else [(attacker, cause)]

/-- Those that the protectors of a target strike down when they prevent its kill. -/
def preventStruck (protectors : List ProtectionSource) (action : KillAction) (d : Deaths F) :
    List (SlotId × String) :=
  let d := d.emit (.playerSaved action.target ["protected"] (protectors.map (·.protector)))
  let d := recordCprSaves protectors d
  along (interceptKill input action.attacker) interceptStruck protectors d ++
    along (guardRetaliation input protections action.attacker)
      (retaliationStruck input protections action.attacker) protectors
      (protectors.foldl (interceptKill input action.attacker) d)

/-- Those that one kill strikes down beside its target. -/
def killStruck (action : KillAction) (d : Deaths F) : List (SlotId × String) :=
  let protectors := blockingSources input.pack.document protections action.target action.cause
  if d.killed.contains action.target || protectors.isEmpty || action.unstoppable then []
  else preventStruck input protections protectors action d

/-- Those that a kill past the target-state gate strikes down. -/
def strikeStruck (transientEffects : BTreeMap SlotId (BTreeSet String)) (attacker : SlotId)
    (cause : String) (unstoppable : Bool) (target : SlotId) (d : Deaths F) :
    List (SlotId × String) :=
  let tags := targetTags input transientEffects target
  if (targetStateGateReason input.pack.document tags .kill).isSome then []
  else
    killStruck input protections
      { target, attacker, cause, unstoppable, deathReveal := deathRevealMode input target cause,
        targetTags := tags }
      d

end Kills

section Trails

open Deaths

variable {input : ResolutionInput F} {protections : Protections}

theorem mergeStacked_trail (target attacker : SlotId) (cause : String) (unstoppable : Bool) (d : Deaths F) :
    Trail input d.events [] (mergeStackedKillAttribution target attacker cause unstoppable d).1.events := by
  unfold mergeStackedKillAttribution
  split
  · exact .merge target attacker unstoppable
  · exact .refl _

theorem stackKill_trail (pack : Pack F) (target attacker : SlotId) (cause : String)
    (unstoppable : Bool) (d : Deaths F) :
    Trail input d.events [] (stackKill pack target attacker cause unstoppable d).events := by
  unfold stackKill
  split
  · exact mergeStacked_trail target attacker cause unstoppable d
  · exact .refl _

theorem interceptKill_trail (attacker : SlotId) (d : Deaths F) (source : ProtectionSource) :
    Trail input d.events (interceptStruck d source) (interceptKill input attacker d source).events := by
  unfold interceptKill interceptStruck
  cases source.interceptCause with
  | none => exact .refl _
  | some cause =>
    dsimp only
    split
    · exact stackKill_trail _ _ _ _ _ d
    · exact .struckDown _ _ _ _

theorem guardRetaliation_trail (attacker : SlotId) (d : Deaths F) (source : ProtectionSource) :
    Trail input d.events (retaliationStruck input protections attacker d source)
      (guardRetaliation input protections attacker d source).events := by
  unfold guardRetaliation retaliationStruck
  cases source.guardRetaliationCause with
  | none => exact .refl _
  | some cause =>
    dsimp only
    cases d.killed.contains attacker with
    | true => exact stackKill_trail _ _ _ _ _ d
    | false =>
      cases (blockingSources input.pack.document protections attacker cause).isEmpty with
      | false =>
        have hsaved : Aside (.playerSaved attacker ["protected"]
            ((blockingSources input.pack.document protections attacker cause).map (·.protector)) :
              InnerEvent F) := ⟨rfl, rfl, rfl⟩
        exact .emit hsaved
      | true => exact .struckDown _ _ _ _

theorem preventKill_trail (protectors : List ProtectionSource) (action : KillAction) (d : Deaths F) :
    Trail input d.events (preventStruck input protections protectors action d)
      (preventKill input protections protectors action d).events := by
  unfold preventKill preventStruck
  dsimp only
  have hsaved : Trail input d.events [] (recordCprSaves protectors
      (d.emit (.playerSaved action.target ["protected"] (protectors.map (·.protector))))).events :=
    .emit ⟨rfl, rfl, rfl⟩
  refine hsaved.trans ((Trail.foldl (fun d : Deaths F => d.events)
    (fun d source _ => interceptKill_trail action.attacker d source) _).trans ?_)
  exact Trail.foldl (fun d : Deaths F => d.events)
    (fun d source _ => guardRetaliation_trail action.attacker d source) _

theorem resolveOneKill_trail {action : KillAction}
    (mode : action.deathReveal = deathRevealMode input action.target action.cause) (d : Deaths F) :
    Trail input d.events (killStruck input protections action d)
      (resolveOneKill input protections action d).events := by
  unfold resolveOneKill killStruck
  dsimp only
  cases hdead : d.killed.contains action.target with
  | true => exact stackKill_trail _ _ _ _ _ d
  | false =>
    cases hprotected : !(blockingSources input.pack.document protections action.target
        action.cause).isEmpty && !action.unstoppable with
    | true =>
      have hprevented : ((blockingSources input.pack.document protections action.target
          action.cause).isEmpty || action.unstoppable) = false := by
        simpa using hprotected
      rw [Bool.false_or, hprevented, if_neg (by simp), if_neg (by simp), if_pos rfl]
      exact preventKill_trail _ action d
    | false =>
      have hopen : ((blockingSources input.pack.document protections action.target
          action.cause).isEmpty || action.unstoppable) = true := by
        rw [Bool.and_eq_false_iff] at hprotected
        simpa using hprotected
      rw [Bool.false_or, hopen, if_pos rfl, if_neg (by simp), if_neg (by simp)]
      split
      · rename_i reason _
        have hsaved : Run input NoEvent AnySlot AnySlot d _ := saveBulletproof_run input action reason d
        exact .of_run hsaved
      · have hkilled : Trail input d.events [] (d.kill action.target action.cause
            [action.attacker] action.unstoppable
            (deathRevealMode input action.target action.cause) []).events :=
          .kill action.target action.cause [action.attacker] action.unstoppable
        rw [← mode] at hkilled
        exact hkilled

theorem strike_trail (transientEffects : BTreeMap SlotId (BTreeSet String)) (attacker : SlotId)
    (cause : String) (unstoppable : Bool) (target : SlotId) (d : Deaths F) :
    Trail input d.events (strikeStruck input protections transientEffects attacker cause unstoppable target d)
      (strike input protections transientEffects attacker cause unstoppable target d).events := by
  unfold strike strikeStruck
  dsimp only
  split
  · exact .refl _
  · exact resolveOneKill_trail rfl d

end Trails

/-! ## Cascades -/

section Struck

variable (input : ResolutionInput F) (protections : Protections)

/-- Those that one chosen retaliation strikes down beside its target. -/
def chosenStruck (killedNow : List SlotId) (d : Deaths F) (retaliation : RetaliationRecord) :
    List (SlotId × String) :=
  if !killedNow.contains retaliation.actor || d.killed.contains retaliation.target then []
  else if (chosenRetaliationSuppressionReason input retaliation.actor
      (playerKillCause d.events retaliation.actor)).isSome then []
  else if !aliveInState input retaliation.target then []
  else
    killStruck input protections
      { target := retaliation.target
        attacker := retaliation.actor
        cause := retaliation.sourceAction
        unstoppable :=
          chosenRetaliationBypassesProtect input.pack.document retaliation.sourceAction
        deathReveal := deathRevealMode input retaliation.target retaliation.sourceAction
        targetTags := targetTags input ∅ retaliation.target }
      d

/-- Those that the chosen retaliations strike down. -/
def retaliationsStruck (d : Deaths F) : List (SlotId × String) :=
  along (chosenRetaliation input protections d.killed) (chosenStruck input protections d.killed)
    input.state.retaliations d

/-- Those that one trigger on one observation strikes down. -/
def triggerStruck (transientEffects : BTreeMap SlotId (BTreeSet String))
    (observation : TriggerObservation) (d : Deaths F) (trigger : TriggerRule) :
    List (SlotId × String) :=
  let pack := input.pack.document
  if trigger.on != observation.on || !triggerParticipatesInFixpoint pack trigger then []
  else
    match input.state.slot? observation.target with
    | none => []
    | some targetSlot =>
      if !triggerObservationMatches trigger targetSlot (input.state.slot? observation.actor)
          observation then []
      else
        match producedActor observation trigger.produces.actor,
            producedTarget observation trigger.produces.target with
        | some producedActor, some producedTarget =>
          let d := d.emit (.trigger trigger.id
            { on := triggerOnLabel observation.on
              sourceTarget := observation.target
              sourceActor := observation.actor
              sourceCause := observation.cause
              producedActor
              producedTarget
              actorFilter := trigger.ifActorHas })
          if trigger.produces.ability != .kill then []
          else
            strikeStruck input protections transientEffects producedActor trigger.id
              (generatedKillBypassesProtect pack trigger) producedTarget d
        | _, _ => []

/-- Those that one round of triggers strikes down. -/
def roundStruck (transientEffects : BTreeMap SlotId (BTreeSet String))
    (frontier : List TriggerObservation) (d : Deaths F) : List (SlotId × String) :=
  along
    (fun d observation =>
      input.pack.document.triggers.foldl (fireTrigger input protections transientEffects observation) d)
    (fun d observation =>
      along (fireTrigger input protections transientEffects observation)
        (triggerStruck input protections transientEffects observation)
        input.pack.document.triggers d)
    frontier { d with log := [] }

/-- Those that the trigger fixpoint strikes down. -/
def loopStruck (transientEffects : BTreeMap SlotId (BTreeSet String)) (cascade : Option TriggerCascade) :
    Nat → List TriggerObservation → Deaths F → List (SlotId × String)
  | _, [], _ => []
  | 0, _ :: _, _ => []
  | rounds + 1, observation :: frontier, d =>
    let (next, nextKills) :=
      triggerRound input protections transientEffects (observation :: frontier) d
    let (next, dependents) := triggerCascade input cascade next
    roundStruck input protections transientEffects (observation :: frontier) d ++
      loopStruck transientEffects cascade rounds
        ((nextKills ++ dependents).flatMap killObservations) next

end Struck

section Cascades

variable {input : ResolutionInput F} {protections : Protections}

theorem chosenRetaliation_trail (killedNow : List SlotId) (d : Deaths F) (retaliation : RetaliationRecord) :
    Trail input d.events (chosenStruck input protections killedNow d retaliation)
      (chosenRetaliation input protections killedNow d retaliation).events := by
  unfold chosenRetaliation chosenStruck
  split
  · exact .refl _
  · split
    · exact .refl _
    · split
      · exact .refl _
      · exact resolveOneKill_trail rfl d

theorem applyChosenRetaliations_trail (d : Deaths F) :
    Trail input d.events (retaliationsStruck input protections d)
      (applyChosenRetaliations input protections d).events :=
  Trail.foldl (fun d : Deaths F => d.events)
    (fun b retaliation _ => chosenRetaliation_trail d.killed b retaliation) d

theorem dependencyDeaths_trail (dependencies : List DeathDependency) (d : Deaths F) :
    Trail input d.events [] (dependencies.foldl (dependencyDeath input d.killed) (d, [])).1.events :=
  .of_run (dependencyDeaths_run (fun _ => id) (aliveOk_any input) dependencies fun _ _ => trivial)

/-! ## Triggers -/

variable (transientEffects : BTreeMap SlotId (BTreeSet String))

theorem fireTrigger_trail (observation : TriggerObservation) (d : Deaths F) (trigger : TriggerRule) :
    Trail input d.events (triggerStruck input protections transientEffects observation d trigger)
      (fireTrigger input protections transientEffects observation d trigger).events := by
  unfold fireTrigger triggerStruck
  dsimp only
  split
  · exact .refl _
  · cases input.state.slot? observation.target with
    | none => exact .refl _
    | some targetSlot =>
      dsimp only
      split
      · exact .refl _
      · cases producedActor observation trigger.produces.actor with
        | none => exact .refl _
        | some actor =>
          cases producedTarget observation trigger.produces.target with
          | none => exact .refl _
          | some target =>
            dsimp only
            split
            · exact .emit ⟨rfl, rfl, rfl⟩
            · have hfired : ∀ event, Aside event → Trail input d.events [] (d.emit event).events :=
                fun _ haside => .emit haside
              refine (hfired _ ?_).trans (strike_trail transientEffects actor trigger.id _ target _)
              exact ⟨rfl, rfl, rfl⟩

theorem triggerRound_trail (frontier : List TriggerObservation) (d : Deaths F) :
    Trail input d.events (roundStruck input protections transientEffects frontier d)
      (triggerRound input protections transientEffects frontier d).1.events :=
  Trail.foldl (fun d : Deaths F => d.events)
    (fun d observation _ => Trail.foldl (fun d : Deaths F => d.events)
      (fun d trigger _ => fireTrigger_trail transientEffects observation d trigger) d)
    { d with log := [] }

theorem triggerCascade_trail (cascade : Option TriggerCascade) (d : Deaths F) :
    Trail input d.events [] (triggerCascade input cascade d).1.events := by
  cases cascade with
  | none => exact .refl _
  | some dependencies =>
    obtain ⟨guards, hides⟩ := dependencies
    exact (dependencyDeaths_trail guards d).trans (dependencyDeaths_trail hides _)

/-- The trigger fixpoint leaves a trail. -/
theorem triggerLoop_trail
    (cascade : Option TriggerCascade) (rounds : Nat) (frontier : List TriggerObservation)
    (d : Deaths F) :
    Trail input d.events (loopStruck input protections transientEffects cascade rounds frontier d)
      (triggerLoop input protections transientEffects cascade rounds frontier d).1.events := by
  induction rounds generalizing frontier d with
  | zero => cases frontier <;> exact .refl _
  | succ rounds ih =>
    cases frontier with
    | nil => exact .refl _
    | cons observation frontier =>
      unfold triggerLoop loopStruck
      dsimp only
      exact (triggerRound_trail transientEffects (observation :: frontier) d).trans
        ((triggerCascade_trail cascade _).trans (ih _ _))

end Cascades

end Fmarch.Resolver
