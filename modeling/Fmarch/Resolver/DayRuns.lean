import Fmarch.Domain.Liveness
import Fmarch.Resolver.DayVote
import Fmarch.Resolver.NightRuns

/-!
# A day's stages

The stages of a day before its vote push body events, and kill what their own day state shows alive.
`Day.Step` says so once; the duels' day state starts from the snapshot, so what died earlier in the
day is a parameter of the step.

**`beforeVote_killed`**: before the vote nobody dies twice and everybody who dies was alive, if no
living slot's self-destruct takes it twice and no duel of living slots names one that died earlier in
the day.
-/

namespace Fmarch.Resolver

open Fmarch.Domain Keyed StableSort

variable {F : Type} [Float64 F]

/-- The kills are of distinct slots, alive in `state` and not in `base`. -/
def Spares (base : List SlotId) (state : StateSnapshot F) (kills : List SlotId) : Prop :=
  kills.Nodup ∧ ∀ slot ∈ kills, Living state slot ∧ slot ∉ base

namespace Day

/-- One small step of a day stage. Where `Careful` holds, its kills spare the dead, as long as its day
state brought nobody back. -/
inductive Step (Careful : Prop) (input : ResolutionInput F) (base : List SlotId) :
    Day F → Day F → Prop
  | emit (day : Day F) (event : InnerEvent F) (remark : Remark event) :
      Step Careful input base day (day.emit event)
  | commit (day : Day F) (events : List (InnerEvent F)) (told : ∀ event ∈ events, Told input event)
      (kills : Careful → (∀ slot, Living day.state slot → Living input.state slot) →
        Spares base day.state (killedSlots events)) :
      Step Careful input base day (day.commit events)

/-- A run of small steps. -/
abbrev Run (Careful : Prop) (input : ResolutionInput F) (base : List SlotId) : Day F → Day F → Prop :=
  Relation.ReflTransGen (Step Careful input base)

/-- Who the day state shows alive was alive, and has not died since but perhaps in `base`; nobody
has died twice. -/
structure Tracked (input : ResolutionInput F) (base : List SlotId) (day : Day F) : Prop where
  nodup : (killedSlots day.events).Nodup
  living : ∀ slot ∈ killedSlots day.events, Living input.state slot
  fresh : ∀ slot, Living day.state slot →
    Living input.state slot ∧ (slot ∈ killedSlots day.events → slot ∈ base)
  distinct : DistinctSlots day.state

end Day

section Runs

open Day Relation

variable {Careful : Prop} {base : List SlotId} {input : ResolutionInput F}

variable {a b : Day F} {targetSlot : SlotState} {ita : Ita F}

theorem Day.Run.told (h : Run Careful input base a b) (ha : ∀ event ∈ a.events, Told input event) :
    ∀ event ∈ b.events, Told input event := by
  refine Steps.preserved (fun day => ∀ event ∈ day.events, Told input event)
    (fun c day hstep hc => ?_) h ha
  cases hstep with
  | emit event remark =>
    intro other hother
    rcases List.mem_append.1 hother with hold | hnew
    · exact hc other hold
    · exact List.mem_singleton.1 hnew ▸ remark.told
  | commit events told kills =>
    intro other hother
    rcases List.mem_append.1 hother with hold | hnew
    · exact hc other hold
    · exact told other hnew

theorem Day.Step.tracked (careful : Careful) (h : Step Careful input base a b)
    (ha : a.Tracked input base) : b.Tracked input base := by
  cases h with
  | emit event remark =>
    have hkilled : killedSlots (a.emit event).events = killedSlots a.events := by
      simp [Day.emit, killedSlots, remark.plain.killedSlot?]
    refine ⟨?_, ?_, ?_, ha.distinct⟩
    · rw [hkilled]
      exact ha.nodup
    · rw [hkilled]
      exact ha.living
    · rw [hkilled]
      exact ha.fresh
  | commit events told kills =>
    obtain ⟨hnodup, hkills⟩ := kills careful fun slot hliving => (ha.fresh slot hliving).1
    have hkilled : killedSlots (a.commit events).events =
        killedSlots a.events ++ killedSlots events := killedSlots_append _ _
    refine ⟨?_, ?_, ?_, ha.distinct.applyEvents events⟩
    · rw [hkilled, List.nodup_append]
      refine ⟨ha.nodup, hnodup, fun slot hold other hnew heq => ?_⟩
      obtain ⟨hliving, hbase⟩ := hkills other hnew
      exact hbase ((ha.fresh other hliving).2 (heq ▸ hold))
    · rw [hkilled]
      intro slot hslot
      rcases List.mem_append.1 hslot with hold | hnew
      · exact ha.living slot hold
      · exact (ha.fresh slot (hkills slot hnew).1).1
    · rw [hkilled]
      intro slot hliving
      obtain ⟨hbefore, hspared⟩ := living_applyEvents ha.distinct hliving
      refine ⟨(ha.fresh slot hbefore).1, fun hslot => ?_⟩
      rcases List.mem_append.1 hslot with hold | hnew
      · exact (ha.fresh slot hbefore).2 hold
      · exact absurd hnew hspared

theorem Day.Run.tracked (careful : Careful) (h : Run Careful input base a b)
    (ha : a.Tracked input base) : b.Tracked input base :=
  Steps.preserved (Day.Tracked input base) (fun _ _ hstep => hstep.tracked careful) h ha

/-! ## Stages one after another -/

/-- Nobody died twice, and everybody who died was alive. -/
def KilledOnce (input : ResolutionInput F) (events : List (InnerEvent F)) : Prop :=
  (killedSlots events).Nodup ∧ ∀ slot ∈ killedSlots events, Living input.state slot

/-- What a stage makes of the events before it. -/
structure StageOk (Careful : Prop) (input : ResolutionInput F)
    (before after : List (InnerEvent F)) : Prop where
  told : (∀ event ∈ before, Told input event) → ∀ event ∈ after, Told input event
  killedOnce : Careful → DistinctSlots input.state → KilledOnce input before → KilledOnce input after

theorem StageOk.trans {a b c : List (InnerEvent F)} (h : StageOk Careful input a b)
    (h' : StageOk Careful input b c) : StageOk Careful input a c where
  told := h'.told ∘ h.told
  killedOnce careful distinct := h'.killedOnce careful distinct ∘ h.killedOnce careful distinct

theorem StageOk.refl (events : List (InnerEvent F)) : StageOk Careful input events events :=
  ⟨id, fun _ _ => id⟩

/-- A stage that only remarks. -/
theorem StageOk.append {before events : List (InnerEvent F)}
    (h : ∀ event ∈ events, Remark event) : StageOk Careful input before (before ++ events) where
  told hbefore event hevent := by
    rcases List.mem_append.1 hevent with hold | hnew
    · exact hbefore event hold
    · exact (h event hnew).told
  killedOnce _ _ hbefore := by
    unfold KilledOnce
    rw [killedSlots_append, killedSlots_plain (plain_of_remarks h), List.append_nil]
    exact hbefore

/-- A stage that folds its day state from the snapshot and the day so far. -/
theorem StageOk.of_run {before : List (InnerEvent F)} {day : Day F}
    (h : Run Careful input [] { events := before, state := applyEvents input.state before } day) :
    StageOk Careful input before day.events where
  told hbefore := Day.Run.told h hbefore
  killedOnce careful distinct hbefore := by
    have hstart : Day.Tracked input []
        { events := before, state := applyEvents input.state before } := by
      refine ⟨hbefore.1, hbefore.2, fun slot hliving => ?_, distinct.applyEvents before⟩
      obtain ⟨hinput, hspared⟩ := living_applyEvents distinct hliving
      exact ⟨hinput, fun hslot => absurd hslot hspared⟩
    have hend := Day.Run.tracked careful h hstart
    exact ⟨hend.nodup, hend.living⟩

/-! ## Living pairs -/

omit [Float64 F] in
theorem livingPair_ok {label : String} {state : StateSnapshot F} {sub : Submission}
    {actorSlot : SlotState} (h : livingPair label state sub = .ok (actorSlot, targetSlot)) :
    Living state sub.actor ∧ Living state targetSlot.slotId ∧ sub.targets.head? = some targetSlot.slotId := by
  unfold livingPair at h
  split at h
  · cases h
  · rename_i target rest htargets
    split at h
    · cases h
    · rename_i actor hactor
      split at h
      · cases h
      · rename_i halive
        split at h
        · cases h
        · rename_i slot htarget
          split at h
          · cases h
          · rename_i htargetAlive
            obtain ⟨rfl, rfl⟩ : actor = actorSlot ∧ slot = targetSlot := by simpa using h
            obtain ⟨hmem, hid⟩ := slot?_some hactor
            obtain ⟨htargetMem, htargetId⟩ := slot?_some htarget
            refine ⟨⟨actor, hmem, hid, by simpa using halive⟩,
              ⟨slot, htargetMem, rfl, by simpa using htargetAlive⟩, ?_⟩
            rw [htargets, List.head?_cons, htargetId]

/-! ## Self-destructs -/

/-- The self-destruct would kill its actor and, as its target, its actor again. -/
def selfAimed (entry : Submission × ActionTemplate F) : Bool :=
  match entry.2.selfDestruct with
  | some spec =>
    spec.killTarget && spec.sacrificeActor && entry.1.targets.head? == some entry.1.actor
  | none => false

theorem killedSlots_selfDestructEvents (input : ResolutionInput F) (sub : Submission)
    (spec : SelfDestructSpec) (actorRole : RoleKey) (target : SlotId) :
    killedSlots (selfDestructEvents input sub spec actorRole target) =
      (if spec.killTarget then [target] else []) ++ (if spec.sacrificeActor then [sub.actor] else []) := by
  unfold selfDestructEvents
  dsimp only
  generalize (_ && _ : Bool) = carries
  cases carries <;> cases spec.killTarget <;> cases spec.sacrificeActor <;> rfl

theorem told_selfDestructEvents (input : ResolutionInput F) (sub : Submission)
    (spec : SelfDestructSpec) (actorRole : RoleKey) (target : SlotId) :
    ∀ event ∈ selfDestructEvents input sub spec actorRole target, Told input event := by
  intro event hevent
  unfold selfDestructEvents at hevent
  rcases List.mem_cons.1 hevent with rfl | hevent
  · exact ⟨trivial, trivial⟩
  · rcases List.mem_append.1 hevent with htarget | hactor
    · split at htarget
      · exact List.mem_singleton.1 htarget ▸ ⟨trivial, rfl⟩
      · exact absurd htarget List.not_mem_nil
    · split at hactor
      · split at hactor
        · simp only [List.mem_cons, List.not_mem_nil, or_false] at hactor
          rcases hactor with rfl | rfl
          · exact ⟨trivial, rfl⟩
          · exact ⟨trivial, trivial⟩
        · exact List.mem_singleton.1 hactor ▸ ⟨trivial, rfl⟩
      · exact absurd hactor List.not_mem_nil

theorem selfDestruct_run (entry : Submission × ActionTemplate F)
    (haimed : Careful → Living input.state entry.1.actor → selfAimed entry = false)
    (day : Day F) :
    Run Careful input [] day (selfDestruct input day entry) := by
  obtain ⟨sub, template⟩ := entry
  unfold selfDestruct
  dsimp only
  split
  · exact .refl
  · rename_i spec hspec
    split
    · exact .single (.emit day _ trivial)
    · rename_i actorSlot targetSlot hpair
      obtain ⟨hactor, htarget, hhead⟩ := livingPair_ok hpair
      refine .single (.commit day _ (told_selfDestructEvents input sub spec _ _) fun careful hback => ?_)
      have hspared := haimed careful (hback _ hactor)
      rw [killedSlots_selfDestructEvents]
      unfold selfAimed at hspared
      dsimp only at hspared
      rw [hspec] at hspared
      refine ⟨?_, fun slot hslot => ⟨?_, List.not_mem_nil⟩⟩
      · cases htarget : spec.killTarget <;> cases hactor : spec.sacrificeActor <;>
          simp_all
      · rcases List.mem_append.1 hslot with hslot | hslot
        · split at hslot
          · exact List.mem_singleton.1 hslot ▸ htarget
          · exact absurd hslot List.not_mem_nil
        · split at hslot
          · exact List.mem_singleton.1 hslot ▸ hactor
          · exact absurd hslot List.not_mem_nil

/-- The live self-destructs a window admits. -/
def selfDestructs (input : ResolutionInput F) (matchesWindow : ActionTemplate F → Bool) :
    List (Submission × ActionTemplate F) :=
  dayActions input fun template => matchesWindow template && template.hasAbility .selfDestruct

theorem resolveSelfDestructActionsMatching_ok (matchesWindow : ActionTemplate F → Bool)
    (haimed : Careful → ∀ entry ∈ selfDestructs input matchesWindow,
      Living input.state entry.1.actor → selfAimed entry = false)
    (events : List (InnerEvent F)) :
    StageOk Careful input events (resolveSelfDestructActionsMatching input matchesWindow events) :=
  .of_run (Steps.foldl
    (fun day entry hentry => selfDestruct_run entry (fun careful => haimed careful entry hentry) day)
    _)

/-! ## Day kills -/

theorem remark_limitedUse (input : ResolutionInput F) (sub : Submission)
    (template : ActionTemplate F) : ∀ event ∈ limitedUse input sub template, Remark event := by
  intro event hevent
  unfold limitedUse at hevent
  split at hevent
  · exact List.mem_singleton.1 hevent ▸ trivial
  · exact absurd hevent List.not_mem_nil

omit [Float64 F] in
theorem spares_one {state : StateSnapshot F} {slot : SlotId} (h : Living state slot)
    (hbase : slot ∉ base) : Spares base state [slot] :=
  ⟨List.nodup_singleton slot, fun _ hslot => List.mem_singleton.1 hslot ▸ ⟨h, hbase⟩⟩

theorem dayKill_run (entry : Submission × ActionTemplate F) (day : Day F) :
    Run Careful input [] day (dayKill input day entry) := by
  obtain ⟨sub, template⟩ := entry
  unfold dayKill
  dsimp only
  split
  · exact .single (.emit day _ trivial)
  · rename_i actorSlot targetSlot hpair
    obtain ⟨hactor, htarget, -⟩ := livingPair_ok hpair
    split
    · exact .single (.emit day _ trivial)
    · have hvictim : Living day.state
          (alignmentFailbackVictim input template sub.actor targetSlot.slotId).1 :=
        alignmentFailbackVictim_ok htarget fun _ => hactor
      split
      · exact .refl
      · refine .single (.commit day _ (fun event hevent => ?_) fun _ _ => ?_)
        · rcases List.mem_append.1 hevent with huse | hkill
          · exact (remark_limitedUse input sub template event huse).told
          · exact List.mem_singleton.1 hkill ▸ ⟨trivial, rfl⟩
        · unfold dayKillEvents
          rw [killedSlots_append, killedSlots_plain (plain_of_remarks (remark_limitedUse input sub template))]
          exact spares_one hvictim List.not_mem_nil

theorem resolveDayKillActions_ok (events : List (InnerEvent F)) :
    StageOk Careful input events (resolveDayKillActions input events) := by
  unfold resolveDayKillActions
  split
  · exact .refl events
  · exact .of_run (Steps.foldl (fun day entry _ => dayKill_run entry day) _)

/-! ## Duels -/

/-- The slots of a duel: its actor and its first target. -/
def duelSlots (entry : Submission × ActionTemplate F) : List SlotId :=
  if entry.2.duel.isSome then entry.1.actor :: entry.1.targets.take 1 else []

/-- The triggers of a duel turn on its own slots only. -/
theorem duelEvents_run (input : ResolutionInput F) (sub : Submission) (template : ActionTemplate F)
    (duel : DuelSpec) (targetSlot : SlotState) :
    let events := (duelEvents input sub template duel targetSlot).1
    (∀ event ∈ events, Told input event) ∧ (killedSlots events).Nodup ∧
      ∀ slot ∈ killedSlots events, slot = sub.actor ∨ slot = targetSlot.slotId := by
  intro events
  let Dueling : SlotId → Prop := fun slot => slot = sub.actor ∨ slot = targetSlot.slotId
  have hkilled : Dueling (duelResult duel sub.actor targetSlot).2 := by
    unfold duelResult
    dsimp only
    split_ifs
    · exact .inr rfl
    · exact .inl rfl
  let start : Deaths F :=
    { events := limitedUse input sub template ++
        [.duelResolved sub.actor targetSlot.slotId (duelResult duel sub.actor targetSlot).1
            (duelResult duel sub.actor targetSlot).2 sub.actionId input.phaseId,
          .playerKilled (duelResult duel sub.actor targetSlot).2 template.id [sub.actor] true
            (deathRevealMode input (duelResult duel sub.actor targetSlot).2 template.id)]
      killed := [(duelResult duel sub.actor targetSlot).2] }
  have hstart : start.Tracked Dueling Dueling := by
    refine ⟨⟨fun slot hslot => List.mem_singleton.1 hslot ▸ hkilled, by simp [start]⟩, ?_,
      List.nodup_singleton _⟩
    simp only [start]
    rw [killedSlots_append, killedSlots_plain (plain_of_remarks (remark_limitedUse input sub template))]
    rfl
  have hrun : Deaths.Run input NoEvent Dueling Dueling start
      (applyTriggerFixpoint input ∅ ∅ none
        [{ on := .ability .duel, target := (duelResult duel sub.actor targetSlot).2,
           actor := sub.actor, cause := template.id }] start).1 := by
    refine triggerLoop_run (fun _ => id) protectionsOk_empty (fun _ _ => id)
      (fun hcascade => absurd hcascade (by simp)) _ (fun observation hobservation => ?_)
      hstart.toKnown
    obtain rfl := List.mem_singleton.1 hobservation
    exact ⟨hkilled, .inl rfl⟩
  have hend := hrun.tracked hstart
  refine ⟨hrun.told fun event hevent => ?_, ?_, ?_⟩
  · rcases List.mem_append.1 hevent with huse | hnew
    · exact (remark_limitedUse input sub template event huse).told
    · simp only [List.mem_cons, List.not_mem_nil, or_false] at hnew
      rcases hnew with rfl | rfl
      · exact ⟨trivial, trivial⟩
      · exact ⟨trivial, rfl⟩
  · exact hend.slots ▸ hend.nodup
  · exact fun slot hslot => hend.ok slot (hend.slots ▸ hslot)

theorem duelAction_run (entry : Submission × ActionTemplate F)
    (hspared : Careful → (∀ slot ∈ duelSlots entry, Living input.state slot) →
      ∀ slot ∈ duelSlots entry, slot ∉ base) (state : Day F × List String) :
    Run Careful input base state.1 (duelAction input state entry).1 := by
  obtain ⟨day, notes⟩ := state
  obtain ⟨sub, template⟩ := entry
  unfold duelAction
  dsimp only
  split
  · exact .refl
  · rename_i duel hduel
    split
    · exact .refl
    · rename_i actorSlot targetSlot hpair
      obtain ⟨hactor, htarget, hhead⟩ := livingPair_ok hpair
      split
      · exact .single (.emit day _ trivial)
      · obtain ⟨htold, hnodup, hslots⟩ := duelEvents_run input sub template duel targetSlot
        refine .single (.commit day _ htold fun careful hback => ⟨hnodup, fun slot hslot => ?_⟩)
        have hnamed : duelSlots (sub, template) = [sub.actor, targetSlot.slotId] := by
          obtain ⟨rest, hrest⟩ := List.head?_eq_some_iff.1 hhead
          simp [duelSlots, hduel, hrest]
        rw [hnamed] at hspared
        have hfresh := hspared careful (by simpa using ⟨hback _ hactor, hback _ htarget⟩)
        rcases hslots slot hslot with rfl | rfl
        · exact ⟨hactor, hfresh _ (by simp)⟩
        · exact ⟨htarget, hfresh _ (by simp)⟩

theorem resolveDuelActions_ok {events : List (InnerEvent F)}
    (hspared : Careful → ∀ entry ∈ dayActions input (openWith input .duel),
      (∀ slot ∈ duelSlots entry, Living input.state slot) →
      ∀ slot ∈ duelSlots entry, slot ∉ killedSlots events) :
    StageOk Careful input events (resolveDuelActions input events).1 := by
  have hrun : Run Careful input (killedSlots events) { events, state := input.state }
      ((dayActions input (openWith input .duel)).foldl (duelAction input)
        ({ events, state := input.state }, [])).1 :=
    Steps.foldl_on Prod.fst
      (fun state entry hentry =>
        duelAction_run entry (fun careful => hspared careful entry hentry) state)
      ({ events, state := input.state }, [])
  refine ⟨fun hbefore => Day.Run.told hrun hbefore, fun careful distinct hbefore => ?_⟩
  have hstart : Day.Tracked input (killedSlots events) { events, state := input.state } :=
    ⟨hbefore.1, hbefore.2, fun _ hliving => ⟨hliving, id⟩, distinct⟩
  have hend := Day.Run.tracked careful hrun hstart
  exact ⟨hend.nodup, hend.living⟩

/-! ## ITA shots -/

theorem remark_resolveItaLifecycleControls (input : ResolutionInput F) :
    ∀ event ∈ (resolveItaLifecycleControls input).events, Remark event := by
  refine Steps.foldl_inv
    (fun lifecycle : ItaLifecycle F => ∀ event ∈ lifecycle.events, Remark event)
    (fun lifecycle control _ hlifecycle => ?_) (by simp)
  unfold itaControl
  dsimp only
  split
  · exact hlifecycle
  · split
    · exact hlifecycle
    · intro event hevent
      rcases List.mem_append.1 hevent with hold | hnew
      · exact hlifecycle event hold
      · unfold controlEvents at hnew
        rcases List.mem_append.1 hnew with hnew | hclose
        · rcases List.mem_append.1 hnew with hopen | hchange
          · split at hopen
            · exact List.mem_singleton.1 hopen ▸ trivial
            · exact absurd hopen List.not_mem_nil
          · simp only [List.mem_cons, List.not_mem_nil, or_false] at hchange
            rcases hchange with rfl | rfl <;> exact trivial
        · split at hclose
          · exact List.mem_singleton.1 hclose ▸ trivial
          · exact absurd hclose List.not_mem_nil

theorem remark_sessionReport (input : ResolutionInput F) (blocked : BTreeMap String String)
    (ita : Ita F) (session : ItaSessionSpec F) :
    ∀ event ∈ sessionReport input blocked ita session, Remark event := by
  intro event hevent
  unfold sessionReport at hevent
  dsimp only at hevent
  split at hevent
  · exact absurd hevent List.not_mem_nil
  · split at hevent
    · simp only [List.mem_cons, List.not_mem_nil, or_false] at hevent
      rcases hevent with rfl | rfl <;> exact trivial
    · exact List.mem_singleton.1 hevent ▸ trivial

theorem told_shotEvents (input : ResolutionInput F) (session : ItaSessionSpec F)
    (sub : Submission) (template : ActionTemplate F) (target : SlotId) (hitChance roll : F)
    (shot : ShotResult) (counters : ItaCounters) :
    ∀ event ∈ shotEvents input session sub template target hitChance roll shot counters,
      Told input event := by
  intro event hevent
  unfold shotEvents at hevent
  dsimp only at hevent
  split at hevent
  · simp only [List.mem_cons, List.not_mem_nil, or_false] at hevent
    rcases hevent with rfl | rfl
    · exact ⟨trivial, trivial⟩
    · exact ⟨trivial, rfl⟩
  · exact List.mem_singleton.1 hevent ▸ ⟨trivial, trivial⟩

theorem rollShot_run (session : ItaSessionSpec F) (sub : Submission) (template : ActionTemplate F)
    (actorSlot : SlotState) (hliving : Living ita.day.state targetSlot.slotId) :
    Run Careful input [] ita.day (rollShot input session sub template actorSlot targetSlot ita).day := by
  unfold rollShot
  dsimp only
  refine .single (.commit ita.day _ (by exact told_shotEvents _ _ _ _ _ _ _ _ _) fun _ _ => ?_)
  unfold shotEvents
  dsimp only
  split
  · exact spares_one hliving List.not_mem_nil
  · exact ⟨List.nodup_nil, fun _ hslot => absurd hslot List.not_mem_nil⟩

theorem settleShot_run (session : ItaSessionSpec F) (sub : Submission) (template : ActionTemplate F)
    (actorSlot : SlotState) {invalidatedBy : Option String}
    (hliving : invalidatedBy = none → Living ita.day.state targetSlot.slotId) :
    Run Careful input [] ita.day
      (settleShot input session sub template actorSlot targetSlot invalidatedBy ita).day := by
  cases invalidatedBy with
  | some killer => exact .single (.emit ita.day _ trivial)
  | none => exact rollShot_run session sub template actorSlot (hliving rfl)

theorem fireShot_run (session : ItaSessionSpec F) (sub : Submission) (template : ActionTemplate F)
    (actorSlot : SlotState) {invalidatedBy : Option String}
    (hliving : invalidatedBy = none → Living ita.day.state targetSlot.slotId) :
    Run Careful input [] ita.day
      (fireShot input session sub template actorSlot targetSlot invalidatedBy ita).day := by
  unfold fireShot
  dsimp only
  split
  · exact .single (.emit ita.day _ trivial)
  · have hqueued : Remark ((queueShot session sub targetSlot.slotId
        (ita.counters.getD session.sessionId {})).2 : InnerEvent F) := trivial
    unfold countSessionUse
    split
    · refine (ReflTransGen.single (.emit ita.day _ ?_)).trans
        ((ReflTransGen.single (.emit _ _ hqueued)).trans
          (settleShot_run session sub template actorSlot hliving))
      exact trivial
    · exact (ReflTransGen.single (.emit ita.day _ hqueued)).trans
        (settleShot_run session sub template actorSlot hliving)

theorem aimedShot_run (session : ItaSessionSpec F) (sub : Submission) (template : ActionTemplate F)
    (actorSlot : SlotState) {target : SlotId}
    (htarget : ita.day.state.slot? target = some targetSlot) :
    Run Careful input [] ita.day (aimedShot input session sub template actorSlot targetSlot ita).day := by
  unfold aimedShot
  dsimp only
  generalize (if targetSlot.isAlive = true then none else ita.killsByTarget[targetSlot.slotId]?) =
    invalidatedBy
  split
  · exact .single (.emit ita.day _ trivial)
  · rename_i hskip
    split
    · exact .single (.emit ita.day _ trivial)
    · split
      · unfold refundShot
        exact (ReflTransGen.single (.emit ita.day _ (by exact trivial))).trans
          (.single (.emit _ _ trivial))
      · rename_i hrefund
        refine fireShot_run session sub template actorSlot fun hinvalidated => ?_
        have halive : targetSlot.isAlive = true := by
          by_contra hnot
          simp_all
        exact ⟨targetSlot, (slot?_some htarget).1, rfl, halive⟩

theorem itaShot_run (blocked : BTreeMap String String) (ita : Ita F) (entry : Submission × ActionTemplate F) :
    Run Careful input [] ita.day (itaShot input blocked ita entry).day := by
  obtain ⟨sub, template⟩ := entry
  unfold itaShot
  dsimp only
  split
  · exact .single (.emit ita.day _ trivial)
  · rename_i session _
    split
    · exact .single (.emit ita.day _ trivial)
    · have hopen : Run Careful input [] ita.day (openSession input session ita).day := by
        unfold openSession
        split
        · exact .refl
        · exact .single (.emit ita.day _ trivial)
      refine hopen.trans ?_
      split
      · exact .single (.emit _ _ trivial)
      · split
        · exact .single (.emit _ _ trivial)
        · split
          · exact .single (.emit _ _ trivial)
          · split
            · exact .single (.emit _ _ trivial)
            · rename_i targetSlot htarget
              exact aimedShot_run session sub template _ htarget

theorem itaShots_run (blocked : BTreeMap String String) (ita : Ita F)
    (shots : List (Submission × ActionTemplate F)) :
    Run Careful input [] ita.day (shots.foldl (itaShot input blocked) ita).day :=
  Steps.foldl_on Ita.day (fun ita entry _ => itaShot_run blocked ita entry) ita

theorem resolveItaActions_ok (events : List (InnerEvent F)) :
    StageOk Careful input events (resolveItaActions input events) := by
  unfold resolveItaActions
  split
  · exact .refl events
  · have hcontrols : StageOk Careful input events
        (events ++ (resolveItaLifecycleControls input).events) :=
      .append (remark_resolveItaLifecycleControls input)
    dsimp only
    split
    · exact hcontrols
    · refine (hcontrols.trans (.of_run (itaShots_run _ (itaStart input _) _))).trans
        (.append fun event hevent => ?_)
      obtain ⟨session, -, hmem⟩ := List.mem_flatMap.1 hevent
      exact remark_sessionReport input _ _ session event hmem

/-! ## The day before its vote -/

theorem remark_dayAnnouncements (input : ResolutionInput F) :
    ∀ event ∈ dayAnnouncements input, Remark event := by
  intro event hevent
  unfold dayAnnouncements at hevent
  dsimp only at hevent
  split at hevent
  · exact absurd hevent List.not_mem_nil
  · split at hevent
    · exact absurd hevent List.not_mem_nil
    · obtain ⟨victim, -, rfl⟩ := List.mem_map.1 hevent
      exact trivial

theorem remark_revealTown (input : ResolutionInput F) (revealed : List SlotId)
    (subs : List Submission) : ∀ event ∈ revealTown input revealed subs, Remark event := by
  induction subs generalizing revealed with
  | nil => simp [revealTown]
  | cons sub subs ih =>
    unfold revealTown
    dsimp only
    split
    · exact ih revealed
    · split
      · exact ih _
      · split
        · exact ih _
        · intro event hevent
          rcases List.mem_cons.1 hevent with rfl | hrest
          · exact trivial
          · exact ih _ event hrest

theorem remark_revealTownEvents (input : ResolutionInput F) :
    ∀ event ∈ revealTownEvents input, Remark event := by
  unfold revealTownEvents
  split
  · simp
  · exact remark_revealTown input [] _

theorem remark_resolveBadgeActions (input : ResolutionInput F) :
    ∀ event ∈ (resolveBadgeActions input).2, Remark event := by
  refine Steps.foldl_inv
    (fun state : BTreeMap Tag (BadgeRecord F) × List (InnerEvent F) =>
      ∀ event ∈ state.2, Remark event) (fun state entry _ hstate => ?_) (by simp)
  unfold badgeAction
  dsimp only
  split
  · exact hstate
  · split
    · exact hstate
    · intro event hevent
      rcases List.mem_append.1 hevent with hold | hnew
      · exact hstate event hold
      · exact List.mem_singleton.1 hnew ▸ trivial

/-- The self-destructs of the phase. -/
def phaseSelfDestructs (input : ResolutionInput F) : List (Submission × ActionTemplate F) :=
  selfDestructs input fun template => phaseWindowMatches template.window input.state.phaseId.kind

theorem dayBeforeDuels_ok (haimed : Careful → ∀ entry ∈ phaseSelfDestructs input,
      Living input.state entry.1.actor → selfAimed entry = false) :
    StageOk Careful input [] (dayBeforeDuels input) := by
  have hopening : ∀ event ∈ dayAnnouncements input ++ revealTownEvents input ++
      (resolveBadgeActions input).2, Remark event := by
    intro event hevent
    rcases List.mem_append.1 hevent with hevent | hbadge
    · rcases List.mem_append.1 hevent with hannounce | hreveal
      · exact remark_dayAnnouncements input event hannounce
      · exact remark_revealTownEvents input event hreveal
    · exact remark_resolveBadgeActions input event hbadge
  have hopened : StageOk Careful input [] _ := .append hopening
  exact ((hopened.trans (resolveSelfDestructActionsMatching_ok _ haimed _)).trans
    (resolveDayKillActions_ok _)).trans (resolveItaActions_ok _)

/-- The events of the day before its vote. -/
def dayBeforeVote (input : ResolutionInput F) : List (InnerEvent F) :=
  (resolveDuelActions input (dayBeforeDuels input)).1

/-- What a phase other than a night relies on: no living slot's self-destruct would take it twice, and
no duel of living slots names one that died earlier in the day. -/
structure DayCareful (input : ResolutionInput F) : Prop where
  aimed : ∀ entry ∈ phaseSelfDestructs input, Living input.state entry.1.actor → selfAimed entry = false
  dueled : input.state.phaseId.kind = .day → ∀ entry ∈ dayActions input (openWith input .duel),
    (∀ slot ∈ duelSlots entry, Living input.state slot) →
      ∀ slot ∈ duelSlots entry, slot ∉ killedSlots (dayBeforeDuels input)

theorem dayBeforeVote_ok (hday : input.state.phaseId.kind = .day) (careful : Careful → DayCareful input) :
    StageOk Careful input [] (dayBeforeVote input) :=
  (dayBeforeDuels_ok fun h => (careful h).aimed).trans
    (resolveDuelActions_ok fun h => (careful h).dueled hday)

theorem beforeVote_killed (hday : input.state.phaseId.kind = .day)
    (distinct : DistinctSlots input.state) (careful : DayCareful input) :
    KilledOnce input (dayBeforeVote input) :=
  (dayBeforeVote_ok hday fun _ : True => careful).killedOnce trivial distinct
    ⟨List.nodup_nil, fun _ hslot => absurd hslot List.not_mem_nil⟩

theorem told_dayBeforeVote (input : ResolutionInput F) : ∀ event ∈ dayBeforeVote input, Told input event :=
  ((dayBeforeDuels_ok fun h : False => h.elim).trans (resolveDuelActions_ok fun h => h.elim)).told (by simp)

end Runs

end Fmarch.Resolver
