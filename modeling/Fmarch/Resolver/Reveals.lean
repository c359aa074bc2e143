import Fmarch.Resolver.OneDeath

/-!
# What the players have been shown

The reveal events and the end of a game raise a slot's reveal flags. A death assigns both flags from
its own reveal mode, also when they are up already: a death that keeps a fact private takes it back.

**`shown_throughout_iff`**: a fact the players have been shown stays shown through any later events
exactly when none of them is a death of its slot that keeps the fact private. `janitorNight_unshown`
is a night that conceals the death of an innocent child revealed the day before.
-/

namespace Fmarch.Resolver

open Fmarch.Domain Keyed

variable {F : Type}

/-- The facts about a slot that a game reveals. -/
inductive Fact where
  | role | alignment
  deriving DecidableEq

/-- The reveal state of a fact about a slot. -/
def Fact.of : Fact → SlotState → RevealState
  | .role, slot => slot.roleReveal
  | .alignment, slot => slot.alignmentReveal

/-- The reveal state a death of this mode gives a fact. -/
def Fact.afterDeath : Fact → DeathRevealMode → RevealState
  | .role, mode => (deathRevealStates mode).1
  | .alignment, mode => (deathRevealStates mode).2

/-- The players have been shown a fact about a slot. -/
def Shown (fact : Fact) (state : StateSnapshot F) (slotId : SlotId) : Prop :=
  (state.slot? slotId).map fact.of = some .publicState

instance (fact : Fact) (state : StateSnapshot F) (slotId : SlotId) : Decidable (Shown fact state slotId) :=
  inferInstanceAs (Decidable (_ = _))

/-- A death of the slot that keeps the fact private. -/
def keepsPrivate (fact : Fact) (slotId : SlotId) : InnerEvent F → Bool
  | .playerKilled killed _ _ _ deathReveal =>
    killed == slotId && fact.afterDeath deathReveal == .privateState
  | _ => false

/-! ## One event -/

/-- The reveal state of a fact about a slot of the state. -/
def reveal (fact : Fact) (state : StateSnapshot F) (slotId : SlotId) : Option RevealState :=
  (state.slot? slotId).map fact.of

/-- What an event says of the reveal states. -/
inductive RevealMark where
  | death (slotId : SlotId) (mode : DeathRevealMode)
  | reveal (slotId : SlotId) (fact : Fact)
  | win

/-- The mark an event leaves on the reveal states. -/
def revealMark? : InnerEvent F → Option RevealMark
  | .playerKilled slotId _ _ _ deathReveal => some (.death slotId deathReveal)
  | .alignmentRevealed slotId .. => some (.reveal slotId .alignment)
  | .roleRevealed slotId .. => some (.reveal slotId .role)
  | .winReached .. => some .win
  | _ => none

/-- The reveal state of a fact about a slot behind a mark. -/
def RevealMark.apply (fact : Fact) (slotId : SlotId) (before : RevealState) : RevealMark → RevealState
  | .death killed mode => if killed = slotId then fact.afterDeath mode else before
  | .reveal revealed shown => if revealed = slotId ∧ shown = fact then .publicState else before
  | .win => .publicState

/-- The reveal state of a fact about a slot behind an event. -/
def revealAfter (fact : Fact) (slotId : SlotId) (before : RevealState) (event : InnerEvent F) : RevealState :=
  (revealMark? event).elim before (RevealMark.apply fact slotId before)

variable {fact : Fact} {slotId : SlotId} {state : StateSnapshot F}

/-- An edit of one slot. -/
theorem reveal_updateSlot {next : StateSnapshot F} {edited : SlotId} {f : SlotState → SlotState}
    {g : RevealState → RevealState} (hslots : next.slots = updateSlot state.slots edited f)
    (hid : ∀ slot, (f slot).slotId = slot.slotId)
    (hreveal : ∀ slot, fact.of (f slot) = g (fact.of slot)) :
    reveal fact next slotId =
      (reveal fact state slotId).map fun before => if edited = slotId then g before else before := by
  unfold reveal StateSnapshot.slot?
  rw [hslots, find?_updateSlot hid]
  split
  · rw [Option.map_map, Option.map_map]
    exact congrArg (fun h => Option.map h _) (funext hreveal)
  · rw [Option.map_map]
    rfl

theorem reveal_updateSlot_other {next : StateSnapshot F} {edited : SlotId}
    {f : SlotState → SlotState} (hslots : next.slots = updateSlot state.slots edited f)
    (hid : ∀ slot, (f slot).slotId = slot.slotId)
    (hreveal : ∀ slot, fact.of (f slot) = fact.of slot) :
    reveal fact next slotId = (reveal fact state slotId).map id := by
  rw [reveal_updateSlot (g := id) hslots hid hreveal]
  exact congrArg (fun h => Option.map h _) (funext fun before => ite_self before)

theorem addStatusTag_reveal (fact : Fact) (tag : Tag) (slot : SlotState) :
    fact.of (addStatusTag tag slot) = fact.of slot := by
  unfold addStatusTag
  split <;> cases fact <;> rfl

theorem addEffect_reveal (fact : Fact) (effect : Tag) (slot : SlotState) :
    fact.of (addEffect effect slot) = fact.of slot := by
  unfold addEffect
  split <;> cases fact <;> rfl

theorem removeEffect_reveal (fact : Fact) (effect : Tag) (slot : SlotState) :
    fact.of (removeEffect effect slot) = fact.of slot := by
  cases fact <;> rfl

/-- An event acts on the reveal state of a fact by its mark alone. -/
theorem reveal_applyEvent (fact : Fact) (slotId : SlotId) (state : StateSnapshot F) (event : InnerEvent F) :
    reveal fact (applyEvent state event) slotId =
      (reveal fact state slotId).map (revealAfter fact slotId · event) := by
  have hsame : ∀ next : StateSnapshot F, next.slots = state.slots →
      reveal fact next slotId = (reveal fact state slotId).map id := by
    intro next hslots
    rw [Option.map_id, id, reveal, StateSnapshot.slot?, hslots]
    rfl
  cases event with
  | playerKilled killed cause attackers unstoppable deathReveal =>
    exact reveal_updateSlot (g := fun _ => fact.afterDeath deathReveal) rfl
      (killSlot_slotId deathReveal) fun slot => by cases fact <;> rfl
  | slotStatusTagged slot tag =>
    exact reveal_updateSlot_other rfl (addStatusTag_slotId tag) (addStatusTag_reveal fact tag)
  | winReached =>
    unfold reveal StateSnapshot.slot?
    dsimp only [applyEvent]
    rw [List.find?_map, Option.map_map, Option.map_map]
    exact congrArg (fun h => Option.map h _) (funext fun slot => by cases fact <;> rfl)
  | alignmentRevealed revealed alignment =>
    rw [reveal_updateSlot (g := fun before => if fact = .alignment then .publicState else before) rfl
      (by intro; rfl) fun slot => by cases fact <;> rfl]
    exact congrArg (fun h => Option.map h _) (funext fun before => by
      by_cases hslot : revealed = slotId <;> cases fact <;>
        simp [revealAfter, revealMark?, RevealMark.apply, hslot])
  | roleRevealed revealed roleKey =>
    rw [reveal_updateSlot (g := fun before => if fact = .role then .publicState else before) rfl
      (by intro; rfl) fun slot => by cases fact <;> rfl]
    exact congrArg (fun h => Option.map h _) (funext fun before => by
      by_cases hslot : revealed = slotId <;> cases fact <;>
        simp [revealAfter, revealMark?, RevealMark.apply, hslot])
  | playerConverted =>
    exact reveal_updateSlot_other rfl (by intro; rfl) fun slot => by cases fact <;> rfl
  | effectsMarked effect =>
    rw [applyEvent]
    split
    · exact reveal_updateSlot_other rfl (addEffect_slotId effect) (addEffect_reveal fact effect)
    · exact hsame state rfl
  | effectsCleared effect targets =>
    unfold reveal StateSnapshot.slot?
    rw [applyEvent, find?_foldl_removeEffect]
    split
    · rw [Option.map_map, Option.map_map]
      exact congrArg (fun h => Option.map h _) (funext (removeEffect_reveal fact effect))
    · exact (Option.map_id_apply ..).symm
  | _ => exact hsame _ rfl

/-- The reveal state of a fact behind some events is that behind their marks. -/
theorem reveal_applyEvents (fact : Fact) (slotId : SlotId) (state : StateSnapshot F)
    (events : List (InnerEvent F)) :
    reveal fact (applyEvents state events) slotId = (reveal fact state slotId).map fun before =>
      (events.filterMap revealMark?).foldl (RevealMark.apply fact slotId) before := by
  induction events generalizing state with
  | nil => exact (Option.map_id_apply ..).symm
  | cons event events ih =>
    rw [applyEvents_cons, ih, reveal_applyEvent, Option.map_map]
    refine congrArg (fun h => Option.map h _) (funext fun before => ?_)
    unfold revealAfter
    cases hmark : revealMark? event <;> simp [hmark]

/-- An event takes a fact back exactly when it is a death of the slot that keeps it private. -/
theorem shown_applyEvent_iff (h : Shown fact state slotId) (event : InnerEvent F) :
    Shown fact (applyEvent state event) slotId ↔ keepsPrivate fact slotId event = false := by
  show reveal fact (applyEvent state event) slotId = _ ↔ _
  have hbefore : reveal fact state slotId = some .publicState := h
  rw [reveal_applyEvent, hbefore, Option.map_some, Option.some.injEq]
  cases event with
  | playerKilled killed cause attackers unstoppable deathReveal =>
    by_cases hkilled : killed = slotId
    · cases hdeath : fact.afterDeath deathReveal <;>
        simp [revealAfter, revealMark?, RevealMark.apply, keepsPrivate, hkilled, hdeath]
    · simp [revealAfter, revealMark?, RevealMark.apply, keepsPrivate, hkilled]
  | _ => simp [revealAfter, revealMark?, RevealMark.apply, keepsPrivate]

/-! ## Every later event -/

/-- A fact the players have been shown stays shown throughout later events exactly when none of
them is a death of its slot that keeps the fact private. -/
theorem shown_throughout_iff {fact : Fact} {state : StateSnapshot F} {slotId : SlotId}
    (h : Shown fact state slotId) (events : List (InnerEvent F)) :
    (∀ before after, events = before ++ after → Shown fact (applyEvents state before) slotId) ↔
      ∀ event ∈ events, keepsPrivate fact slotId event = false := by
  induction events generalizing state with
  | nil =>
    refine iff_of_true (fun before after hsplit => ?_) (by simp)
    obtain ⟨rfl, -⟩ := List.append_eq_nil_iff.1 hsplit.symm
    exact h
  | cons event events ih =>
    rw [List.forall_mem_cons]
    constructor
    · intro hshown
      have hnext : Shown fact (applyEvent state event) slotId := hshown [event] events rfl
      refine ⟨(shown_applyEvent_iff h event).1 hnext, (ih hnext).1 fun before after hsplit => ?_⟩
      exact hshown (event :: before) after (by rw [hsplit, List.cons_append])
    · rintro ⟨hevent, hevents⟩ before after hsplit
      have hnext := (shown_applyEvent_iff h event).2 hevent
      cases before with
      | nil => exact h
      | cons head before =>
        obtain ⟨rfl, hrest⟩ := List.cons.inj hsplit
        exact (ih hnext).2 hevents before after hrest

/-! ## An innocent child -/

/-- The public reveal of an innocent child. -/
def revealTownAction : ActionTemplate Rat where
  id := "reveal_town"
  ability := .revealTown
  window := .day
  targets := .none
  constraints :=
    { maxTargets := 0, selfAllowed := true, uniqueTargets := true, roleblockable := false
      priority := 70 }

/-- A pack with an innocent child, and a janitor whose kills are concealed. -/
def janitorPack : Pack Rat :=
  { villagePack [] with
    roles := (((∅ : BTreeMap RoleKey (Role Rat)).insert "innocent_child"
      { alignment := some "town", actions := [revealTownAction] }).insert "janitor"
      { alignment := some "mafia", actions := [nightAction "janitor_kill" .kill 30 [] []] }).insert
      "townie" { alignment := some "town" }
    deathReveal :=
      { byCause := (∅ : BTreeMap String DeathRevealMode).insert "janitor_kill" .concealed } }

/-- A phase of a game with the innocent child `"a"` and the janitor `"j"`. -/
def janitorVillage (state : StateSnapshot Rat) (submissions : List Submission) : ResolutionInput Rat :=
  village ⟨janitorPack, [.kill], .of_plain (by decide) rfl rfl⟩ state submissions

/-- The first day: the child reveals itself. -/
def revealDay : ResolutionInput Rat :=
  janitorVillage
    { phaseId := firstDay
      slots :=
        [{ townie "a" with roleKey := "innocent_child" }, townie "b", townie "c", townie "d",
          { goon "j" with roleKey := "janitor" }] }
    [{ actionId := "1", actor := "a", templateId := "reveal_town", phaseId := firstDay
       submittedAt := 1 }]

/-- The first night. -/
def firstNight : PhaseId := .first .night

/-- The night after: the janitor kills `victim`. -/
def janitorNight (day : ResolutionOutput Rat) (victim : SlotId) : ResolutionInput Rat :=
  janitorVillage { day.postState with phaseId := firstNight }
    [{ actionId := "2", actor := "j", templateId := "janitor_kill", targets := [victim]
       phaseId := firstNight, submittedAt := 2 }]

/-- The janitor kills another townie, and the child's alignment stays shown. -/
theorem janitorNight_shown :
    ∃ day night, resolve revealDay = .ok day ∧ resolve (janitorNight day "b") = .ok night ∧
      Shown .alignment day.postState "a" ∧
      ∀ before after, night.applied.events.map (·.event) = before ++ after →
        Shown .alignment (applyEvents (janitorNight day "b").state before) "a" := by
  have hrun : (resolve revealDay).toOption.any (fun day =>
      Shown .alignment day.postState "a" &&
      (resolve (janitorNight day "b")).toOption.any fun night =>
        (night.applied.events.map (·.event)).all (!keepsPrivate .alignment "a" ·)) = true := by
    decide +kernel
  cases hday : resolve revealDay with
  | error failure => exact absurd hrun (by simp [hday, Except.toOption])
  | ok day =>
    simp only [hday, Except.toOption, Option.any_some, Bool.and_eq_true, decide_eq_true_eq] at hrun
    obtain ⟨hshown, hrun⟩ := hrun
    cases hnight : resolve (janitorNight day "b") with
    | error failure => exact absurd hrun (by simp [hnight])
    | ok night =>
      simp only [hnight, Option.any_some, List.all_eq_true, Bool.not_eq_true'] at hrun
      have hstart : Shown .alignment (janitorNight day "b").state "a" := hshown
      exact ⟨day, night, rfl, hnight, hshown, (shown_throughout_iff hstart _).2 hrun⟩

/-- The janitor kills the child, and its alignment is private again. -/
theorem janitorNight_unshown :
    ∃ day night, resolve revealDay = .ok day ∧ resolve (janitorNight day "a") = .ok night ∧
      Shown .alignment day.postState "a" ∧
      ¬ ∀ before after, night.applied.events.map (·.event) = before ++ after →
        Shown .alignment (applyEvents (janitorNight day "a").state before) "a" := by
  have hrun : (resolve revealDay).toOption.any (fun day =>
      Shown .alignment day.postState "a" &&
      (resolve (janitorNight day "a")).toOption.any fun night =>
        !Shown .alignment (applyEvents (janitorNight day "a").state
          (night.applied.events.map (·.event))) "a") = true := by
    decide +kernel
  cases hday : resolve revealDay with
  | error failure => exact absurd hrun (by simp [hday, Except.toOption])
  | ok day =>
    simp only [hday, Except.toOption, Option.any_some, Bool.and_eq_true, decide_eq_true_eq] at hrun
    obtain ⟨hshown, hrun⟩ := hrun
    cases hnight : resolve (janitorNight day "a") with
    | error failure => exact absurd hrun (by simp [hnight])
    | ok night =>
      simp only [hnight, Option.any_some, Bool.not_eq_true', decide_eq_false_iff_not] at hrun
      exact ⟨day, night, rfl, hnight, hshown, fun hclaim => hrun (hclaim _ [] (by simp))⟩

end Fmarch.Resolver
