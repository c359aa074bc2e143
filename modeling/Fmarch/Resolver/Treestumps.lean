import Fmarch.Resolver.Shape

/-!
# Treestumps

An eligible slot that dies is to keep a status tag. `apply_treestump_policy` tags the kills before the
announcement, on the rolling state, and `apply_win_triggers_before_final` may kill after it.

**`taggedOnce_iff`**: a resolution gives the slots of its eligible kills one tag each, and no other slot any,
exactly if its win triggers kill nobody who is eligible.
-/

namespace Fmarch.Resolver

open Fmarch.Domain Keyed

variable {F : Type} [Float64 F]

/-! ## Eligible kills and their tags -/

/-- The events kill the slot while it is a living slot of an eligible role without the tag. -/
def EligibleKill (policy : TreestumpPolicy) (state : StateSnapshot F) (events : List (InnerEvent F))
    (slot : SlotId) : Prop :=
  ∃ before event after, events = before ++ event :: after ∧ event.killedSlot? = some slot ∧
    treestumpApplies policy (applyEvents state before) slot = true

/-- The event gives the slot the tag. -/
def isStumpTag (policy : TreestumpPolicy) (slot : SlotId) : InnerEvent F → Bool
  | .slotStatusTagged slotId tag _ => slotId == slot && tag == policy.statusTag
  | _ => false

/-- The slots of eligible kills get the tag once, the others never. -/
def TaggedOnce (policy : TreestumpPolicy) (state : StateSnapshot F) (events : List (InnerEvent F)) : Prop :=
  ∀ slot, (EligibleKill policy state events slot → events.countP (isStumpTag policy slot) = 1) ∧
    (¬ EligibleKill policy state events slot → events.countP (isStumpTag policy slot) = 0)

/-- The events the win triggers add to those of tagged parts once a tentative win is known. -/
def lateEvents (input : ResolutionInput F) (tagged : Parts F) (win : AlignmentKey × String) :
    List (InnerEvent F) :=
  (winTriggers input win.1 tagged.body).1.events.drop tagged.body.length

/-- Should the tagged parts of a resolution win the game, the win triggers kill nobody who is eligible. -/
def WinTriggersSpare (input : ResolutionInput F) (tagged : Parts F) : Prop :=
  tagged.wins = [] → ∀ win,
    checkWin (applyEvents input.state (tagged.events input)) input.pack.document = some win →
    ∀ slot, ¬ EligibleKill input.pack.document.treestumpPolicy
      (applyEvents input.state tagged.body) (lateEvents input tagged win) slot

/-- The parts of `resolve_instant`. -/
def instantParts (input : ResolutionInput F) : Parts F :=
  let events := resolveInstantSelfDestructActions input []
  let body := events ++ belovedPrincessPrompts input events
  { body, deaths := deathsFromEvents body, wins := [] }

section Eligible

variable {policy : TreestumpPolicy} {state : StateSnapshot F} {events later : List (InnerEvent F)}
  {event : InnerEvent F} {slot : SlotId}

omit [Float64 F]

theorem eligibleKill_nil : ¬ EligibleKill policy state [] slot := by
  rintro ⟨before, event, after, hsplit, -⟩
  simp at hsplit

theorem eligibleKill_cons : EligibleKill policy state (event :: events) slot ↔
    (event.killedSlot? = some slot ∧ treestumpApplies policy state slot = true) ∨
      EligibleKill policy (applyEvent state event) events slot := by
  constructor
  · rintro ⟨before, killing, after, hsplit, hkills, happlies⟩
    cases before with
    | nil =>
      obtain ⟨rfl, rfl⟩ := List.cons.inj hsplit
      exact Or.inl ⟨hkills, happlies⟩
    | cons first before =>
      obtain ⟨rfl, rfl⟩ := List.cons.inj hsplit
      exact Or.inr ⟨before, killing, after, rfl, hkills, happlies⟩
  · rintro (⟨hkills, happlies⟩ | ⟨before, killing, after, rfl, hkills, happlies⟩)
    · exact ⟨[], event, events, rfl, hkills, happlies⟩
    · exact ⟨event :: before, killing, after, rfl, hkills, happlies⟩

instance decEligibleKill (policy : TreestumpPolicy) (slot : SlotId) : (state : StateSnapshot F) →
    (events : List (InnerEvent F)) → Decidable (EligibleKill policy state events slot)
  | _, [] => isFalse eligibleKill_nil
  | state, event :: events =>
    have := decEligibleKill policy slot (applyEvent state event) events
    decidable_of_iff _ eligibleKill_cons.symm

theorem eligibleKill_append : EligibleKill policy state (events ++ later) slot ↔
    EligibleKill policy state events slot ∨ EligibleKill policy (applyEvents state events) later slot := by
  induction events generalizing state with
  | nil => exact (or_iff_right eligibleKill_nil).symm
  | cons event events ih =>
    rw [List.cons_append, eligibleKill_cons, ih, eligibleKill_cons, or_assoc]
    rfl

theorem not_eligibleKill (h : ∀ event ∈ events, event.killedSlot? = none) :
    ¬ EligibleKill policy state events slot := by
  rintro ⟨before, event, after, rfl, hkills, -⟩
  rw [h event (by simp)] at hkills
  cases hkills

/-- The first slot of an id is alive only if it was. -/
theorem fades_slot? {slots slots' : List SlotState} (h : Fades slots slots')
    (halive : ∃ found, slots'.find? (fun other => other.slotId == slot) = some found ∧ found.isAlive = true) :
    ∃ found, slots.find? (fun other => other.slotId == slot) = some found ∧ found.isAlive = true := by
  induction h with
  | nil => exact halive
  | @cons old new olds news hhead htail ih =>
    obtain ⟨found, hfound, hlives⟩ := halive
    by_cases hid : new.slotId = slot
    · rw [List.find?_cons_of_pos (by simpa using hid)] at hfound
      obtain rfl := Option.some.inj hfound
      refine ⟨old, List.find?_cons_of_pos (by simpa using hhead.1 ▸ hid), hhead.2 hlives⟩
    · rw [List.find?_cons_of_neg (by simpa using hid)] at hfound
      rw [List.find?_cons_of_neg (by simpa using hhead.1 ▸ hid)]
      exact ih ⟨found, hfound, hlives⟩

/-- The slot is found alive. -/
def FoundAlive (state : StateSnapshot F) (slot : SlotId) : Prop :=
  ∃ found, state.slot? slot = some found ∧ found.isAlive = true

theorem FoundAlive.of_applyEvents (h : FoundAlive (applyEvents state events) slot) : FoundAlive state slot :=
  fades_slot? (applyEvents_fades state events) h

theorem foundAlive_of_applies (h : treestumpApplies policy state slot = true) : FoundAlive state slot := by
  unfold treestumpApplies at h
  split at h
  · rename_i found hfound
    simp only [Bool.and_eq_true] at h
    exact ⟨found, hfound, h.1.1⟩
  · cases h

theorem EligibleKill.foundAlive (h : EligibleKill policy state events slot) : FoundAlive state slot := by
  obtain ⟨before, event, after, -, -, happlies⟩ := h
  exact (foundAlive_of_applies happlies).of_applyEvents

theorem not_foundAlive_kill (h : event.killedSlot? = some slot) :
    ¬ FoundAlive (applyEvent state event) slot := by
  cases event with
  | playerKilled killed cause attackers unstoppable deathReveal =>
    obtain rfl := Option.some.inj h
    rintro ⟨found, hfound, halive⟩
    have hkilled := find?_updateSlot (killSlot_slotId deathReveal) state.slots killed killed
    rw [if_pos rfl] at hkilled
    obtain ⟨old, -, rfl⟩ := Option.map_eq_some_iff.1 (hkilled.symm.trans hfound)
    simp [SlotState.isAlive, killSlot] at halive
  | _ => exact absurd h (by simp [InnerEvent.killedSlot?])

theorem killedSlot?_eq_some (h : event.killedSlot? = some slot) : ∃ cause attackers unstoppable deathReveal,
      event = .playerKilled slot cause attackers unstoppable deathReveal := by
  cases event with
  | playerKilled killed cause attackers unstoppable deathReveal =>
    obtain rfl := Option.some.inj h
    exact ⟨cause, attackers, unstoppable, deathReveal, rfl⟩
  | _ => exact absurd h (by simp [InnerEvent.killedSlot?])

theorem treestumpTags_cons_kill (events : List (InnerEvent F)) (hkills : event.killedSlot? = some slot)
    (happlies : treestumpApplies policy state slot = true) :
    ∃ source, treestumpTags policy state (event :: events) = .slotStatusTagged slot policy.statusTag source ::
        treestumpTags policy (applyEvent state event) events := by
  obtain ⟨cause, attackers, unstoppable, deathReveal, rfl⟩ := killedSlot?_eq_some hkills
  exact ⟨cause, by simp [treestumpTags, happlies]⟩

theorem treestumpTags_cons_other
    (h : ∀ killed, event.killedSlot? = some killed → treestumpApplies policy state killed = false) :
    treestumpTags policy state (event :: events) = treestumpTags policy (applyEvent state event) events := by
  cases event with
  | playerKilled killed cause attackers unstoppable deathReveal =>
    have hnot := h killed rfl
    simp [treestumpTags, hnot]
  | _ => rfl

/-- The tagging pass gives each slot of an eligible kill one tag, and no other slot any. -/
theorem count_treestumpTags (policy : TreestumpPolicy) (state : StateSnapshot F)
    (events : List (InnerEvent F)) (slot : SlotId) :
    (EligibleKill policy state events slot →
      (treestumpTags policy state events).countP (isStumpTag policy slot) = 1) ∧
    (¬ EligibleKill policy state events slot →
      (treestumpTags policy state events).countP (isStumpTag policy slot) = 0) := by
  induction events generalizing state with
  | nil => exact ⟨fun h => absurd h eligibleKill_nil, fun _ => rfl⟩
  | cons event events ih =>
    obtain ⟨hone, hzero⟩ := ih (applyEvent state event)
    rw [eligibleKill_cons]
    by_cases heligible : ∃ killed, event.killedSlot? = some killed ∧
        treestumpApplies policy state killed = true
    · obtain ⟨killed, hkills, happlies⟩ := heligible
      obtain ⟨source, htags⟩ := treestumpTags_cons_kill events hkills happlies
      rw [htags, List.countP_cons]
      by_cases hsame : killed = slot
      · subst hsame
        -- The slot is dead now, so it is not tagged again.
        have hdead : ¬ EligibleKill policy (applyEvent state event) events killed := fun hagain =>
          not_foundAlive_kill hkills hagain.foundAlive
        rw [hzero hdead]
        exact ⟨fun _ => by simp [isStumpTag], fun hnot => absurd (Or.inl ⟨hkills, happlies⟩) hnot⟩
      · have hother : ¬ (event.killedSlot? = some slot ∧ treestumpApplies policy state slot = true) :=
          fun h => hsame (Option.some.inj (hkills.symm.trans h.1))
        have huntagged : isStumpTag policy slot
            (.slotStatusTagged killed policy.statusTag source : InnerEvent F) = false := by
          simp [isStumpTag, hsame]
        rw [or_iff_right hother, huntagged]
        exact ⟨hone, hzero⟩
    · have hnone : ∀ killed, event.killedSlot? = some killed →
          treestumpApplies policy state killed = false := fun killed hkills =>
        Bool.eq_false_of_not_eq_true fun happlies => heligible ⟨killed, hkills, happlies⟩
      rw [treestumpTags_cons_other hnone, or_iff_right fun h => heligible ⟨slot, h⟩]
      exact ⟨hone, hzero⟩

/-! ## Attributions do not matter -/

/-- The event without the attackers of a kill. -/
def unattributed : InnerEvent F → InnerEvent F
  | .playerKilled slot cause _ _ deathReveal => .playerKilled slot cause [] false deathReveal
  | event => event

theorem applyEvent_unattributed (state : StateSnapshot F) (event : InnerEvent F) :
    applyEvent state (unattributed event) = applyEvent state event := by
  cases event <;> rfl

theorem killedSlot?_unattributed (event : InnerEvent F) :
    (unattributed event).killedSlot? = event.killedSlot? := by
  cases event <;> rfl

theorem isStumpTag_unattributed (policy : TreestumpPolicy) (slot : SlotId) (event : InnerEvent F) :
    isStumpTag policy slot (unattributed event) = isStumpTag policy slot event := by
  cases event <;> rfl

theorem unattributed_mergeAttribution (attacker : SlotId) (unstoppable : Bool) (event : InnerEvent F) :
    unattributed (mergeAttribution attacker unstoppable event) = unattributed event := by
  cases event <;> rfl

theorem eligibleKill_unattributed :
    EligibleKill policy state (events.map unattributed) slot ↔ EligibleKill policy state events slot := by
  induction events generalizing state with
  | nil => exact Iff.rfl
  | cons event events ih =>
    rw [List.map_cons, eligibleKill_cons, eligibleKill_cons, killedSlot?_unattributed,
      applyEvent_unattributed, ih]

theorem countP_unattributed (policy : TreestumpPolicy) (slot : SlotId) (events : List (InnerEvent F)) :
    (events.map unattributed).countP (isStumpTag policy slot) = events.countP (isStumpTag policy slot) := by
  rw [List.countP_map]
  exact List.countP_congr fun event _ => by rw [Function.comp_apply, isStumpTag_unattributed]

theorem taggedOnce_unattributed :
    TaggedOnce policy state (events.map unattributed) ↔ TaggedOnce policy state events := by
  unfold TaggedOnce
  simp only [eligibleKill_unattributed, countP_unattributed]

/-! ## Kills before and after the tags -/

/-- No event gives the tag to anybody. -/
def Untagged (policy : TreestumpPolicy) (events : List (InnerEvent F)) : Prop :=
  ∀ event ∈ events, ∀ slot, isStumpTag policy slot event = false

theorem Untagged.countP (h : Untagged policy events) (slot : SlotId) :
    events.countP (isStumpTag policy slot) = 0 :=
  List.countP_eq_zero.2 fun event hevent => by simp [h event hevent slot]

theorem untagged_of_staged (h : ∀ event ∈ events, Staged event) : Untagged policy events := by
  intro event hevent slot
  have hstaged := h event hevent
  cases event <;> first | rfl | exact absurd hstaged id

theorem EligibleKill.not_foundAlive (h : EligibleKill policy state events slot) :
    ¬ FoundAlive (applyEvents state events) slot := by
  obtain ⟨before, event, after, rfl, hkills, -⟩ := h
  intro halive
  rw [applyEvents_append, applyEvents_cons] at halive
  exact not_foundAlive_kill hkills halive.of_applyEvents

theorem taggedOnce_append (hkills : ∀ event ∈ later, event.killedSlot? = none)
    (htags : Untagged policy later) :
    TaggedOnce policy state (events ++ later) ↔ TaggedOnce policy state events := by
  unfold TaggedOnce
  simp only [eligibleKill_append, or_iff_left (not_eligibleKill hkills), List.countP_append, htags.countP,
    Nat.add_zero]

/-- Tagged kills with events behind them that set no tag: nobody may be killed there who is eligible. -/
theorem taggedOnce_late_iff {body : List (InnerEvent F)} (hbody : Untagged policy body)
    (hlater : Untagged policy later) :
    TaggedOnce policy state (body ++ treestumpTags policy state body ++ later) ↔
      ∀ slot, ¬ EligibleKill policy (applyEvents state (body ++ treestumpTags policy state body)) later slot := by
  have hquiet : ∀ event ∈ treestumpTags policy state body, event.killedSlot? = none := by
    intro event hevent
    obtain ⟨slotId, source, rfl⟩ := mem_treestumpTags hevent
    rfl
  have heligible : ∀ slot, EligibleKill policy state (body ++ treestumpTags policy state body) slot ↔
      EligibleKill policy state body slot := fun slot => by
    rw [eligibleKill_append, or_iff_left (not_eligibleKill hquiet)]
  have hcount : ∀ slot, (body ++ treestumpTags policy state body ++ later).countP (isStumpTag policy slot) =
      (treestumpTags policy state body).countP (isStumpTag policy slot) := fun slot => by
    rw [List.countP_append, List.countP_append, hbody.countP, hlater.countP, Nat.zero_add, Nat.add_zero]
  unfold TaggedOnce
  refine forall_congr' fun slot => ?_
  obtain ⟨hone, hzero⟩ := count_treestumpTags policy state body slot
  rw [eligibleKill_append, heligible, hcount]
  constructor
  · rintro ⟨htagged, -⟩ hlate
    have hagain : EligibleKill policy state body slot := by
      by_contra hnot
      have hcounted := htagged (Or.inr hlate)
      rw [hzero hnot] at hcounted
      cases hcounted
    exact ((heligible slot).2 hagain).not_foundAlive hlate.foundAlive
  · intro hspared
    rw [or_iff_left hspared]
    exact ⟨hone, hzero⟩

end Eligible

/-! ## The win triggers -/

section Runs

variable {policy : TreestumpPolicy} {Ok Att : SlotId → Prop} {input : ResolutionInput F}

section

omit [Float64 F]

theorem map_unattributed_merge (target attacker : SlotId) (unstoppable : Bool)
    (events : List (InnerEvent F)) :
    (updateFirst (killsSlot target) (mergeAttribution attacker unstoppable) events).map unattributed =
      events.map unattributed := by
  induction events with
  | nil => rfl
  | cons event events ih =>
    unfold updateFirst
    split
    · rw [List.map_cons, List.map_cons, unattributed_mergeAttribution]
    · rw [List.map_cons, List.map_cons, ih]

/-- An event that kills, or a quiet one. -/
def Late (event : InnerEvent F) : Prop := event.killedSlot?.isSome = true ∨ Quiet event

theorem late_unattributed {event : InnerEvent F} : Late (unattributed event) ↔ Late event := by
  cases event <;> exact Iff.rfl

theorem Late.untagged {event : InnerEvent F} (h : Late event) (slot : SlotId) :
    isStumpTag policy slot event = false := by
  cases event with
  | slotStatusTagged => exact h.elim nofun fun hquiet => absurd hquiet id
  | _ => rfl

end

/-- A run only adds to the events, up to attributions: kills and quiet events. -/
theorem Deaths.Run.later {Apart : InnerEvent F → Prop} {d d' : Deaths F} (h : Deaths.Run input Apart Ok Att d d') :
    ∃ later, d'.events.map unattributed = d.events.map unattributed ++ later ∧ ∀ event ∈ later, Late event := by
  induction h with
  | refl => exact ⟨[], (List.append_nil _).symm, fun _ hmem => absurd hmem List.not_mem_nil⟩
  | tail _ hstep ih =>
    obtain ⟨later, hevents, hlater⟩ := ih
    have hadds : ∀ {event : InnerEvent F}, Late event → ∀ other ∈ later ++ [unattributed event], Late other := by
      intro event hevent other hother
      rcases List.mem_append.1 hother with hold | hnew
      · exact hlater other hold
      · rw [List.mem_singleton.1 hnew]
        exact late_unattributed.2 hevent
    cases hstep with
    | emit event pushed =>
      refine ⟨later ++ [unattributed event], ?_, hadds (.inr pushed.1)⟩
      show (_ ++ [event]).map unattributed = _
      rw [List.map_append, hevents, List.append_assoc]
      rfl
    | kill slot cause attackers unstoppable deathReveal records fresh ok heard logged =>
      refine ⟨later ++ [unattributed (.playerKilled slot cause attackers unstoppable deathReveal)], ?_,
        hadds (.inl rfl)⟩
      show (_ ++ [InnerEvent.playerKilled slot cause attackers unstoppable deathReveal]).map unattributed = _
      rw [List.map_append, hevents, List.append_assoc]
      rfl
    | merge target attacker unstoppable records logged =>
      exact ⟨later, (map_unattributed_merge target attacker unstoppable _).trans hevents, hlater⟩
    | save saves => exact ⟨later, hevents, hlater⟩

/-- The events of the win stage: those before it up to attributions, and the late ones. -/
theorem winTriggers_late (input : ResolutionInput F) (tagged : Parts F) (win : AlignmentKey × String) :
    (winTriggers input win.1 tagged.body).1.events.map unattributed =
      tagged.body.map unattributed ++ (lateEvents input tagged win).map unattributed ∧
    ∀ event ∈ lateEvents input tagged win, Late event := by
  have hrun : Deaths.Run input NoEvent AnySlot AnySlot _ (winTriggers input win.1 tagged.body).1 :=
    winTriggers_run (fun _ => id) (triggersOk_any _) (fun _ _ => trivial) fun _ _ => trivial
  obtain ⟨later, hevents, hlater⟩ := hrun.later
  dsimp only at hevents
  have hlate : (lateEvents input tagged win).map unattributed = later := by
    unfold lateEvents
    rw [List.map_drop, hevents]
    exact List.drop_left' (by rw [List.length_map])
  refine ⟨by rw [hlate]; exact hevents, fun event hevent => ?_⟩
  exact late_unattributed.1 (hlater _ (hlate ▸ List.mem_map_of_mem hevent))

theorem taggedOnce_body {parts : Parts F} (h : parts.Sorted) :
    TaggedOnce policy input.state (parts.events input) ↔ TaggedOnce policy input.state parts.body := by
  refine taggedOnce_append (fun event hevent => ?_) fun event hevent slot => ?_
  all_goals
    rcases List.mem_cons.1 hevent with rfl | hwin
    · rfl
    · have := h.wins event hwin
      cases event <;> first | rfl | cases this

/-- Where the finalisation of a phase's parts sets all tags. -/
theorem taggedOnce_finished_iff {parts : Parts F} (hstaged : ∀ event ∈ parts.body, Staged event)
    (hsorted : parts.Sorted) (enabled : input.pack.document.treestumpPolicy.enabled = true) :
    TaggedOnce input.pack.document.treestumpPolicy input.state
        (((parts.tagged input).finished input).events input) ↔
      WinTriggersSpare input (parts.tagged input) := by
  have hbody : (parts.tagged input).body = parts.body ++
      treestumpTags input.pack.document.treestumpPolicy input.state parts.body := by
    show parts.body ++ statusTags input parts.body = _
    unfold statusTags
    dsimp only
    rw [if_pos enabled]
  have huntagged : Untagged input.pack.document.treestumpPolicy parts.body := untagged_of_staged hstaged
  have hquiet : TaggedOnce input.pack.document.treestumpPolicy input.state (parts.tagged input).body := by
    have hnone : Untagged input.pack.document.treestumpPolicy ([] : List (InnerEvent F)) :=
      fun _ hmem => absurd hmem List.not_mem_nil
    have htagged : TaggedOnce input.pack.document.treestumpPolicy input.state (parts.body ++
        treestumpTags input.pack.document.treestumpPolicy input.state parts.body ++ []) :=
      (taggedOnce_late_iff huntagged hnone).2 fun slot => eligibleKill_nil
    rwa [List.append_nil, ← hbody] at htagged
  rw [taggedOnce_body ((hsorted.tagged input).finished input)]
  unfold Parts.finished WinTriggersSpare
  by_cases hwins : (parts.tagged input).wins = []
  · rw [hwins]
    simp only [List.isEmpty_nil, Bool.not_true, Bool.false_eq_true, if_false, forall_true_left]
    cases hcheck : checkWin (applyEvents input.state ((parts.tagged input).events input))
        input.pack.document with
    | none => exact iff_of_true hquiet nofun
    | some win =>
      dsimp only
      obtain ⟨hevents, hlate⟩ := winTriggers_late input (parts.tagged input) win
      have hiff : TaggedOnce input.pack.document.treestumpPolicy input.state
            (wonParts input win (parts.tagged input)).body ↔
          ∀ slot, ¬ EligibleKill input.pack.document.treestumpPolicy
            (applyEvents input.state (parts.tagged input).body)
            (lateEvents input (parts.tagged input) win) slot := by
        show TaggedOnce _ _ (winTriggers input win.1 (parts.tagged input).body).1.events ↔ _
        rw [← taggedOnce_unattributed, hevents, ← List.map_append, taggedOnce_unattributed, hbody]
        exact taggedOnce_late_iff huntagged fun event hevent slot => (hlate event hevent).untagged slot
      rw [hiff]
      exact ⟨fun hspared other hother => Option.some.inj hother ▸ hspared, fun hspared => hspared win rfl⟩
  · have hsome : (!(parts.tagged input).wins.isEmpty) = true := by simpa using hwins
    rw [if_pos hsome]
    exact iff_of_true hquiet fun hnone => absurd hnone hwins

theorem instantParts_staged (input : ResolutionInput F) : ∀ event ∈ (instantParts input).body, Staged event :=
  (Extends.append (plain_of_remarks (remark_belovedPrincessPrompts _ _))).staged
    (staged_selfDestructs input _)

end Runs

/-! ## A treestump that dies of the win -/

/-- A slot with the effect dies when a faction wins. -/
def mournerDies : TriggerRule where
  id := "mourner_dies"
  on := .event .win
  ifTargetHas := ["mourner"]
  produces := { ability := .kill, actor := .target, target := .target }

/-- A pack with treestumps and a win trigger that kills. -/
def mourningPack : Pack Rat :=
  { villagePack [] with
    roles := (villagePack []).roles.insert "town_treestump" { alignment := some "town" }
    treestumpPolicy := { enabled := true, eligibleRoles := ["town_treestump"] }
    triggers := [mournerDies] }

/-- A night after the last mafioso is dead. -/
def mourningNight : ResolutionInput Rat :=
  village ⟨mourningPack, [], .of_plain (by decide) rfl rfl⟩
    { phaseId := .first .night
      slots := [townie "a", { townie "s" with roleKey := "town_treestump", effects := ["mourner"] },
        townie "c"] } []

end Fmarch.Resolver
