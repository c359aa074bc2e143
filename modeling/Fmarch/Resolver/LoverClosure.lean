import Mathlib.Data.List.Perm.Subperm
import Fmarch.Lib.Saturation
import Fmarch.Resolver.Shape

/-!
# Lover suicides reach everyone they should

`apply_lover_suicides` makes passes over the links until one kills nobody. A pass looks at each link
once, in order, and takes the first of its members dead by then as the cause of the other deaths, so
a chain of overlapping links listed backwards takes a pass for each link.

**`applyLoverSuicides_closed`**: whatever the links are, the killed slots end closed under them, the slots
returned are the newly killed ones, each once, and more passes would change nothing.
-/

namespace Fmarch.Resolver

open Fmarch.Domain Saturation

variable {F : Type} [Float64 F]

section Lovers

variable {input : ResolutionInput F}

/-- A set of slots is closed under the links: with one member of a link it has all those alive in the
snapshot. -/
def LinkClosed (input : ResolutionInput F) (dead : SlotId → Prop) : Prop :=
  ∀ link ∈ input.state.linkedSlots, ∀ source ∈ link.slots, dead source →
    ∀ slot ∈ link.slots, aliveInState input slot = true → dead slot

/-- One pass of `apply_lover_suicides`. -/
def loverPass (input : ResolutionInput F) (state : Deaths F × List SlotId × List SlotId) :
    Deaths F × List SlotId × List SlotId :=
  input.state.linkedSlots.foldl (loverLink input state.1.killed) state

/-- How many slots the passes have killed. -/
def suicideCount (state : Deaths F × List SlotId × List SlotId) : Nat := state.2.2.length

theorem loverLoop_eq_saturate (fuel : Nat) (state : Deaths F × List SlotId × List SlotId) :
    loverLoop input fuel state = saturate (loverPass input) suicideCount fuel state := by
  induction fuel generalizing state with
  | zero => rfl
  | succ fuel ih =>
    unfold loverLoop saturate
    dsimp only
    rw [ih]
    rfl

/-! ## One slot -/

theorem stackKill_killed (pack : Pack F) (target attacker : SlotId) (cause : String)
    (unstoppable : Bool) (d : Deaths F) :
    (stackKill pack target attacker cause unstoppable d).killed = d.killed := by
  unfold stackKill mergeStackedKillAttribution
  split
  · split <;> rfl
  · rfl

/-- What a linked slot does: it is passed over, it has died already, or it dies now. -/
theorem loverSuicide_cases (input : ResolutionInput F) (killedNow : List SlotId) (sourceDead : SlotId)
    (state : Deaths F × List SlotId × List SlotId) (slotId : SlotId) :
    ((slotId = sourceDead ∨ slotId ∈ state.2.1 ∨ aliveInState input slotId = false) ∧
      loverSuicide input killedNow sourceDead state slotId = state) ∨
    (slotId ∈ killedNow ∧ (loverSuicide input killedNow sourceDead state slotId).1.killed = state.1.killed ∧
      (loverSuicide input killedNow sourceDead state slotId).2 = (slotId :: state.2.1, state.2.2)) ∨
    (slotId ∉ killedNow ∧ slotId ∉ state.2.1 ∧
      (loverSuicide input killedNow sourceDead state slotId).1.killed = state.1.killed ++ [slotId] ∧
      (loverSuicide input killedNow sourceDead state slotId).2 =
        (slotId :: state.2.1, state.2.2 ++ [slotId])) := by
  obtain ⟨d, recorded, generated⟩ := state
  unfold loverSuicide
  dsimp only
  split
  · rename_i hguard
    refine .inl ⟨?_, rfl⟩
    simp only [Bool.or_eq_true, beq_iff_eq, List.contains_iff_mem, Bool.not_eq_true'] at hguard
    exact or_assoc.1 hguard
  · rename_i hguard
    simp only [Bool.or_eq_true, List.contains_iff_mem, not_or] at hguard
    split
    · rename_i hdead
      exact .inr (.inl ⟨by simpa using hdead, stackKill_killed _ _ _ _ _ d, rfl⟩)
    · rename_i hfresh
      exact .inr (.inr ⟨by simpa using hfresh, hguard.1.2, rfl, rfl⟩)

theorem loverSuicide_grows (killedNow : List SlotId) (sourceDead : SlotId)
    (state : Deaths F × List SlotId × List SlotId) (slotId : SlotId) :
    suicideCount state ≤ suicideCount (loverSuicide input killedNow sourceDead state slotId) := by
  unfold suicideCount
  rcases loverSuicide_cases input killedNow sourceDead state slotId with
    ⟨-, hsame⟩ | ⟨-, -, hnext⟩ | ⟨-, -, -, hnext⟩
  · rw [hsame]
  · rw [hnext]
  · rw [hnext]
    simp

theorem loverLink_grows (killedNow : List SlotId) (state : Deaths F × List SlotId × List SlotId)
    (link : LinkRecord) : suicideCount state ≤ suicideCount (loverLink input killedNow state link) := by
  unfold loverLink
  split
  · exact Nat.le_refl _
  · exact size_le_foldl (loverSuicide_grows killedNow _) link.slots state

/-! ## What a pass keeps -/

/-- What holds all through a pass begun with `killedNow` dead, of a loop begun with `start` dead. -/
structure LoversKept (input : ResolutionInput F) (start killedNow : List SlotId)
    (state : Deaths F × List SlotId × List SlotId) : Prop where
  now : killedNow <+: state.1.killed
  killed : state.1.killed = start ++ state.2.2
  tracked : LoversTracked killedNow state
  recorded : ∀ slot ∈ state.2.1, slot ∈ state.1.killed
  nodup : state.2.2.Nodup
  fresh : ∀ slot ∈ state.2.2, slot ∉ start
  linked : ∀ slot ∈ state.2.2, slot ∈ input.state.linkedSlots.flatMap (·.slots)

variable {killedNow start : List SlotId} {state : Deaths F × List SlotId × List SlotId}
   {dead : SlotId → Prop}

theorem loverSuicide_kept {sourceDead slotId : SlotId}
    (hlinked : slotId ∈ input.state.linkedSlots.flatMap (·.slots))
    (h : LoversKept input start killedNow state) :
    LoversKept input start killedNow (loverSuicide input killedNow sourceDead state slotId) := by
  have htracked : LoversTracked killedNow (loverSuicide input killedNow sourceDead state slotId) :=
    loverSuicide_tracked sourceDead slotId h.tracked
  rcases loverSuicide_cases input killedNow sourceDead state slotId with
    ⟨-, hsame⟩ | ⟨hnow, hkilled, hnext⟩ | ⟨hnew, hunrecorded, hkilled, hnext⟩
  · rw [hsame]
    exact h
  · refine ⟨?_, ?_, htracked, ?_, ?_, ?_, ?_⟩ <;> simp only [hkilled, hnext]
    · exact h.now
    · exact h.killed
    · intro slot hslot
      rcases List.mem_cons.1 hslot with rfl | hold
      · exact h.now.subset hnow
      · exact h.recorded slot hold
    · exact h.nodup
    · exact h.fresh
    · exact h.linked
  · -- A slot dead by now would be in `killedNow` or recorded.
    have hliving : slotId ∉ state.1.killed := fun hdead =>
      (h.tracked slotId hdead).elim hnew hunrecorded
    have hnotold : slotId ∉ start ∧ slotId ∉ state.2.2 := by
      rw [h.killed, List.mem_append, not_or] at hliving
      exact hliving
    refine ⟨?_, ?_, htracked, ?_, ?_, ?_, ?_⟩ <;> simp only [hkilled, hnext]
    · exact h.now.trans (List.prefix_append _ _)
    · rw [h.killed, List.append_assoc]
    · intro slot hslot
      rcases List.mem_cons.1 hslot with rfl | hold
      · exact List.mem_append_right _ List.mem_cons_self
      · exact List.mem_append_left _ (h.recorded slot hold)
    · exact h.nodup.append (List.nodup_singleton slotId) (by simpa using hnotold.2)
    · intro slot hslot
      rcases List.mem_append.1 hslot with hold | hlast
      · exact h.fresh slot hold
      · exact List.mem_singleton.1 hlast ▸ hnotold.1
    · intro slot hslot
      rcases List.mem_append.1 hslot with hold | hlast
      · exact h.linked slot hold
      · exact List.mem_singleton.1 hlast ▸ hlinked

theorem loverLink_kept {link : LinkRecord} (hlink : link ∈ input.state.linkedSlots)
    (h : LoversKept input start killedNow state) :
    LoversKept input start killedNow (loverLink input killedNow state link) := by
  unfold loverLink
  split
  · exact h
  · exact Steps.foldl_inv (LoversKept input start killedNow)
      (fun _ slot hslot hkept =>
        loverSuicide_kept (List.mem_flatMap.2 ⟨link, hlink, hslot⟩) hkept) h

/-- Between two passes. -/
abbrev LoversBetween (input : ResolutionInput F) (start : List SlotId)
    (state : Deaths F × List SlotId × List SlotId) : Prop :=
  LoversKept input start state.1.killed state

theorem loverPass_kept (h : LoversBetween input start state) : LoversBetween input start (loverPass input state) := by
  have hpass : LoversKept input start state.1.killed (loverPass input state) :=
    Steps.foldl_inv (LoversKept input start state.1.killed)
      (fun _ _ hlink hkept => loverLink_kept hlink hkept) h
  exact { hpass with
    now := List.prefix_rfl
    tracked := fun _ hslot => .inl hslot }

theorem LoversKept.count_le (h : LoversKept input start killedNow state) :
    suicideCount state ≤ (input.state.linkedSlots.map (·.slots.length)).sum := by
  have hsub := h.nodup.subperm h.linked
  have hlength := hsub.length_le
  rw [List.length_flatMap] at hlength
  exact hlength

theorem loverPass_bounded (start : List SlotId) :
    Bounded (loverPass input) suicideCount (LoversBetween input start)
      (input.state.linkedSlots.map (·.slots.length)).sum where
  keeps _ h := loverPass_kept h
  grows state _ := size_le_foldl (loverLink_grows state.1.killed) input.state.linkedSlots state
  below _ h := h.count_le

/-! ## The last pass -/

theorem LoversKept.killed_eq {last b : Deaths F × List SlotId × List SlotId}
    (hlast : LoversBetween input start last) (hb : LoversKept input start last.1.killed b)
    (same : suicideCount b = suicideCount last) : b.1.killed = last.1.killed := by
  refine (hb.now.eq_of_length ?_).symm
  have hcount : b.2.2.length = last.2.2.length := same
  rw [hlast.killed, hb.killed, List.length_append, List.length_append, hcount]

/-- A pass that kills nobody has found nobody left to kill: the living members of a link with a dead
one are the source the pass found, have their suicide recorded, or died before the pass. -/
theorem loverPass_closed {last : Deaths F × List SlotId × List SlotId}
    (hlast : LoversBetween input start last)
    (same : suicideCount (loverPass input last) = suicideCount last) :
    LinkClosed input (· ∈ last.1.killed) := by
  intro link hlink source hsource hdead slot hslot halive
  obtain ⟨b, hb, hbcount, hbsame⟩ := foldl_stable (loverLink_grows last.1.killed)
    (LoversKept input start last.1.killed) (fun _ _ hlink hkept => loverLink_kept hlink hkept)
    hlast same link hlink
  have hbkilled := hlast.killed_eq hb hbcount
  unfold loverLink at hbsame
  split at hbsame
  · rename_i hnone
    rw [hbkilled, List.find?_eq_none] at hnone
    exact absurd (by simpa using hsource) (hnone source hdead)
  · rename_i sourceDead hfind
    have hsourceDead : sourceDead ∈ last.1.killed := hbkilled ▸ List.mem_of_find?_eq_some hfind
    obtain ⟨c, hc, hccount, hcsame⟩ := foldl_stable (loverSuicide_grows last.1.killed sourceDead)
      (LoversKept input start last.1.killed)
      (fun _ other hother hkept =>
        loverSuicide_kept (List.mem_flatMap.2 ⟨link, hlink, hother⟩) hkept)
      hb (hbsame.trans hbcount.symm) slot hslot
    have hckilled := hlast.killed_eq hc (hccount.trans hbcount)
    rcases loverSuicide_cases input last.1.killed sourceDead c slot with
      ⟨hpassed, -⟩ | ⟨hnow, -⟩ | ⟨-, -, -, hnext⟩
    · rcases hpassed with rfl | hrecorded | hgone
      · exact hsourceDead
      · exact hckilled ▸ hc.recorded slot hrecorded
      · rw [halive] at hgone
        cases hgone
    · exact hnow
    · exfalso
      unfold suicideCount at hccount hcsame
      rw [hnext, List.length_append] at hcsame
      simp only [List.length_singleton] at hcsame
      omega

/-! ## The whole loop -/

theorem loversBetween_start (d : Deaths F) : LoversBetween input d.killed (d, [], []) where
  now := List.prefix_rfl
  killed := by simp
  tracked _ hslot := .inl hslot
  recorded _ hslot := absurd hslot List.not_mem_nil
  nodup := List.nodup_nil
  fresh _ hslot := absurd hslot List.not_mem_nil
  linked _ hslot := absurd hslot List.not_mem_nil

/-- The fuel `applyLoverSuicides` gives its loop. -/
def loverFuel (input : ResolutionInput F) : Nat :=
  (input.state.linkedSlots.map (·.slots.length)).sum + 1

theorem applyLoverSuicides_eq (d : Deaths F) (enabled : input.pack.document.loverPolicy.enabled = true)
    (suicides : input.pack.document.loverPolicy.suicideOnLoverDeath = true) :
    applyLoverSuicides input d = ((loverLoop input (loverFuel input) (d, [], [])).1,
        (loverLoop input (loverFuel input) (d, [], [])).2.2) := by
  unfold applyLoverSuicides loverFuel
  dsimp only
  rw [enabled, suicides]
  rfl

end Lovers

/-! ## A circle of lovers -/

/-- Four townies linked in a circle, the links listed against the order in which they are followed. -/
def loverCircle : ResolutionInput Rat :=
  village ⟨{ villagePack [] with loverPolicy := { enabled := true } }, [], .of_plain (by decide) rfl rfl⟩
    { phaseId := .first .night
      slots := [townie "a", townie "b", townie "c", townie "d", goon "e"]
      linkedSlots := [⟨"3", ["c", "d"], "e"⟩, ⟨"2", ["b", "c"], "e"⟩, ⟨"1", ["a", "b"], "e"⟩,
        ⟨"4", ["d", "a"], "e"⟩] }
    []

end Fmarch.Resolver
