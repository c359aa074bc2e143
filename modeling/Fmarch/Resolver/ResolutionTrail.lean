import Fmarch.Resolver.NightTrail
import Fmarch.Resolver.Shape

/-!
# The trail of a resolution

A day and a twilight ask `death_reveal_mode` for each of their deaths, the ITA hits, the lynch and its
cascades included, and say nothing of delayed deaths: the triggers and the retaliations of a vote have no
protections to run into, and so nobody is struck down. The same holds of the finalisation.

**`resolveInner_trail`** and **`finalEvents_trail`**: but for a night's own stages and deaths, a resolution
strikes nobody down, and neither queues nor resolves a delayed death.
-/

namespace Fmarch.Resolver

open Fmarch.Domain Keyed

variable {F : Type} [Float64 F]

section Trails

variable {input : ResolutionInput F}

variable {event : InnerEvent F} {before events : List (InnerEvent F)}

omit [Float64 F] in
theorem win_aside (h : event.isWinReached = true) : Aside event := by
  cases event <;> first | exact ⟨rfl, rfl, rfl⟩ | exact absurd h (by simp [InnerEvent.isWinReached])

theorem Trail.remarks (h : ∀ event ∈ events, Remark event) : Trail input before [] (before ++ events) :=
  .append fun event hevent => (h event hevent).aside

theorem Trail.announce (announcement : PhaseAnnouncement) :
    Trail input before [] (before ++ [.phaseAnnouncement announcement]) :=
  .emit ⟨rfl, rfl, rfl⟩

theorem Trail.insert {later : List (InnerEvent F)} (h : ∀ event ∈ events, Aside event) :
    Trail input (before ++ later) [] (before ++ events ++ later) where
  shown := Shows.of_eq (by simp [List.filterMap_eq_nil_iff.2 fun event hevent => (h event hevent).1])
    |>.shown
  queued := by simp [List.filterMap_eq_nil_iff.2 fun event hevent => (h event hevent).2.1]
  resolved := by simp [List.filterMap_eq_nil_iff.2 fun event hevent => (h event hevent).2.2]

theorem Trail.dropLast (h : Aside event) : Trail input (before ++ [event]) [] before where
  shown := (Shows.of_eq (by simp [h.1])).shown
  queued := by simp [h.2.1]
  resolved := by simp [h.2.2]

/-- Events that are heard strike nobody down. -/
theorem Trail.heard (h : ∀ event ∈ events, Heard input event) : Trail input before [] (before ++ events) where
  shown := by
    refine ⟨events.filterMap shown?, List.filterMap_append, fun death hdeath => ?_, by simp⟩
    obtain ⟨event, hevent, hshown⟩ := List.mem_filterMap.1 hdeath
    have hheard := h event hevent
    cases event with
    | playerKilled =>
      obtain rfl := Option.some.inj hshown
      exact .inl hheard
    | _ => exact nomatch hshown
  queued := by
    have hnone : ∀ event ∈ events, queued? event = none := fun event hevent => by
      have hheard := h event hevent
      cases event <;> first | rfl | exact absurd hheard id
    rw [List.filterMap_append, List.filterMap_eq_nil_iff.2 hnone, List.append_nil]
  resolved := by
    have hnone : ∀ event ∈ events, resolved? event = none := fun event hevent => by
      have hheard := h event hevent
      cases event <;> first | rfl | exact absurd hheard id
    rw [List.filterMap_append, List.filterMap_eq_nil_iff.2 hnone, List.append_nil]

theorem Shows.behind {struck : List (SlotId × String)} (h : Shows input [] struck events)
    (before : List (InnerEvent F)) :
    Shows input before struck (before ++ events) := by
  obtain ⟨deaths, hdeaths, hmodes, hstruck⟩ := h.shown
  exact ⟨deaths, by rw [List.filterMap_append, hdeaths]; rfl, hmodes, hstruck⟩

theorem Trail.behind {struck : List (SlotId × String)} (h : Trail input [] struck events)
    (before : List (InnerEvent F)) :
    Trail input before struck (before ++ events) where
  toShows := h.toShows.behind before
  queued := by rw [List.filterMap_append, h.queued]; exact List.append_nil _
  resolved := by rw [List.filterMap_append, h.resolved]; exact List.append_nil _

/-! ## The phases -/

theorem voteAftermath_trail (d : Deaths F) : Trail input d.events [] (voteAftermath input d) :=
  (Trail.remarks (remark_effectSourceDeathReveals _ _ _)).trans
    (.remarks (remark_belovedPrincessPrompts _ _))

theorem resolveDay_trail (input : ResolutionInput F) : Trail input [] [] (resolveDay input).events := by
  let lynch := (voteLynch input (resolveBadgeActions input).1 (dayBeforeVote input)).2
  have hlynch : Trail input [] [] lynch.events := .heard (voteLynch_ok _ (told_dayBeforeVote input)).heard
  have hcascades : Trail input lynch.events [] (voteCascades input lynch).1.events := by
    obtain ⟨htriggers, -, hrest⟩ := voteCascades_run (fun _ => id) (aliveOk_any input)
      (triggersOk_any _) (fun _ _ => ⟨trivial, trivial⟩) (lynchDeaths_known lynch)
    have hlast := Trail.of_run hrest
    exact (Trail.of_run htriggers).trans hlast
  have hannounced := ((hlynch.trans hcascades).trans (voteAftermath_trail _)).trans
    (.announce (phaseAnnouncement input (voteCascades input lynch).2.1))
  refine hannounced.trans (.append fun event hevent => win_aside ?_)
  split at hevent
  · exact wins_lynchWins input _ _ event hevent
  · exact absurd hevent List.not_mem_nil

theorem selfDestructPhase_trail (matchesWindow : ActionTemplate F → Bool) :
    let events := resolveSelfDestructActionsMatching input matchesWindow []
    let body := events ++ belovedPrincessPrompts input events
    Trail input [] []
      (body ++ [.phaseAnnouncement (phaseAnnouncement input (deathsFromEvents body))]) := by
  have hstage : StageOk False input [] (resolveSelfDestructActionsMatching input matchesWindow []) :=
    resolveSelfDestructActionsMatching_ok _ (fun h => h.elim) []
  have hdestructs : Trail input [] [] (resolveSelfDestructActionsMatching input matchesWindow []) :=
    .heard fun event hevent => (hstage.told (by simp) event hevent).2
  exact (hdestructs.trans (.remarks (remark_belovedPrincessPrompts input _))).trans (.announce _)

theorem nightAftermath_trail (actions : List (Action F)) (d : Deaths F) :
    Trail input d.events [] (nightAftermath input actions d) :=
  (((Trail.remarks (remark_backupInheritance _ _ _)).trans
    (.remarks (remark_effectSourceDeathReveals _ _ _))).trans
    (.remarks (remark_historySensitiveActionEvents _ _))).trans
    (.remarks (remark_belovedPrincessPrompts _ _))

/-- Away from the night nobody is struck down, and nothing is said of delayed deaths. -/
theorem resolveInner_trail (hday : input.state.phaseId.kind ≠ .night) :
    Trail input [] [] (resolveInner input).events := by
  have hphase : Trail input [] [] (resolvePhase input).events := by
    unfold resolvePhase
    cases hkind : input.state.phaseId.kind with
    | day => exact resolveDay_trail input
    | twilight => exact selfDestructPhase_trail _
    | night => exact absurd hkind hday
  have hpreamble : Trail input [] [] (preamble input) := .remarks (remark_preamble input)
  exact hpreamble.trans (hphase.behind (preamble input))

/-! ## The finalisation -/

theorem applyTreestumpPolicy_trail (events : List (InnerEvent F)) :
    Trail input events [] (applyTreestumpPolicy input events) := by
  unfold applyTreestumpPolicy
  dsimp only
  split
  · exact .refl events
  · split
    · exact .refl events
    · rename_i index _
      conv in Trail input events => rw [← List.take_append_drop index events]
      refine .insert fun event hevent => ?_
      obtain ⟨slotId, source, rfl⟩ := mem_treestumpTags hevent
      exact ⟨rfl, rfl, rfl⟩

theorem applyWinTriggersBeforeFinal_trail {winner : AlignmentKey} {after : List (InnerEvent F)}
    {notes : List String}
    (h : applyWinTriggersBeforeFinal input winner events = some (after, notes)) :
    Trail input events [] after := by
  unfold applyWinTriggersBeforeFinal at h
  split at h
  · rename_i announcement hlast
    obtain ⟨rfl, -⟩ := Prod.mk.inj (Option.some.inj h)
    have hevents : events = events.dropLast ++ [.phaseAnnouncement announcement] := by
      obtain ⟨before, rfl⟩ := List.getLast?_eq_some_iff.1 hlast
      rw [List.dropLast_concat]
    have hdropped : Trail input events [] events.dropLast := by
      conv in Trail input events => rw [hevents]
      exact .dropLast ⟨rfl, rfl, rfl⟩
    have hrun : Deaths.Run input NoEvent AnySlot AnySlot _ (winTriggers input winner events.dropLast).1 :=
      winTriggers_run (fun _ => id) (triggersOk_any _) (fun _ _ => trivial) fun _ _ => trivial
    have htriggers : Trail input events.dropLast [] _ := .of_run hrun
    exact (hdropped.trans htriggers).trans (.announce _)
  · cases h

theorem finalEvents_trail {inner : InnerResolution F} {notes : List String}
    (h : finalEvents input inner = some (events, notes)) :
    Trail input inner.events [] events := by
  have htagged : Trail input inner.events [] (applyTreestumpPolicy input inner.events) :=
    applyTreestumpPolicy_trail inner.events
  unfold finalEvents at h
  dsimp only at h
  split at h
  · obtain ⟨rfl, -⟩ := Prod.mk.inj (Option.some.inj h)
    exact htagged
  · split at h
    · obtain ⟨rfl, -⟩ := Prod.mk.inj (Option.some.inj h)
      exact htagged
    · obtain ⟨⟨triggered, later⟩, htriggers, h⟩ := Option.bind_eq_some_iff.1 h
      obtain ⟨rfl, -⟩ := Prod.mk.inj (Option.some.inj h)
      refine (htagged.trans (applyWinTriggersBeforeFinal_trail htriggers)).trans (.emit (win_aside ?_))
      split <;> rfl

/-- The events of a resolution that ends well are the final ones. -/
theorem finalizeResolution_events {inner : InnerResolution F} {out : ResolutionOutput F}
    (h : finalizeResolution input inner = .ok out) :
    ∃ notes, finalEvents input inner = some (out.applied.events.map (·.event), notes) := by
  unfold finalizeResolution at h
  split at h
  · cases h
  · rename_i events notes hfinal
    dsimp only at h
    split at h
    · cases h
    · split at h
      · cases h
      · obtain rfl := Except.ok.inj h
        rw [wrapResolution_events]
        exact ⟨notes, hfinal⟩

end Trails

end Fmarch.Resolver
