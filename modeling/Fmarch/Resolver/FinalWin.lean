import Fmarch.Resolver.LynchWins

/-!
# The win a resolution ends in

`finalize_resolution` checks the win rules, runs the win triggers for the winner, and checks again. Where
a lynch won already, none of this happens.

**`finalWin_fresh`**: a resolution without a lynch win ends in the win its own events give, survival
awards included, whenever they give one, and in none if no rule fired before the win triggers.
-/

namespace Fmarch.Resolver

open Fmarch.Domain

variable {F : Type} [Float64 F]

section Final

variable {input : ResolutionInput F}

/-- Every event of a vote's lynch wins names the slot lynched. -/
theorem lynchWon?_lynchWins {winner : SlotId} {events : List (InnerEvent F)} {event : InnerEvent F}
    (h : event ∈ lynchWins input winner events) : lynchWon? event = some winner := by
  have hself : ∀ event ∈ (selfLynchWin input winner : Option (InnerEvent F)).toList,
      lynchWon? event = some winner := fun _ hevent =>
    lynchWon?_selfLynchWin (Option.mem_toList.1 hevent)
  unfold lynchWins at h
  dsimp only at h
  split at h
  · exact hself event h
  · rcases List.mem_append.1 h with h | htarget
    · exact hself event h
    · exact lynchWon?_targetLynchWins htarget

/-- The wins a phase resolves by itself are lynch wins. -/
theorem lynchWon?_phaseParts {event : InnerEvent F} (h : event ∈ (phaseParts input).wins) :
    (lynchWon? event).isSome = true := by
  unfold phaseParts at h
  cases hkind : input.state.phaseId.kind with
  | day =>
    rw [hkind] at h
    dsimp only at h
    split at h
    · rw [lynchWon?_lynchWins h]
      rfl
    · exact absurd h List.not_mem_nil
  | twilight | night =>
    rw [hkind] at h
    exact absurd h List.not_mem_nil

/-- The events before the wins. -/
def Parts.before (input : ResolutionInput F) (parts : Parts F) : List (InnerEvent F) :=
  parts.body ++ [.phaseAnnouncement (phaseAnnouncement input parts.deaths)]

theorem Parts.events_eq (parts : Parts F) : parts.events input = parts.before input ++ parts.wins := by
  unfold Parts.events Parts.before
  rw [List.append_assoc]
  rfl

theorem Parts.Sorted.before {parts : Parts F} (h : parts.Sorted) :
    ∀ event ∈ parts.before input, event.isWinReached = false := by
  intro event hevent
  rcases List.mem_append.1 hevent with hbody | hlast
  · exact (h.body event hbody).not_win
  · obtain rfl := List.mem_singleton.1 hlast
    rfl

theorem wonParts_wins {tentative win : AlignmentKey × String} {parts : Parts F}
    (h : checkWin (applyEvents input.state ((wonParts input tentative parts).before input))
      input.pack.document = some win) :
    (wonParts input tentative parts).wins =
      [winReached (applyEvents input.state ((wonParts input tentative parts).before input))
        input.pack.document win] := by
  simp only [wonParts, Parts.before] at h ⊢
  rw [h]

/-- **A resolution is its events before the wins and its wins. With a lynch win all wins are lynch wins.
Without one, whenever the state all the events before give has a win, the resolution ends in that win
alone, with the survival awards of that state; and if no rule fired before the win triggers, it has no win,
and neither does that state.** -/
theorem finalWin_fresh {out : ResolutionOutput F} (h : resolve input = .ok out) :
    ∃ before wins, out.applied.events.map (·.event) = before ++ wins ∧
      (∀ event ∈ before, event.isWinReached = false) ∧
      (∀ event ∈ wins, event.isWinReached = true) ∧
      ((∃ event ∈ wins, (lynchWon? event).isSome = true) → ∀ event ∈ wins, (lynchWon? event).isSome = true) ∧
      ((¬ ∃ event ∈ wins, (lynchWon? event).isSome = true) →
        (∀ win, checkWin (applyEvents input.state before) input.pack.document = some win →
          wins = [winReached (applyEvents input.state before) input.pack.document win]) ∧
        (checkWin (applyEvents input.state
            (applyTreestumpPolicy input (resolveInner input).events)) input.pack.document = none →
          wins = [] ∧ checkWin (applyEvents input.state before) input.pack.document = none)) := by
  refine ⟨(finalParts input).before input, (finalParts input).wins, ?_,
    (finalParts_sorted input).before, (finalParts_sorted input).wins, ?_⟩
  · rw [(resolve_events h).1, Parts.events_eq]
  rw [applyTreestumpPolicy_parts]
  unfold finalParts Parts.finished
  split
  · rename_i hlynch
    obtain ⟨event, hevent⟩ : ∃ event, event ∈ (taggedParts input).wins :=
      List.exists_mem_of_ne_nil _ (by simpa using hlynch)
    exact ⟨fun _ _ hmem => lynchWon?_phaseParts hmem,
      fun hnone => absurd ⟨event, hevent, lynchWon?_phaseParts hevent⟩ hnone⟩
  · rename_i hlynch
    have hwins : (taggedParts input).wins = [] := by simpa using hlynch
    have hevents : (taggedParts input).events input = (taggedParts input).before input := by
      rw [Parts.events_eq, hwins, List.append_nil]
    cases htentative : checkWin (applyEvents input.state ((taggedParts input).events input))
        input.pack.document with
    | none =>
      dsimp only
      rw [hwins, ← hevents, htentative]
      exact ⟨fun ⟨_, hevent, _⟩ => absurd hevent List.not_mem_nil,
        fun _ => ⟨fun win hwin => absurd hwin (by simp), fun _ => ⟨rfl, rfl⟩⟩⟩
    | some tentative =>
      dsimp only
      refine ⟨fun ⟨event, hevent, hwon⟩ => ?_,
        fun _ => ⟨fun win hwin => wonParts_wins hwin, fun hnone => absurd hnone (by simp)⟩⟩
      rw [lynchWon?_wonParts hevent] at hwon
      cases hwon

end Final

/-! ## A lynch that ends in parity -/

/-- Townie and goon vote the jester out, which leaves one against one. -/
def parityDay : ResolutionInput Rat :=
  let ballot (actor : SlotId) : Submission :=
    { actionId := actor, actor, templateId := "day_vote", targets := ["j"], phaseId := .first .day
      submittedAt := 0 }
  { jesterDay [] with
    state :=
      { phaseId := .first .day
        slots := [townie "a", goon "e", { townie "j" with roleKey := "jester", alignment := some "jester" }] }
    submissions := [ballot "a", ballot "e"] }

/-- The jester's win is the only one, though the events before it give the mafia's. -/
theorem parityDay_noFactionWin : ∃ out, resolve parityDay = .ok out ∧ ∃ before win,
      out.applied.events.map (·.event) = before ++ [win] ∧ lynchWon? win = some "j" ∧
      (∀ event ∈ before, event.isWinReached = false) ∧
      (checkWin (applyEvents parityDay.state before) parityDay.pack.document).map (·.1) = some "mafia" := by
  have hok : (resolve parityDay).toOption.isSome = true := by decide +kernel
  have hwins : (finalParts parityDay).wins.map lynchWon? = [some "j"] := by decide +kernel
  have hmafia : (checkWin (applyEvents parityDay.state ((finalParts parityDay).before parityDay))
      parityDay.pack.document).map (·.1) = some "mafia" := by decide +kernel
  cases hresolve : resolve parityDay with
  | error failure => exact absurd hok (by simp [hresolve, Except.toOption])
  | ok out =>
    obtain ⟨win, hwin, hwon⟩ := List.map_eq_singleton_iff.1 hwins
    refine ⟨out, rfl, (finalParts parityDay).before parityDay, win, ?_, hwon,
      (finalParts_sorted parityDay).before, hmafia⟩
    rw [(resolve_events hresolve).1, Parts.events_eq, hwin]

/-- A day without ballots on which one townie is left with one goon. -/
def quietDay : ResolutionInput Rat :=
  { parityDay with
    state := { phaseId := .first .day, slots := [townie "a", goon "e"] }
    submissions := [] }

/-- It ends in the win its own events give. -/
theorem quietDay_fresh : ∃ out, resolve quietDay = .ok out ∧ ∃ before wins,
      out.applied.events.map (·.event) = before ++ wins ∧
      ∀ win, checkWin (applyEvents quietDay.state before) quietDay.pack.document = some win →
        wins = [winReached (applyEvents quietDay.state before) quietDay.pack.document win] := by
  have hok : (resolve quietDay).toOption.map
      (fun out => (out.applied.events.map (·.event)).filterMap lynchWon?) = some [] := by
    decide +kernel
  cases hresolve : resolve quietDay with
  | error failure => exact absurd hok (by simp [hresolve, Except.toOption])
  | ok out =>
    have hread : (out.applied.events.map (·.event)).filterMap lynchWon? = [] := by
      simpa [hresolve, Except.toOption] using hok
    obtain ⟨before, wins, hevents, -, -, -, hfresh⟩ := finalWin_fresh hresolve
    refine ⟨out, rfl, before, wins, hevents, (hfresh ?_).1⟩
    rintro ⟨event, hevent, hwon⟩
    have hmem : event ∈ out.applied.events.map (·.event) :=
      hevents ▸ List.mem_append_right _ hevent
    rw [List.filterMap_eq_nil_iff.1 hread event hmem] at hwon
    cases hwon

end Fmarch.Resolver
