import Fmarch.Resolver.Shape

/-!
# A winner's own threshold

Under a majority each slot has a threshold of its own, so the slots with the highest tally need not be
those that have met theirs. `decide_outcome` draws the contenders from the latter; the role tie breaker and
the random one choose among these, and `EarliestReached` among the former.

**`winner_earned_iff`**: a vote's winner is a contender whose tally reaches its threshold, unless
`EarliestReached` breaks the tie with a slot that is no contender.
-/

namespace Fmarch.Resolver

open Fmarch.Domain Keyed StableSort

/-! ## What is claimed of a winner -/

/-- The winner of a majority vote is a contender and has met its threshold. -/
def WinnerEarned (outcome : DayVoteOutcome Rat) : Prop :=
  ∀ winner base, outcome.winner = some winner → outcome.majority = some base → winner ∈ outcome.contenders ∧
      ∃ tally, outcome.tallies[winner]? = some tally ∧ outcome.thresholds.getD winner base ≤ tally

/-- The decision a vote comes to. -/
def voteDecision (input : ResolutionInput Rat) (voteState : StateSnapshot Rat)
    (badges : List (BadgeRecord Rat)) (duel : VoteDuel) : OutcomeDecision Rat :=
  let rules := voteRules input voteState badges duel
  let (votes, history, hammered) := castBallots rules (dayVotes input) ∅ []
  let votes := if hammered then votes else retainDuel duel votes
  let tallies := finalTallies rules votes
  let maxTally := tallies.values.foldl Float64.max Float64.zero
  let top := topContenders duel tallies maxTally
  { tallies
    topContenders := top
    maxTally
    majority := rules.majority
    thresholds := rules.thresholds
    tieBreaker := if duel.isSome then .random else rules.policy.tieBreaker
    roleTiebreakerWinner := roleTiebreakerWinner voteState top rules.policy.tiebreakerRoles
    earliestReachedWinner := earliestReachedWinner history top maxTally
    seed := input.seed
    forceTopContenders := duel.isSome
    hammerReached := hammered }

/-- `EarliestReached` breaks the tie of several contenders, none of whom has a tie breaker's role, with
another slot. -/
def TieMisses (decision : OutcomeDecision Rat) (contenders : List SlotId) : Prop :=
  decision.tieBreaker = .earliestReached ∧ 2 ≤ contenders.length ∧
    decision.roleTiebreakerWinner.filter (contenders.contains ·) = none ∧
    ∃ first, decision.earliestReachedWinner = some first ∧ first ≠ noLynchTarget ∧ first ∉ contenders

/-- The same of a vote with a majority. -/
def EarliestMisses (decision : OutcomeDecision Rat) : Prop :=
  ∃ base contenders, decision.majority = some base ∧ eligibleContenders decision base = some contenders ∧
    TieMisses decision contenders

/-! ## The contenders -/

section Contenders

variable {decision : OutcomeDecision Rat} {base : Rat} {contenders : List SlotId}

theorem le_foldl_max (values : List Rat) (start : Rat) : start ≤ values.foldl Float64.max start := by
  induction values generalizing start with
  | nil => exact Rat.le_refl
  | cons value values ih =>
    refine le_trans ?_ (ih _)
    unfold Float64.max
    split
    case isTrue hlt => exact le_of_lt (of_decide_eq_true hlt)
    case isFalse => exact Rat.le_refl

theorem foldl_max_mem (values : List Rat) (start : Rat) :
    values.foldl Float64.max start = start ∨ values.foldl Float64.max start ∈ values := by
  induction values generalizing start with
  | nil => exact .inl rfl
  | cons value values ih =>
    rw [List.foldl_cons]
    rcases ih (Float64.max start value) with hsame | hmem
    · rw [hsame]
      unfold Float64.max
      split
      · exact .inr List.mem_cons_self
      · exact .inl rfl
    · exact .inr (List.mem_cons_of_mem _ hmem)

/-- The highest of some positive values is one of them. -/
theorem foldl_max_pos {values : List Rat} (hne : values ≠ []) (hpos : ∀ value ∈ values, 0 < value) :
    values.foldl Float64.max Float64.zero ∈ values := by
  rcases foldl_max_mem values Float64.zero with hzero | hmem
  · cases values with
    | nil => exact absurd rfl hne
    | cons value values =>
      have hvalue := hpos value List.mem_cons_self
      have hle := le_foldl_max values (Float64.max Float64.zero value)
      have hmax : Float64.max (Float64.zero : Rat) value = value := if_pos (decide_eq_true hvalue)
      rw [List.foldl_cons, hmax] at hzero
      rw [hmax, hzero] at hle
      exact absurd hvalue (not_lt_of_ge hle)
  · exact hmem

/-- A contender has met its threshold. -/
theorem eligible_earned (h : eligibleContenders decision base = some contenders) {slot : SlotId}
    (hslot : slot ∈ contenders) :
    ∃ tally, decision.tallies[slot]? = some tally ∧ decision.thresholds.getD slot base ≤ tally := by
  unfold eligibleContenders at h
  dsimp only at h
  split at h
  · cases h
  · obtain rfl := Option.some.inj h
    obtain ⟨⟨_, tally⟩, hentry, rfl⟩ := List.mem_map.1 hslot
    obtain ⟨hlisted, hmet⟩ := List.mem_filter.1 (List.mem_filter.1 hentry).1
    rw [Bool.and_eq_true] at hmet
    exact ⟨tally, Std.TreeMap.mem_toList_iff_getElem?_eq_some.1 hlisted, of_decide_eq_true hmet.2⟩

theorem floatClose_self (tally : Rat) : floatClose tally tally = true := by
  have habs : Float64.abs (Float64.sub tally tally) = (0 : Rat) := by
    show (if tally - tally < 0 then -(tally - tally) else tally - tally) = 0
    rw [sub_self, if_neg (lt_irrefl _)]
  unfold floatClose
  rw [habs]
  decide +kernel

/-- Somebody who has met its threshold has the highest tally of those who have. -/
theorem eligible_ne_nil (h : eligibleContenders decision base = some contenders) : contenders ≠ [] := by
  unfold eligibleContenders at h
  dsimp only at h
  split at h
  · cases h
  · rename_i hsome
    obtain rfl := Option.some.inj h
    generalize heligible : decision.tallies.toList.filter _ = eligible at hsome ⊢
    have hpos : ∀ value ∈ eligible.map (·.2), 0 < value := by
      intro value hvalue
      obtain ⟨⟨slot, _⟩, hentry, rfl⟩ := List.mem_map.1 hvalue
      rw [← heligible] at hentry
      have hmet := (List.mem_filter.1 hentry).2
      rw [Bool.and_eq_true] at hmet
      exact of_decide_eq_true hmet.1
    have htop := foldl_max_pos (by simpa using hsome) hpos
    obtain ⟨⟨slot, tally⟩, hentry, heq⟩ := List.mem_map.1 htop
    have hclose : floatClose tally ((eligible.map (·.2)).foldl Float64.max Float64.zero) = true := by
      rw [← heq]
      exact floatClose_self tally
    exact List.ne_nil_of_mem (List.mem_map.2 ⟨_, List.mem_filter.2 ⟨hentry, hclose⟩, rfl⟩)

/-! ## The decision -/

theorem getD_mod_mem (hpos : 0 < contenders.length) (index : Nat) (fallback : SlotId) :
    contenders.getD (index % contenders.length) fallback ∈ contenders := by
  have hindex := Nat.mod_lt index hpos
  rw [List.getD_eq_getElem?_getD, List.getElem?_eq_getElem hindex]
  exact List.getElem_mem hindex

theorem tiedWinner_winner {first : SlotId} {tiebreak reason : String} {winner : SlotId} :
    (tiedWinner first contenders tiebreak reason).winner = some winner ↔
      first ≠ noLynchTarget ∧ first = winner := by
  unfold tiedWinner
  by_cases hfirst : first = noLynchTarget
  · simp [hfirst]
  · simp [hfirst]

/-- A tie among several contenders is broken for one of them, but for the tie that misses them. -/
theorem breakTie_mem_iff (htwo : 2 ≤ contenders.length) :
    (∀ winner, (breakTie decision contenders).winner = some winner → winner ∈ contenders) ↔
      ¬ TieMisses decision contenders := by
  cases hrole : decision.roleTiebreakerWinner.filter (contenders.contains ·) with
  | some role =>
    have hmem : role ∈ contenders := by
      have hkept := (Option.filter_eq_some_iff.1 hrole).2
      exact List.contains_iff_mem.1 hkept
    refine ⟨fun _ hmisses => absurd (hrole.symm.trans hmisses.2.2.1) (by simp), fun _ winner hwinner => ?_⟩
    unfold breakTie at hwinner
    rw [hrole] at hwinner
    obtain rfl := Option.some.inj hwinner
    exact hmem
  | none =>
    unfold breakTie
    rw [hrole]
    cases htie : decision.tieBreaker with
    | noElimination | hostDecides =>
      refine ⟨fun _ hmisses => absurd (htie.symm.trans hmisses.1) (by simp), fun _ winner hwinner => ?_⟩
      cases hwinner
    | earliestReached =>
      dsimp only
      constructor
      · rintro hall ⟨-, -, -, first, hfirst, hslot, hmissing⟩
        refine hmissing (hall first (tiedWinner_winner.2 ⟨?_, ?_⟩)) <;> rw [hfirst]
        · exact hslot
        · rfl
      · intro hhits winner hwinner
        obtain ⟨hslot, hfirst⟩ := tiedWinner_winner.1 hwinner
        cases hearliest : decision.earliestReachedWinner with
        | some first =>
          rw [hearliest, Option.getD_some] at hfirst hslot
          by_contra hmissing
          exact hhits ⟨htie, htwo, hrole, first, hearliest, hslot, hfirst ▸ hmissing⟩
        | none =>
          rw [hearliest, Option.getD_none] at hfirst
          cases contenders with
          | nil => cases htwo
          | cons contender contenders => exact hfirst ▸ List.mem_cons_self
    | random =>
      refine ⟨fun _ hmisses => absurd (htie.symm.trans hmisses.1) (by simp), fun _ winner hwinner => ?_⟩
      obtain ⟨-, hdrawn⟩ := tiedWinner_winner.1 hwinner
      rw [← hdrawn]
      exact getD_mod_mem (show 0 < contenders.length by omega) _ _

/-- Every decision among some contenders is for one of them, but for the tie that misses them. -/
theorem decideContenders_mem_iff (hne : contenders ≠ []) :
    (∀ winner, (decideContenders decision contenders).winner = some winner → winner ∈ contenders) ↔
      ¬ TieMisses decision contenders := by
  match contenders with
  | [contender] =>
    refine ⟨fun _ hmisses => absurd hmisses.2.1 (by simp), fun _ winner hwinner => ?_⟩
    unfold decideContenders at hwinner
    dsimp only at hwinner
    split at hwinner
    · cases hwinner
    · obtain rfl := Option.some.inj hwinner
      exact List.mem_singleton.2 rfl
  | first :: second :: rest => exact breakTie_mem_iff (by simp)

theorem decideContenders_contenders : (decideContenders decision contenders).contenders = contenders := by
  unfold decideContenders
  split
  · split <;> rfl
  · unfold breakTie tiedWinner
    dsimp only
    split
    · rfl
    · split <;> (try split) <;> rfl

end Contenders

/-! ## The vote -/

variable (input : ResolutionInput Rat) (voteState : StateSnapshot Rat) (badges : List (BadgeRecord Rat))

/-- No slot reaches the highest tally unless there is one. -/
theorem earliest_none (h : (voteDecision input voteState badges none).topContenders.isEmpty ||
      (!(voteDecision input voteState badges none).forceTopContenders &&
        Float64.le (voteDecision input voteState badges none).maxTally Float64.zero)) :
    (voteDecision input voteState badges none).earliestReachedWinner = none := by
  have htop : (voteDecision input voteState badges none).topContenders = [] := by
    rcases Bool.or_eq_true_iff.1 h with hempty | hlow
    · exact List.isEmpty_iff.1 hempty
    · have hle := of_decide_eq_true (Bool.and_eq_true_iff.1 hlow).2
      refine List.map_eq_nil_iff.2 (List.filter_eq_nil_iff.2 fun entry _ hentry => ?_)
      exact absurd (of_decide_eq_true (Bool.and_eq_true_iff.1 hentry).1) (not_lt_of_ge hle)
  have hnone : ∀ history (maxTally : Rat), earliestReachedWinner history [] maxTally = none := by
    intro history maxTally
    exact List.findSome?_eq_none_iff.2 fun _ _ => rfl
  show earliestReachedWinner _ (voteDecision input voteState badges none).topContenders _ = none
  rw [htop]
  exact hnone _ _

/-- Once somebody has met its threshold, the decision is among those who have. -/
theorem decideOutcome_eligible {base : Rat} {contenders : List SlotId}
    (htop : ¬ ((voteDecision input voteState badges none).topContenders.isEmpty ||
      (!(voteDecision input voteState badges none).forceTopContenders &&
        Float64.le (voteDecision input voteState badges none).maxTally Float64.zero)))
    (hbase : (voteDecision input voteState badges none).majority = some base)
    (heligible : eligibleContenders (voteDecision input voteState badges none) base = some contenders) :
    decideOutcome (voteDecision input voteState badges none) =
      decideContenders (voteDecision input voteState badges none) contenders := by
  have hforce : (voteDecision input voteState badges none).forceTopContenders = false := rfl
  unfold decideOutcome
  rw [if_neg htop, hforce, if_neg (by simp), hbase]
  dsimp only
  rw [heligible]

/-- **The winner of a majority vote without a duel is a contender and has met its threshold, unless
`EarliestReached` breaks the tie with a slot that is no contender.** -/
theorem winner_earned_iff : WinnerEarned (countVotes input voteState badges none) ↔
      ¬ EarliestMisses (voteDecision input voteState badges none) := by
  constructor
  · rintro hearned ⟨base, contenders, hbase, heligible, hmisses⟩
    have hdecided := decideOutcome_eligible input voteState badges (fun hnone => by
      obtain ⟨-, -, -, first, hfirst, -⟩ := hmisses
      exact absurd (hfirst.symm.trans (earliest_none input voteState badges hnone)) (by simp)) hbase heligible
    refine (decideContenders_mem_iff (eligible_ne_nil heligible)).1 (fun winner hwinner => ?_) hmisses
    have hmem := (hearned winner base ((congrArg VoteDecision.winner hdecided).trans hwinner) hbase).1
    rwa [show (countVotes input voteState badges none).contenders = _ from
      congrArg VoteDecision.contenders hdecided, decideContenders_contenders] at hmem
  · intro hhits winner base hwinner hbase
    have hwinner : (decideOutcome (voteDecision input voteState badges none)).winner = some winner := hwinner
    have hbase : (voteDecision input voteState badges none).majority = some base := hbase
    have htop : ¬ ((voteDecision input voteState badges none).topContenders.isEmpty ||
        (!(voteDecision input voteState badges none).forceTopContenders &&
          Float64.le (voteDecision input voteState badges none).maxTally Float64.zero)) := by
      intro hnone
      unfold decideOutcome at hwinner
      rw [if_pos hnone] at hwinner
      cases hwinner
    cases heligible : eligibleContenders (voteDecision input voteState badges none) base with
    | none =>
      unfold decideOutcome at hwinner
      rw [if_neg htop, show (voteDecision input voteState badges none).forceTopContenders = false from rfl,
        if_neg (by simp), hbase] at hwinner
      dsimp only at hwinner
      rw [heligible] at hwinner
      cases hwinner
    | some contenders =>
      have hdecided := decideOutcome_eligible input voteState badges htop hbase heligible
      have hmem := (decideContenders_mem_iff (eligible_ne_nil heligible)).2
        (fun hmisses => hhits ⟨base, contenders, hbase, heligible, hmisses⟩) winner
        ((congrArg VoteDecision.winner hdecided).symm.trans hwinner)
      refine ⟨?_, eligible_earned heligible hmem⟩
      rw [show (countVotes input voteState badges none).contenders = _ from
        congrArg VoteDecision.contenders hdecided, decideContenders_contenders]
      exact hmem

/-! ## A winner below its threshold -/

/-- Two of three slots have a role whose threshold is one lower, and each slot votes for the next but one
that has not voted. -/
def hatedDay : ResolutionInput Rat :=
  let plain := villagePack []
  let pack : Pack Rat :=
    { plain with
      roles := plain.roles.insert "hated" { alignment := some "town" }
      vote :=
        { plain.vote with
          thresholdAdjustments := (∅ : BTreeMap RoleKey Rat).insert "hated" (-1)
          tieBreaker := .earliestReached } }
  let ballot (turn : Nat) (actor target : SlotId) : Submission :=
    { actionId := actor, actor, templateId := "day_vote", targets := [target], phaseId := .first .day
      submittedAt := turn }
  village ⟨pack, [], .of_plain (by decide) rfl rfl⟩
    { phaseId := .first .day
      slots := [{ townie "a" with roleKey := "hated" }, { townie "b" with roleKey := "hated" }, townie "c"] }
    [ballot 0 "a" "c", ballot 1 "b" "a", ballot 2 "c" "b"]

/-- The third slot was the first to have one vote, and is lynched with it, though it needs two. -/
theorem hatedDay_unearned : ∃ outcome,
    InnerEvent.dayVoteOutcome outcome ∈ (resolveDay hatedDay).events ∧ outcome.winner = some "c" ∧
      outcome.contenders = ["a", "b"] ∧ outcome.tallies["c"]? = some 1 ∧
      outcome.thresholds["c"]? = some 2 ∧ ¬ WinnerEarned outcome := by
  have hfound : ((resolveDay hatedDay).events.filterMap fun
      | .dayVoteOutcome outcome => some outcome
      | _ => none).map (fun outcome => (outcome.winner, outcome.majority, outcome.contenders,
        outcome.tallies["c"]?, outcome.thresholds["c"]?)) =
      [(some "c", some 2, ["a", "b"], some 1, some 2)] := by
    decide +kernel
  obtain ⟨outcome, hoffered, hread⟩ := List.mem_map.1 (hfound ▸ List.mem_singleton.2 rfl)
  obtain ⟨event, hevent, hkind⟩ := List.mem_filterMap.1 hoffered
  simp only [Prod.mk.injEq] at hread
  obtain ⟨hwinner, hmajority, hcontenders, htally, hthreshold⟩ := hread
  refine ⟨outcome, ?_, hwinner, hcontenders, htally, hthreshold, fun hearned => ?_⟩
  · cases event with
    | dayVoteOutcome found =>
      obtain rfl := Option.some.inj hkind
      exact hevent
    | _ => cases hkind
  · have hmem := (hearned "c" 2 hwinner hmajority).1
    rw [hcontenders] at hmem
    exact absurd hmem (by decide)

end Fmarch.Resolver
