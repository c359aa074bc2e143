import Fmarch.Resolver.VoteRuns
import Mathlib.Data.List.Induction

/-!
# Which ballots a day counts

Until its hammer falls, the count goes through the day's ballots in order and lets each stand in the
place of its voter's last one, if its target may be voted for; withdrawing takes the voter's ballot back.

**`countVotes_getElem?`**: a living voter's counted ballot is the last it cast since it last withdrew
among those whose targets may be voted for at the count, and a duel lets it stand only if it is for one of
the two.
-/

namespace Fmarch.Resolver

open Fmarch.Domain Keyed StableSort

variable {F : Type} [Float64 F]

/-- The targets of the ballots a voter cast since it last withdrew, oldest first. -/
def ballotsSince (voter : SlotId) (subs : List Submission) : List SlotId :=
  (((subs.reverse.filter (·.actor == voter)).takeWhile (!·.withdrawn)).reverse.filterMap (·.targets.head?))

theorem ballotsSince_concat (voter : SlotId) (subs : List Submission) (sub : Submission) :
    ballotsSince voter (subs ++ [sub]) = if sub.actor = voter then
        if sub.withdrawn then [] else ballotsSince voter subs ++ sub.targets.head?.toList
      else ballotsSince voter subs := by
  unfold ballotsSince
  rw [List.reverse_append, List.reverse_singleton, List.singleton_append]
  by_cases hactor : sub.actor = voter
  · rw [List.filter_cons_of_pos (by simpa using hactor), if_pos hactor]
    cases hwithdrawn : sub.withdrawn with
    | true =>
      rw [List.takeWhile_cons_of_neg (by simp [hwithdrawn])]
      rfl
    | false =>
      rw [List.takeWhile_cons_of_pos (by simp [hwithdrawn]), List.reverse_cons, List.filterMap_append]
      cases hhead : sub.targets.head? <;> simp [hhead]
  · rw [List.filter_cons_of_neg (by simpa using hactor), if_neg hactor]

/-! ## The count without its hammer -/

/-- One ballot, where no hammer falls. -/
def castPlain (rules : VoteRules F) (votes : BTreeMap SlotId SlotId) (sub : Submission) :
    BTreeMap SlotId SlotId :=
  if sub.withdrawn then votes.erase sub.actor
  else
    match sub.targets.head? with
    | none => votes
    | some target =>
      if rules.weights.contains sub.actor && rules.valid.contains target then
        votes.insert sub.actor target
      else votes

theorem castBallot_plain {rules : VoteRules F} {votes : BTreeMap SlotId SlotId} {sub : Submission}
    (h : (castBallot rules votes sub).2 = false) :
    (castBallot rules votes sub).1 = castPlain rules votes sub := by
  unfold castBallot castPlain at *
  cases hwithdrawn : sub.withdrawn with
  | true => simp
  | false =>
    simp only [hwithdrawn, Bool.false_eq_true, if_false] at h ⊢
    cases hweighed : rules.weights.contains sub.actor with
    | false => cases sub.targets <;> simp
    | true =>
      cases htargets : sub.targets with
      | nil => simp
      | cons target targets =>
        simp only [hweighed, htargets, Bool.not_true, Bool.false_eq_true, if_false, Bool.true_and,
          List.head?_cons] at h ⊢
        cases hvalid : rules.valid.contains target with
        | false => simp
        | true =>
          simp only [hvalid, Bool.not_true, Bool.false_eq_true, if_false, if_true] at h ⊢
          cases hhammer : rules.policy.hammer with
          | false => simp
          | true =>
            simp only [hhammer, Bool.not_true, Bool.false_eq_true, if_false] at h ⊢
            cases hfell : hammerVotes rules (votes.insert sub.actor target) target with
            | none => simp
            | some counted => simp [hfell] at h

theorem castBallots_plain {rules : VoteRules F} {subs : List Submission}
    {votes : BTreeMap SlotId SlotId} {history : List (BTreeMap SlotId F)}
    (h : (castBallots rules subs votes history).2.2 = false) :
    (castBallots rules subs votes history).1 = subs.foldl (castPlain rules) votes := by
  induction subs generalizing votes history with
  | nil => rfl
  | cons sub subs ih =>
    unfold castBallots at h ⊢
    dsimp only at h ⊢
    cases hhammered : (castBallot rules votes sub).2 with
    | true => simp [hhammered] at h
    | false =>
      simp only [hhammered, Bool.false_eq_true, if_false] at h ⊢
      rw [ih h, castBallot_plain hhammered, List.foldl_cons]

/-- The ballot that stands for a voter after some submissions. -/
theorem plain_getElem? (rules : VoteRules F) (voter : SlotId) (subs : List Submission) :
    (subs.foldl (castPlain rules) ∅)[voter]? = if rules.weights.contains voter then
        ((ballotsSince voter subs).filter (rules.valid.contains ·)).getLast?
      else none := by
  induction subs using List.reverseRecOn with
  | nil => simp [ballotsSince]
  | append_singleton subs sub ih =>
    rw [List.foldl_append, List.foldl_cons, List.foldl_nil, ballotsSince_concat]
    generalize subs.foldl (castPlain rules) ∅ = votes at ih
    have hkey : compare sub.actor voter = .eq ↔ sub.actor = voter := Std.LawfulEqOrd.compare_eq_iff_eq
    unfold castPlain
    by_cases hactor : sub.actor = voter
    · subst hactor
      rw [if_pos rfl]
      cases hwithdrawn : sub.withdrawn with
      | true => simp
      | false =>
        simp only [Bool.false_eq_true, if_false]
        cases hhead : sub.targets.head? with
        | none => simpa using ih
        | some target =>
          cases hweighed : rules.weights.contains sub.actor with
          | false => simpa [hweighed] using ih
          | true =>
            by_cases hvalid : target ∈ rules.valid
            · simp [hvalid]
            · simpa [hweighed, hvalid] using ih
    · rw [if_neg hactor]
      have hne : ¬ compare sub.actor voter = .eq := fun h => hactor (hkey.1 h)
      cases hwithdrawn : sub.withdrawn with
      | true =>
        simp only [if_true]
        rw [Std.TreeMap.getElem?_erase, if_neg hne]
        exact ih
      | false =>
        simp only [Bool.false_eq_true, if_false]
        cases hhead : sub.targets.head? with
        | none => exact ih
        | some target =>
          dsimp only
          split
          · rw [Std.TreeMap.getElem?_insert, if_neg hne]
            exact ih
          · exact ih

/-! ## What is counted -/

/-- The target may be voted for. -/
def Votable (policy : VotePolicy F) (state : StateSnapshot F) (target : SlotId) : Prop :=
  (policy.noLynchAllowed = true ∧ target = noLynchTarget) ∨ Living state target

variable {badges : List (BadgeRecord F)} {voteState : StateSnapshot F}

theorem voteWeights_contains {pack : Pack F} {slotId : SlotId} :
    (voteWeights pack voteState badges).contains slotId = true ↔ Living voteState slotId := by
  refine ⟨living_of_voteWeights, ?_⟩
  rintro ⟨slot, hslot, rfl, halive⟩
  unfold voteWeights
  dsimp only
  rw [Std.TreeMap.contains_insertMany_list]
  simp only [Std.TreeMap.contains_emptyc, Bool.false_or, List.contains_iff_mem, List.mem_map]
  exact ⟨_, ⟨slot, List.mem_filter.2 ⟨hslot, halive⟩, rfl⟩, rfl⟩

theorem valid_contains {input : ResolutionInput F} {duel : VoteDuel} {target : SlotId} :
    (voteRules input voteState badges duel).valid.contains target = true ↔
      Votable input.pack.document.vote voteState target := by
  have hliving : target ∈ (voteState.slots.filter (·.isAlive)).map (·.slotId) ↔ Living voteState target := by
    simp only [List.mem_map, List.mem_filter, Living]
    constructor
    · rintro ⟨slot, ⟨hslot, halive⟩, hid⟩
      exact ⟨slot, hslot, hid, halive⟩
    · rintro ⟨slot, hslot, hid, halive⟩
      exact ⟨slot, ⟨hslot, halive⟩, hid⟩
  unfold voteRules Votable
  dsimp only
  rw [List.contains_iff_mem]
  split
  · rename_i hallowed
    rw [List.mem_cons, hliving]
    simp [hallowed]
  · rename_i hforbidden
    rw [hliving]
    simp [hforbidden]

/-- The hammer fell in the count. -/
def hammered (input : ResolutionInput F) (voteState : StateSnapshot F)
    (badges : List (BadgeRecord F)) (duel : VoteDuel) : Bool :=
  (castBallots (voteRules input voteState badges duel) (dayVotes input) ∅ []).2.2

/-- The ballots cast since the last withdrawal that may be counted. -/
def countable (input : ResolutionInput F) (voteState : StateSnapshot F)
    (badges : List (BadgeRecord F)) (duel : VoteDuel) (voter : SlotId) : List SlotId :=
  (ballotsSince voter (dayVotes input)).filter
    ((voteRules input voteState badges duel).valid.contains ·)

/-- **The ballot counted for a voter.** -/
theorem countVotes_getElem? {input : ResolutionInput F} {duel : VoteDuel}
    (h : hammered input voteState badges duel = false) (voter target : SlotId) :
    (countVotes input voteState badges duel).votes[voter]? = some target ↔ Living voteState voter ∧
        (countable input voteState badges duel voter).getLast? = some target ∧
        duelAllows duel target = true := by
  have hvotes : (countVotes input voteState badges duel).votes =
      retainDuel duel ((dayVotes input).foldl (castPlain (voteRules input voteState badges duel)) ∅) := by
    unfold hammered at h
    unfold countVotes
    dsimp only
    rw [h, castBallots_plain h]
    rfl
  rw [hvotes, retainDuel, Std.TreeMap.getElem?_filter', plain_getElem?]
  have hweighed : (voteRules input voteState badges duel).weights.contains voter = true ↔
      Living voteState voter := voteWeights_contains
  by_cases hliving : Living voteState voter
  · rw [if_pos (hweighed.2 hliving), Option.filter_eq_some_iff]
    exact ⟨fun hfound => ⟨hliving, hfound⟩, fun hfound => hfound.2⟩
  · rw [if_neg fun hweight => hliving (hweighed.1 hweight)]
    simp [hliving]

end Fmarch.Resolver
