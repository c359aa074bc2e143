import Fmarch.Lib.Grouping
import Fmarch.Resolver.Shape

/-!
# The vote on a faction action

Submissions of a coordinated faction action are votes for its target. `apply_faction_action_coordination`
groups them by their first target, lets the earliest submission for a leading target stand, and suppresses
the others; on a tie it suppresses all, if the pack says so. The validator admits no other maximum than one
submission, and no action coordinated twice.

**`coordination_plurality`**: of every coordinated action at most as many submissions are left as the pack
allows, all of them if they are not more, one for a leading target if the vote is not tied; and nothing else
is changed.
-/

namespace Fmarch.Resolver

open Fmarch.Domain Grouping Keyed StableSort

variable {F : Type} [Float64 F]

/-- What `validate_faction_action_policy` requires of the coordinated actions. -/
structure FactionActionsAccepted (policy : FactionActionPolicy) : Prop where
  disabled : policy.enabled = false → policy.actions = []
  ids : (policy.actions.map (·.actionId)).Nodup
  single : ∀ spec ∈ policy.actions, spec.maxResolvedSubmissions = 1

/-! ## The vote -/

/-- The target a submission votes for. -/
def voteTarget (candidate : Nat × Action F) : Option SlotId := candidate.2.targets.head?

/-- How many of the candidates vote for a target. -/
def votesFor (candidates : List (Nat × Action F)) (target : SlotId) : Nat :=
  candidates.countP (voteTarget · = some target)

/-- No target has more votes. -/
def Leads (candidates : List (Nat × Action F)) (target : SlotId) : Prop :=
  0 < votesFor candidates target ∧ ∀ other, votesFor candidates other ≤ votesFor candidates target

/-- Two targets lead. -/
def VoteTied (candidates : List (Nat × Action F)) : Prop :=
  ∃ first second, first ≠ second ∧ Leads candidates first ∧ Leads candidates second

/-- What coordination makes of the candidates of one action. -/
structure PluralityKept (limit : Nat) (candidates kept : List (Nat × Action F)) : Prop where
  within : kept.length ≤ limit
  exact : ¬ VoteTied candidates → kept.length = min candidates.length limit
  leading : ∀ candidate ∈ kept, candidate ∈ candidates ∧
    ∃ target, voteTarget candidate = some target ∧ Leads candidates target

section Votes

variable {candidates : List (Nat × Action F)} {target : SlotId} {voters : List (Nat × Action F)}

omit [Float64 F] in
theorem factionVotes_eq (candidates : List (Nat × Action F)) :
    factionVotes candidates = collect voteTarget candidates := by
  unfold factionVotes collect voteTarget
  congr 1
  funext votes candidate
  cases candidate.2.targets <;> rfl

omit [Float64 F] in
theorem votesFor_eq (candidates : List (Nat × Action F)) (target : SlotId) :
    votesFor candidates target = (candidates.filter (voteTarget · = some target)).length :=
  List.countP_eq_length_filter

theorem foldlMax_le_iff {bound : Nat} {ns : List Nat} (start : Nat) :
    ns.foldl max start ≤ bound ↔ start ≤ bound ∧ ∀ n ∈ ns, n ≤ bound := by
  induction ns generalizing start with
  | nil => simp
  | cons n ns ih =>
    rw [List.foldl_cons, ih, max_le_iff, and_assoc]
    simp

theorem mem_le_foldlMax {n : Nat} {ns : List Nat} (start : Nat) (h : n ∈ ns) : n ≤ ns.foldl max start :=
  ((foldlMax_le_iff start).1 (Nat.le_refl _)).2 n h

/-- The largest group sizes. -/
def maxVotes (candidates : List (Nat × Action F)) : Nat :=
  ((factionVotes candidates).values.map List.length).foldl max 0

section

omit [Float64 F]

theorem mem_factionVotes_values : voters ∈ (factionVotes candidates).values ↔
    ∃ target, voters = candidates.filter (voteTarget · = some target) ∧ voters ≠ [] := by
  rw [factionVotes_eq]
  exact mem_values_collect

theorem votesFor_le_maxVotes (candidates : List (Nat × Action F)) (target : SlotId) : votesFor candidates target ≤ maxVotes candidates := by
  rw [votesFor_eq]
  by_cases hempty : candidates.filter (voteTarget · = some target) = []
  · rw [hempty]
    exact Nat.zero_le _
  · exact mem_le_foldlMax 0
      (List.mem_map.2 ⟨_, mem_factionVotes_values.2 ⟨target, rfl, hempty⟩, rfl⟩)

/-- The groups of the largest size are those of the leading targets. -/
theorem mem_tied_iff : (target, voters) ∈ (factionVotes candidates).toList.filter
      (fun entry => entry.2.length == maxVotes candidates) ↔
    voters = candidates.filter (voteTarget · = some target) ∧ Leads candidates target := by
  rw [List.mem_filter, factionVotes_eq, mem_toList_collect]
  constructor
  · rintro ⟨⟨rfl, hne⟩, hsize⟩
    have hvotes : votesFor candidates target = maxVotes candidates :=
      (votesFor_eq candidates target).trans (eq_of_beq hsize)
    refine ⟨rfl, ?_, fun other => hvotes ▸ votesFor_le_maxVotes candidates other⟩
    rw [votesFor_eq]
    exact List.length_pos_of_ne_nil hne
  · rintro ⟨rfl, hpos, hleads⟩
    refine ⟨⟨rfl, ?_⟩, beq_iff_eq.2 (Nat.le_antisymm ?_ ?_)⟩
    · rw [votesFor_eq] at hpos
      exact List.ne_nil_of_length_pos hpos
    · exact votesFor_eq candidates target ▸ votesFor_le_maxVotes candidates target
    · refine (foldlMax_le_iff 0).2 ⟨Nat.zero_le _, fun n hn => ?_⟩
      obtain ⟨others, hothers, rfl⟩ := List.mem_map.1 hn
      obtain ⟨other, rfl, -⟩ := mem_factionVotes_values.1 hothers
      have hother := hleads other
      rwa [votesFor_eq, votesFor_eq] at hother

/-- Where somebody votes, some target leads. -/
theorem exists_leads (h : ∃ candidate ∈ candidates, (voteTarget candidate).isSome = true) :
    ∃ target, Leads candidates target := by
  obtain ⟨candidate, hcandidate, hvotes⟩ := h
  obtain ⟨voted, hvoted⟩ := Option.isSome_iff_exists.1 hvotes
  have hpos : 0 < votesFor candidates voted :=
    List.countP_pos_iff.2 ⟨candidate, hcandidate, by simp [hvoted]⟩
  by_contra hnone
  -- No target has the largest number of votes, so all have fewer.
  have hfewer : ∀ target, votesFor candidates target ≤ maxVotes candidates - 1 := by
    intro target
    have hle := votesFor_le_maxVotes candidates target
    by_contra hmore
    refine hnone ⟨target, by omega, fun other => ?_⟩
    have hother := votesFor_le_maxVotes candidates other
    omega
  have hmax : maxVotes candidates ≤ maxVotes candidates - 1 := by
    refine (foldlMax_le_iff 0).2 ⟨Nat.zero_le _, fun n hn => ?_⟩
    obtain ⟨others, hothers, rfl⟩ := List.mem_map.1 hn
    obtain ⟨other, rfl, -⟩ := mem_factionVotes_values.1 hothers
    rw [← votesFor_eq]
    exact hfewer other
  have hle := votesFor_le_maxVotes candidates voted
  omega

end

end Votes

section Coordination

variable {input : ResolutionInput F} {spec other : FactionActionSpec} {actions : List (Action F)}

/-! ## Suppressing candidates -/

/-- The listed actions are suppressed. -/
def suppressAll (losers : List (Nat × Action F)) (actions : List (Action F)) : List (Action F) :=
  losers.foldl (fun actions (index, _) => setBlocked actions index) actions

omit [Float64 F] in
theorem interfereAll_actions (reason : String) (losers : List (Nat × Action F))
    (state : List (Action F) × List (InnerEvent F)) :
    (interfereAll reason losers state).1 = suppressAll losers state.1 := by
  induction losers generalizing state with
  | nil => rfl
  | cons loser losers ih => exact ih _

/-- The action votes on the coordinated action. -/
def isCandidate (input : ResolutionInput F) (spec : FactionActionSpec) (action : Action F) : Bool :=
  !action.blocked && action.template.id == spec.actionId && !action.targets.isEmpty &&
    match input.state.slot? action.sub.actor with
    | some slot => slot.alignment == some spec.alignment
    | none => false

theorem factionCandidates_eq (input : ResolutionInput F) (spec : FactionActionSpec)
    (actions : List (Action F)) : factionCandidates input spec actions =
      (actions.zipIdx.map fun entry => (entry.2, entry.1)).filter fun candidate =>
        isCandidate input spec candidate.2 :=
  rfl

variable {candidate : Nat × Action F} {losers : List (Nat × Action F)}

theorem mem_factionCandidates : candidate ∈ factionCandidates input spec actions ↔
      actions[candidate.1]? = some candidate.2 ∧ isCandidate input spec candidate.2 = true := by
  rw [factionCandidates_eq, List.mem_filter]
  refine and_congr_left fun _ => ?_
  rw [List.mem_map]
  constructor
  · rintro ⟨entry, hentry, rfl⟩
    exact List.mem_zipIdx_iff_getElem?.1 hentry
  · exact fun h => ⟨(candidate.2, candidate.1), List.mem_zipIdx_iff_getElem?.2 h, rfl⟩

theorem factionCandidates_nodup (input : ResolutionInput F) (spec : FactionActionSpec)
    (actions : List (Action F)) :
    ((factionCandidates input spec actions).map (·.1)).Nodup := by
  rw [factionCandidates_eq]
  refine map_filter_nodup _ _ ?_
  rw [List.map_map]
  have hindices : actions.zipIdx.map Prod.snd = List.range' 0 actions.length := List.zipIdx_map_snd 0 actions
  exact (congrArg List.Nodup hindices).mpr (List.nodup_range' ..)

theorem candidate_votes (h : candidate ∈ factionCandidates input spec actions) :
    (voteTarget candidate).isSome = true := by
  have hcandidate := (mem_factionCandidates.1 h).2
  unfold isCandidate at hcandidate
  unfold voteTarget
  cases htargets : candidate.2.targets with
  | nil => simp [htargets] at hcandidate
  | cons target targets => rfl

theorem factionCandidates_suppressAll (losers : List (Nat × Action F)) :
    factionCandidates input spec (suppressAll losers actions) =
      (factionCandidates input spec actions).filter (·.1 ∉ losers.map (·.1)) := by
  let suppressed : Nat × Action F → Nat × Action F := fun candidate =>
    (candidate.1, if candidate.1 ∈ losers.map (·.1) then { candidate.2 with blocked := true }
      else candidate.2)
  have hactions : (suppressAll losers actions).zipIdx.map (fun entry => (entry.2, entry.1)) =
      (actions.zipIdx.map fun entry => (entry.2, entry.1)).map suppressed := by
    refine List.ext_getElem? fun index => ?_
    have hindex := getElem?_setBlockedAll losers actions index
    simp only [List.getElem?_map, List.getElem?_zipIdx, suppressAll, hindex, Option.map_map]
    cases actions[index]? <;> simp [suppressed]
  rw [factionCandidates_eq, factionCandidates_eq, hactions, List.filter_map, List.filter_filter]
  have hkept : ∀ candidate : Nat × Action F, isCandidate input spec (suppressed candidate).2 =
        (decide (candidate.1 ∉ losers.map (·.1)) && isCandidate input spec candidate.2) := by
    intro candidate
    by_cases hloser : candidate.1 ∈ losers.map (·.1)
    · simp [suppressed, hloser, isCandidate]
    · simp [suppressed, hloser]
  have hfilter : ∀ candidates : List (Nat × Action F),
      candidates.filter ((fun candidate => isCandidate input spec candidate.2) ∘ suppressed) =
        candidates.filter fun candidate =>
          decide (candidate.1 ∉ losers.map (·.1)) && isCandidate input spec candidate.2 :=
    fun candidates => List.filter_congr fun candidate _ => hkept candidate
  rw [hfilter]
  refine (List.map_congr_left fun candidate hcandidate => ?_).trans (List.map_id _)
  have hstands := of_decide_eq_true (Bool.and_eq_true_iff.1 (List.mem_filter.1 hcandidate).2).1
  exact Prod.ext rfl (if_neg hstands)

/-- Coordinating one action leaves the candidates of another alone. -/
theorem factionCandidates_other (hne : spec.actionId ≠ other.actionId)
    (hlosers : ∀ loser ∈ losers, loser ∈ factionCandidates input spec actions) :
    factionCandidates input other (suppressAll losers actions) = factionCandidates input other actions := by
  rw [factionCandidates_suppressAll]
  refine List.filter_eq_self.2 fun candidate hcandidate => decide_eq_true fun hloser => hne ?_
  obtain ⟨loser, hmem, hindex⟩ := List.mem_map.1 hloser
  obtain ⟨hfound, hspec⟩ := mem_factionCandidates.1 (hlosers loser hmem)
  obtain ⟨hfound', hother⟩ := mem_factionCandidates.1 hcandidate
  rw [hindex, hfound'] at hfound
  rw [← Option.some.inj hfound] at hspec
  unfold isCandidate at hspec hother
  simp only [Bool.and_eq_true, beq_iff_eq] at hspec hother
  exact hspec.1.1.2.symm.trans hother.1.1.2

/-! ## One action -/

/-- What one coordination suppresses: nobody while the limit is kept, everybody on a tie that blocks, and
otherwise everybody but one submission for a leading target. -/
inductive Outvoted (limit : Nat) (candidates : List (Nat × Action F)) :
    List (Nat × Action F) → Prop where
  | nobody (within : candidates.length ≤ limit) : Outvoted limit candidates []
  | everybody (more : limit < candidates.length) (tied : VoteTied candidates)
      {losers : List (Nat × Action F)} (all : ∀ candidate, candidate ∈ losers ↔ candidate ∈ candidates) :
      Outvoted limit candidates losers
  | others (more : limit < candidates.length) (selected : Nat × Action F)
      (candidate : selected ∈ candidates) (target : SlotId) (votes : voteTarget selected = some target)
      (leads : Leads candidates target) {losers : List (Nat × Action F)}
      (all : ∀ candidate, candidate ∈ losers ↔ candidate ∈ candidates ∧ candidate.1 ≠ selected.1) :
      Outvoted limit candidates losers

theorem mem_factionVotes_flatten :
    candidate ∈ (factionVotes (factionCandidates input spec actions)).values.flatten ↔
      candidate ∈ factionCandidates input spec actions := by
  rw [factionVotes_eq, mem_flatten_collect]
  exact and_iff_left_of_imp candidate_votes

theorem coordinateFactionAction_outvoted (input : ResolutionInput F) (spec : FactionActionSpec)
    (state : List (Action F) × List (InnerEvent F)) :
    ∃ losers, (coordinateFactionAction input state spec).1 = suppressAll losers state.1 ∧
      Outvoted spec.maxResolvedSubmissions (factionCandidates input spec state.1) losers := by
  unfold coordinateFactionAction
  dsimp only
  split
  · exact ⟨[], rfl, .nobody (by assumption)⟩
  · rename_i hmore
    have hmany : spec.maxResolvedSubmissions < (factionCandidates input spec state.1).length :=
      not_le.1 hmore
    have hmax : ((factionVotes (factionCandidates input spec state.1)).values.map List.length).foldl max 0 =
      maxVotes (factionCandidates input spec state.1) := rfl
    rw [hmax]
    generalize htied : (factionVotes (factionCandidates input spec state.1)).toList.filter
      (fun entry => entry.2.length == maxVotes (factionCandidates input spec state.1)) = tied
    split
    · rename_i hblock
      refine ⟨_, interfereAll_actions _ _ _, .everybody hmany ?_ fun candidate => mem_factionVotes_flatten⟩
      match tied, htied, hblock.1 with
      | first :: second :: rest, htied, _ =>
        have hkeys : ((first :: second :: rest).map (·.1)).Nodup := by
          rw [← htied]
          refine map_filter_nodup _ _ ?_
          rw [Std.TreeMap.map_fst_toList_eq_keys]
          exact Std.TreeMap.nodup_keys
        have hleads : ∀ entry ∈ first :: second :: rest,
            Leads (factionCandidates input spec state.1) entry.1 := by
          intro entry hentry
          rw [← htied] at hentry
          exact (mem_tied_iff.1 hentry).2
        refine ⟨first.1, second.1, ?_, hleads first (by simp), hleads second (by simp)⟩
        intro hsame
        simp [hsame] at hkeys
    · split
      · rename_i hnone
        -- Somebody votes, so some target leads.
        exfalso
        have hvoters := minIndexBy_none.1 hnone
        obtain ⟨candidate, hcandidate⟩ := List.exists_mem_of_length_pos (Nat.zero_lt_of_lt hmany)
        obtain ⟨target, hleads⟩ := exists_leads ⟨candidate, hcandidate, candidate_votes hcandidate⟩
        have hentry := mem_tied_iff.2 ⟨rfl, hleads⟩
        rw [htied] at hentry
        obtain ⟨voter, hvoter, hvotes⟩ := List.countP_pos_iff.1 hleads.1
        have hmem := hvoters voter (List.mem_flatMap.2 ⟨_, hentry, List.mem_filter.2 ⟨hvoter, hvotes⟩⟩)
        cases hmem
      · rename_i index selected hselected
        obtain ⟨hget, -⟩ := minIndexBy_some hselected
        obtain ⟨⟨target, voters⟩, hentry, hvoter⟩ := List.mem_flatMap.1 (List.mem_of_getElem? hget)
        rw [← htied] at hentry
        obtain ⟨rfl, hleads⟩ := mem_tied_iff.1 hentry
        obtain ⟨hmem, hvotes⟩ := List.mem_filter.1 hvoter
        refine ⟨_, interfereAll_actions _ _ _, .others hmany selected hmem target
          (of_decide_eq_true hvotes) hleads fun candidate => ?_⟩
        rw [List.mem_filter, mem_factionVotes_flatten]
        simp

/-- What coordination leaves of the candidates of its own action. -/
theorem Outvoted.kept (h : Outvoted spec.maxResolvedSubmissions (factionCandidates input spec actions) losers)
    (single : spec.maxResolvedSubmissions = 1) :
    PluralityKept spec.maxResolvedSubmissions (factionCandidates input spec actions)
      (factionCandidates input spec (suppressAll losers actions)) := by
  rw [factionCandidates_suppressAll]
  have hindex : ∀ candidate ∈ factionCandidates input spec actions, ∀ other ∈ factionCandidates input spec
      actions, candidate.1 = other.1 → candidate = other := fun candidate hcandidate other hother hsame =>
    List.inj_on_of_nodup_map (factionCandidates_nodup input spec actions) hcandidate hother hsame
  cases h with
  | nobody within =>
    have hall : (factionCandidates input spec actions).filter
        (·.1 ∉ ([] : List (Nat × Action F)).map (·.1)) = factionCandidates input spec actions :=
      List.filter_eq_self.2 fun candidate _ => by simp
    rw [hall]
    refine ⟨within, fun _ => (Nat.min_eq_left within).symm, fun candidate hcandidate => ⟨hcandidate, ?_⟩⟩
    -- The only candidate leads.
    obtain ⟨target, hleads⟩ := exists_leads ⟨candidate, hcandidate, candidate_votes hcandidate⟩
    obtain ⟨voter, hvoter, hvotes⟩ := List.countP_pos_iff.1 hleads.1
    obtain ⟨only, honly⟩ := List.length_eq_one_iff.1 (Nat.le_antisymm (single ▸ within)
      (List.length_pos_of_mem hcandidate))
    rw [honly, List.mem_singleton] at hcandidate hvoter
    rw [hvoter, ← hcandidate] at hvotes
    exact ⟨target, of_decide_eq_true hvotes, hleads⟩
  | everybody more tied all =>
    have hnone : (factionCandidates input spec actions).filter (·.1 ∉ losers.map (·.1)) = [] := by
      refine List.filter_eq_nil_iff.2 fun candidate hcandidate hstands => ?_
      exact of_decide_eq_true hstands (List.mem_map_of_mem ((all candidate).2 hcandidate))
    rw [hnone]
    exact ⟨Nat.zero_le _, fun hfree => absurd tied hfree, fun _ hmem => absurd hmem List.not_mem_nil⟩
  | others more selected hselected target votes leads all =>
    have hone : (factionCandidates input spec actions).filter (·.1 ∉ losers.map (·.1)) = [selected] := by
      obtain ⟨before, after, hsplit⟩ := List.append_of_mem hselected
      have hnodup := factionCandidates_nodup input spec actions
      rw [hsplit] at hnodup
      have honly := filter_key_of_nodup (fun candidate : Nat × Action F => candidate.1) hnodup
      rw [← hsplit] at honly
      rw [← honly]
      refine List.filter_congr fun candidate hcandidate => decide_eq_decide.2 ⟨fun hstands => ?_, ?_⟩
      · by_contra hne
        exact hstands (List.mem_map_of_mem ((all candidate).2 ⟨hcandidate, hne⟩))
      · rintro hsame hloser
        obtain ⟨loser, hmem, hindices⟩ := List.mem_map.1 hloser
        exact ((all loser).1 hmem).2 (hindices.trans hsame)
    rw [hone, single]
    refine ⟨Nat.le_refl 1, fun _ => ?_, fun candidate hcandidate => ?_⟩
    · rw [Nat.min_eq_right (single ▸ more.le)]
      rfl
    · rw [List.mem_singleton.1 hcandidate]
      exact ⟨hselected, target, votes, leads⟩

omit [Float64 F] in
theorem Outvoted.loser_mem {limit : Nat} {candidates : List (Nat × Action F)}
    (h : Outvoted limit candidates losers) : ∀ loser ∈ losers, loser ∈ candidates := by
  cases h with
  | nobody within => exact fun _ hmem => absurd hmem List.not_mem_nil
  | everybody more tied all => exact fun loser hloser => (all loser).1 hloser
  | others more selected candidate target votes leads all =>
    exact fun loser hloser => ((all loser).1 hloser).1

/-! ## All coordinated actions -/

/-- The action at an index is as before, or is a submission of one of the actions that was suppressed. -/
def SparesOthers (input : ResolutionInput F) (specs : List FactionActionSpec)
    (before after : List (Action F)) : Prop :=
  ∀ index : Nat, after[index]? = before[index]? ∨
    ∃ action, before[index]? = some action ∧ (∃ spec ∈ specs, isCandidate input spec action = true) ∧
      after[index]? = some { action with blocked := true }

theorem SparesOthers.suppressAll (hlosers : ∀ loser ∈ losers, loser ∈ factionCandidates input spec actions) :
    SparesOthers input [spec] actions (suppressAll losers actions) := by
  intro index
  have hindex := getElem?_setBlockedAll losers actions index
  by_cases hloser : index ∈ losers.map (·.1)
  · obtain ⟨loser, hmem, rfl⟩ := List.mem_map.1 hloser
    obtain ⟨hfound, hcandidate⟩ := mem_factionCandidates.1 (hlosers loser hmem)
    refine Or.inr ⟨loser.2, hfound, ⟨spec, List.mem_singleton_self spec, hcandidate⟩, ?_⟩
    unfold Resolver.suppressAll
    rw [hindex, hfound]
    simp only [Option.map_some, hloser, if_true]
  · refine Or.inl ?_
    unfold Resolver.suppressAll
    rw [hindex]
    cases actions[index]? <;> simp [hloser]

/-- A suppressed action is no candidate any more, so it is suppressed by one coordination only. -/
theorem SparesOthers.cons {specs : List FactionActionSpec} {between after : List (Action F)}
    (h : SparesOthers input [spec] actions between) (hrest : SparesOthers input specs between after) :
    SparesOthers input (spec :: specs) actions after := by
  intro index
  rcases hrest index with hsame | ⟨action, hfound, ⟨later, hlater, hcandidate⟩, hblocked⟩
  · rw [hsame]
    rcases h index with hsame' | ⟨action, hfound, ⟨first, hfirst, hcandidate⟩, hblocked⟩
    · exact Or.inl hsame'
    · rw [List.mem_singleton.1 hfirst] at hcandidate
      exact Or.inr ⟨action, hfound, ⟨spec, List.mem_cons_self, hcandidate⟩, hblocked⟩
  · rcases h index with hsame | ⟨earlier, -, -, hblocked'⟩
    · exact Or.inr ⟨action, hsame ▸ hfound, ⟨later, List.mem_cons_of_mem _ hlater, hcandidate⟩, hblocked⟩
    · rw [hblocked'] at hfound
      rw [← Option.some.inj hfound] at hcandidate
      simp [isCandidate] at hcandidate

/-- The run over the actions: the vote on one touches the submissions of that one only. -/
theorem coordination_run (input : ResolutionInput F) (specs : List FactionActionSpec) (hids : (specs.map (·.actionId)).Nodup)
    (single : ∀ spec ∈ specs, spec.maxResolvedSubmissions = 1)
    (state : List (Action F) × List (InnerEvent F)) :
    (∀ spec ∈ specs, PluralityKept spec.maxResolvedSubmissions (factionCandidates input spec state.1)
      (factionCandidates input spec (specs.foldl (coordinateFactionAction input) state).1)) ∧
    (∀ other : FactionActionSpec, other.actionId ∉ specs.map (·.actionId) →
      factionCandidates input other (specs.foldl (coordinateFactionAction input) state).1 =
        factionCandidates input other state.1) ∧
    SparesOthers input specs state.1 (specs.foldl (coordinateFactionAction input) state).1 := by
  induction specs generalizing state with
  | nil =>
    exact ⟨nofun, fun _ _ => rfl, fun _ => Or.inl rfl⟩
  | cons spec specs ih =>
    rw [List.map_cons, List.nodup_cons] at hids
    obtain ⟨losers, hstep, houtvoted⟩ := coordinateFactionAction_outvoted input spec state
    obtain ⟨hrest, hothers, hspares⟩ := ih hids.2
      (fun later hlater => single later (List.mem_cons_of_mem _ hlater))
      (coordinateFactionAction input state spec)
    rw [hstep] at hrest hothers hspares
    rw [List.foldl_cons]
    refine ⟨fun voted hvoted => ?_, fun other hother => ?_, ?_⟩
    · rcases List.mem_cons.1 hvoted with rfl | hlater
      · rw [hothers voted hids.1]
        exact houtvoted.kept (single voted List.mem_cons_self)
      · have hne : spec.actionId ≠ voted.actionId := fun hsame =>
          hids.1 (hsame ▸ List.mem_map_of_mem hlater)
        have hkept := hrest voted hlater
        rwa [factionCandidates_other hne houtvoted.loser_mem] at hkept
    · rw [List.map_cons, List.mem_cons, not_or] at hother
      rw [hothers other hother.2,
        factionCandidates_other (fun hsame => hother.1 hsame.symm) houtvoted.loser_mem]
    · exact SparesOthers.cons (SparesOthers.suppressAll houtvoted.loser_mem) hspares

theorem coordination_plurality (input : ResolutionInput F)
    (accepted : FactionActionsAccepted input.pack.document.factionActions)
    (state : List (Action F) × List (InnerEvent F)) :
    (∀ spec ∈ input.pack.document.factionActions.actions,
      PluralityKept spec.maxResolvedSubmissions (factionCandidates input spec state.1)
        (factionCandidates input spec (applyFactionActionCoordination input state).1)) ∧
    SparesOthers input input.pack.document.factionActions.actions state.1
      (applyFactionActionCoordination input state).1 := by
  unfold applyFactionActionCoordination
  by_cases henabled : input.pack.document.factionActions.enabled = true
  · obtain ⟨hkept, -, hspares⟩ := coordination_run input _ accepted.ids accepted.single state
    simp only [henabled, if_true]
    exact ⟨hkept, hspares⟩
  · have hnone := accepted.disabled (Bool.eq_false_of_not_eq_true henabled)
    simp only [henabled]
    rw [hnone]
    exact ⟨nofun, fun _ => Or.inl rfl⟩

end Coordination

/-! ## A night of three goons -/

/-- The mafia's kill, coordinated. -/
def mafiaKill : FactionActionSpec := { actionId := "factional_kill", alignment := "mafia" }

/-- A village whose mafia votes on its kill. -/
def mafiaVote : Pack Rat :=
  { villagePack [] with
    roles := (villagePack []).roles.insert "goon"
      { alignment := some "mafia", actions := [nightAction "factional_kill" .kill 30 [] []] }
    factionActions := { enabled := true, actions := [mafiaKill] } }

def mafiaNight : ResolutionInput Rat :=
  village ⟨mafiaVote, [.kill], .of_plain (by decide) rfl rfl⟩
    { phaseId := .first .night
      slots := [townie "a", townie "b", goon "g", goon "h", goon "i"] } []

/-- A goon's shot at a target. -/
def goonVote (actor target : SlotId) (submittedAt : Nat) : Action Rat where
  sub := { actionId := actor, actor, templateId := "factional_kill", targets := [target]
           phaseId := .first .night, submittedAt }
  template := nightAction "factional_kill" .kill 30 [] []
  targets := [target]
  blocked := false

/-- Two goons of three outvote the third, and one of the two shoots. -/
theorem mafiaNight_plurality : PluralityKept 1
      (factionCandidates mafiaNight mafiaKill [goonVote "g" "a" 0, goonVote "h" "b" 2, goonVote "i" "b" 1])
      (factionCandidates mafiaNight mafiaKill (applyFactionActionCoordination mafiaNight
        ([goonVote "g" "a" 0, goonVote "h" "b" 2, goonVote "i" "b" 1], [])).1) :=
  (coordination_plurality mafiaNight
    { disabled := fun h => absurd h (by decide)
      ids := by decide
      single := fun spec hspec => by rw [List.mem_singleton.1 hspec]; rfl }
    ([goonVote "g" "a" 0, goonVote "h" "b" 2, goonVote "i" "b" 1], [])).1 mafiaKill
      (List.mem_singleton_self _)

end Fmarch.Resolver
