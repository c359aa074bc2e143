import Mathlib.Algebra.Order.BigOperators.Group.Finset
import Fmarch.Resolver.Ballots
import Fmarch.Resolver.VoteWinner

/-!
# The hammer

After each ballot the count looks at the slot just voted for, and stops once that slot has its threshold.
The tallies and the decision are computed afterwards, from the votes the scan left, with thresholds looked
up in another place.

**`hammer_decides`**: the hammer falls exactly if some prefix of the ballots brings the slot just voted for
to its threshold; the shortest such prefix gives the votes, the tallies and the winner, whatever ballots
follow. It asks that the id of the no-lynch option is not that of a living slot with a lower threshold:
`sentinelDay` is a vote such a slot takes away from the one the hammer fell on.
-/

namespace Fmarch.Resolver

open Fmarch.Domain Keyed StableSort

/-! ## Tallies are sums of weights -/

section Tally

variable {votes votes' : BTreeMap SlotId SlotId} {weights : BTreeMap SlotId Rat}

/-- The tally of a slot. -/
abbrev tallyOf (votes : BTreeMap SlotId SlotId) (weights : BTreeMap SlotId Rat) (slot : SlotId) : Rat :=
  (tallyVotes votes weights).getD slot 0

/-- What a voter adds to the tally of a slot. -/
def contribution (votes : BTreeMap SlotId SlotId) (weights : BTreeMap SlotId Rat)
    (slot voter : SlotId) : Rat :=
  if votes[voter]? = some slot then weights.getD voter 0 else 0

theorem getD_insert_add (tallies : BTreeMap SlotId Rat) (target slot : SlotId) (weight : Rat) :
    (tallies.insert target (tallies.getD target 0 + weight)).getD slot 0 =
      tallies.getD slot 0 + if target = slot then weight else 0 := by
  rw [Std.TreeMap.getD_insert]
  by_cases hslot : target = slot
  · subst hslot
    simp
  · have hne : ¬ compare target slot = .eq := fun h => hslot (Std.LawfulEqOrd.compare_eq_iff_eq.1 h)
    rw [if_neg hne, if_neg hslot, add_zero]

theorem tally_foldl (slot : SlotId) (entries : List (SlotId × SlotId)) (tallies : BTreeMap SlotId Rat) :
    (entries.foldl (fun tallies (voter, target) =>
        tallies.insert target
          (Float64.add (tallies.getD target Float64.zero) (weights.getD voter Float64.zero)))
      tallies).getD slot 0 =
      tallies.getD slot 0 +
        (entries.map fun entry => if entry.2 = slot then weights.getD entry.1 0 else 0).sum := by
  induction entries generalizing tallies with
  | nil => simp
  | cons entry entries ih =>
    obtain ⟨voter, target⟩ := entry
    rw [List.foldl_cons, ih, List.map_cons, List.sum_cons, ← add_assoc]
    congr 1
    exact getD_insert_add tallies target slot (weights.getD voter 0)

/-- A tally is the sum over the voters of what they add to it. -/
theorem tallyOf_eq_sum (slot : SlotId) :
    tallyOf votes weights slot = ∑ voter ∈ votes.keys.toFinset, contribution votes weights slot voter := by
  have hentries : (votes.toList.map fun entry =>
      if entry.2 = slot then weights.getD entry.1 0 else 0) =
      votes.toList.map fun entry => contribution votes weights slot entry.1 := by
    refine List.map_congr_left fun entry hentry => ?_
    have hget : votes[entry.1]? = some entry.2 :=
      Std.TreeMap.mem_toList_iff_getElem?_eq_some.1 hentry
    unfold contribution
    rw [hget]
    simp
  unfold tallyOf tallyVotes
  rw [tally_foldl, hentries, Std.TreeMap.getD_emptyc, zero_add, ← Std.TreeMap.map_fst_toList_eq_keys,
    List.sum_toFinset _ (Std.TreeMap.map_fst_toList_eq_keys (t := votes) ▸ Std.TreeMap.nodup_keys),
    List.map_map]
  rfl

theorem contribution_eq_zero {slot voter : SlotId} (h : votes[voter]? ≠ some slot) :
    contribution votes weights slot voter = 0 := if_neg h

theorem tallyOf_eq_sum_of_subset {voters : Finset SlotId} (h : votes.keys.toFinset ⊆ voters) (slot : SlotId) :
    tallyOf votes weights slot = ∑ voter ∈ voters, contribution votes weights slot voter := by
  rw [tallyOf_eq_sum]
  refine Finset.sum_subset h fun voter _ hmissing => contribution_eq_zero ?_
  have habsent : votes[voter]? = none := by
    rw [List.mem_toFinset, Std.TreeMap.mem_keys] at hmissing
    exact Std.TreeMap.getElem?_eq_none hmissing
  rw [habsent]
  simp

/-- A tally does not rise while nobody new votes for the slot. -/
theorem tally_mono (nonneg : ∀ voter, 0 ≤ weights.getD voter 0) {slot : SlotId}
    (h : ∀ voter : SlotId, votes'[voter]? = some slot → votes[voter]? = some slot) :
    tallyOf votes' weights slot ≤ tallyOf votes weights slot := by
  have hvoters : votes.keys.toFinset ⊆ votes.keys.toFinset ∪ votes'.keys.toFinset :=
    Finset.subset_union_left
  have hvoters' : votes'.keys.toFinset ⊆ votes.keys.toFinset ∪ votes'.keys.toFinset :=
    Finset.subset_union_right
  rw [tallyOf_eq_sum_of_subset hvoters', tallyOf_eq_sum_of_subset hvoters]
  refine Finset.sum_le_sum fun voter _ => ?_
  by_cases hvoter : votes'[voter]? = some slot
  · unfold contribution
    rw [if_pos hvoter, if_pos (h voter hvoter)]
  · rw [contribution_eq_zero hvoter]
    unfold contribution
    split
    · exact nonneg voter
    · exact Rat.le_refl

end Tally

/-! ## The scan -/

section Scan

variable {rules : VoteRules Rat}

/-- The votes that stand after some ballots, each voter's latest. -/
abbrev standing (rules : VoteRules Rat) (subs : List Submission) : BTreeMap SlotId SlotId :=
  subs.foldl (castPlain rules) ∅

theorem standing_concat (rules : VoteRules Rat) (subs : List Submission) (sub : Submission) :
    standing rules (subs ++ [sub]) = castPlain rules (standing rules subs) sub :=
  List.foldl_append ..

/-- The threshold the hammer looks up. -/
def hammerThreshold (rules : VoteRules Rat) (base : Rat) (target : SlotId) : Rat :=
  if target == noLynchTarget then base else rules.thresholds.getD target base

/-- The votes give the slot its threshold. -/
def Reached (rules : VoteRules Rat) (votes : BTreeMap SlotId SlotId) (target : SlotId) : Prop :=
  ∃ base, rules.majority = some base ∧ hammerThreshold rules base target ≤ tallyOf votes rules.weights target

/-- A ballot that counts for a slot. -/
structure Counts (rules : VoteRules Rat) (sub : Submission) (target : SlotId) : Prop where
  stands : sub.withdrawn = false
  weighed : rules.weights.contains sub.actor = true
  voted : sub.targets.head? = some target
  valid : rules.valid.contains target = true

/-- A ballot that counts, behind those of a prefix, brings the slot it votes for to its threshold. -/
structure Brings (rules : VoteRules Rat) (before : List Submission) (sub : Submission)
    (target : SlotId) : Prop extends Counts rules sub target where
  reached : Reached rules (standing rules (before ++ [sub])) target

theorem retainDuel_toList (votes : BTreeMap SlotId SlotId) :
    (retainDuel none votes).toList = votes.toList := by
  unfold retainDuel
  rw [Std.TreeMap.toList_filter]
  exact List.filter_eq_self.2 fun _ _ => rfl

variable {votes votes' : BTreeMap SlotId SlotId} {target slot : SlotId} {sub : Submission}
   {before subs : List Submission}

theorem tallyVotes_congr (h : votes.toList = votes'.toList) (weights : BTreeMap SlotId Rat) : tallyVotes votes weights = tallyVotes votes' weights := by
  unfold tallyVotes
  rw [h]

theorem hammerVotes_some (hduel : rules.duel = none) (h : Reached rules votes target) :
    hammerVotes rules votes target = some (retainDuel none votes) := by
  obtain ⟨base, hmajority, hreached⟩ := h
  unfold hammerVotes
  rw [hduel, hmajority]
  dsimp only
  rw [tallyVotes_congr (retainDuel_toList votes)]
  exact if_pos (decide_eq_true hreached)

theorem hammerVotes_none (hduel : rules.duel = none) (h : ¬ Reached rules votes target) : hammerVotes rules votes target = none := by
  unfold hammerVotes
  rw [hduel]
  dsimp only
  rw [tallyVotes_congr (retainDuel_toList votes)]
  cases hmajority : rules.majority with
  | none => rfl
  | some base => exact if_neg fun hle => h ⟨base, hmajority, of_decide_eq_true hle⟩

theorem Counts.castPlain (h : Counts rules sub target) (votes : BTreeMap SlotId SlotId) :
    castPlain rules votes sub = votes.insert sub.actor target := by
  unfold Resolver.castPlain
  rw [h.stands, h.voted, h.weighed]
  dsimp only
  rw [h.valid]
  rfl

theorem Counts.castBallot (hhammer : rules.policy.hammer = true) (h : Counts rules sub target)
    (votes : BTreeMap SlotId SlotId) :
    castBallot rules votes sub =
      match hammerVotes rules (votes.insert sub.actor target) target with
      | some counted => (counted, true)
      | none => (votes.insert sub.actor target, false) := by
  obtain ⟨others, htargets⟩ := List.head?_eq_some_iff.1 h.voted
  unfold Resolver.castBallot
  rw [h.stands, h.weighed, htargets, hhammer]
  dsimp only
  rw [h.valid]
  rfl

theorem castBallot_uncounted (h : ∀ target, ¬ Counts rules sub target)
    (votes : BTreeMap SlotId SlotId) : (castBallot rules votes sub).2 = false := by
  unfold castBallot
  split
  · rfl
  · rename_i hstands
    split
    · rfl
    · rename_i hweighed
      split
      · rfl
      · rename_i target _ htargets
        split
        · rfl
        · rename_i hvalid
          exact absurd ⟨by simpa using hstands, by simpa using hweighed, by rw [htargets]; rfl,
            by simpa using hvalid⟩ (h target)

/-- The hammer falls at a ballot that brings its slot to its threshold, and leaves the votes that stand. -/
theorem castBallot_brings (hhammer : rules.policy.hammer = true) (hduel : rules.duel = none)
    (h : Brings rules before sub target) :
    (castBallot rules (standing rules before) sub).2 = true ∧
      (castBallot rules (standing rules before) sub).1.toList =
        (standing rules (before ++ [sub])).toList := by
  have hreached := h.reached
  rw [standing_concat, h.toCounts.castPlain] at hreached
  rw [h.toCounts.castBallot hhammer, hammerVotes_some hduel hreached, standing_concat, h.toCounts.castPlain]
  exact ⟨rfl, retainDuel_toList _⟩

theorem castBallot_spares (hhammer : rules.policy.hammer = true) (hduel : rules.duel = none)
    (h : ∀ target, ¬ Brings rules before sub target) :
    (castBallot rules (standing rules before) sub).2 = false := by
  by_cases hcounts : ∃ target, Counts rules sub target
  · obtain ⟨target, hcounts⟩ := hcounts
    have hunreached : ¬ Reached rules ((standing rules before).insert sub.actor target) target := by
      intro hreached
      rw [← hcounts.castPlain, ← standing_concat] at hreached
      exact h target { hcounts with reached := hreached }
    rw [hcounts.castBallot hhammer, hammerVotes_none hduel hunreached]
  · exact castBallot_uncounted (fun target hcount => hcounts ⟨target, hcount⟩) _

/-- No ballot of the list brings its slot to its threshold, after those before it. -/
def NoneBrings (rules : VoteRules Rat) (before subs : List Submission) : Prop :=
  ∀ earlier sub later target, subs = earlier ++ sub :: later → ¬ Brings rules (before ++ earlier) sub target

theorem NoneBrings.tail (h : NoneBrings rules before (sub :: subs)) : NoneBrings rules (before ++ [sub]) subs := by
  intro earlier other later target hsubs hbrings
  refine h (sub :: earlier) other later target (by rw [hsubs]; rfl) ?_
  rwa [List.append_assoc, List.singleton_append] at hbrings

/-- The scan goes through ballots at which the hammer does not fall, and stops at the first at which it
does. -/
theorem castBallots_spares (hhammer : rules.policy.hammer = true) (hduel : rules.duel = none)
    (h : NoneBrings rules before subs) (later : List Submission)
    (history : List (BTreeMap SlotId Rat)) :
    ∃ history', castBallots rules (subs ++ later) (standing rules before) history =
      castBallots rules later (standing rules (before ++ subs)) history' := by
  induction subs generalizing before history with
  | nil => exact ⟨history, by rw [List.append_nil, List.nil_append]⟩
  | cons sub subs ih =>
    have hspared : (castBallot rules (standing rules before) sub).2 = false :=
      castBallot_spares hhammer hduel fun target hbrings =>
        h [] sub subs target rfl (by rwa [List.append_nil])
    obtain ⟨history', hrest⟩ := ih h.tail
      (history ++ [tallyVotes (standing rules (before ++ [sub])) rules.weights])
    refine ⟨history', ?_⟩
    rw [List.append_assoc, List.singleton_append] at hrest
    rw [← hrest, List.cons_append, castBallots]
    dsimp only
    rw [hspared, castBallot_plain hspared, ← standing_concat]
    rfl

theorem castBallots_first (hhammer : rules.policy.hammer = true) (hduel : rules.duel = none)
    (hbefore : NoneBrings rules [] before) (h : Brings rules before sub target)
    (later : List Submission) :
    (castBallots rules (before ++ sub :: later) ∅ []).2.2 = true ∧
      (castBallots rules (before ++ sub :: later) ∅ []).1.toList =
        (standing rules (before ++ [sub])).toList := by
  obtain ⟨history, hscan⟩ := castBallots_spares hhammer hduel hbefore (sub :: later) []
  rw [show (∅ : BTreeMap SlotId SlotId) = standing rules [] from rfl, hscan, castBallots]
  obtain ⟨hfell, hvotes⟩ := castBallot_brings hhammer hduel h
  dsimp only
  rw [List.nil_append, hfell]
  exact ⟨rfl, hvotes⟩

/-- Ballots of which some bring their slot to its threshold have a first such. -/
theorem exists_first (before subs : List Submission) : NoneBrings rules before subs ∨
      ∃ earlier sub later target, subs = earlier ++ sub :: later ∧
        NoneBrings rules before earlier ∧ Brings rules (before ++ earlier) sub target := by
  induction subs generalizing before with
  | nil =>
    refine .inl fun earlier sub later target hsubs => ?_
    exact absurd hsubs (by simp)
  | cons sub subs ih =>
    by_cases hfirst : ∃ target, Brings rules before sub target
    · obtain ⟨target, hbrings⟩ := hfirst
      refine .inr ⟨[], sub, subs, target, rfl, fun earlier other later target hsubs => ?_, ?_⟩
      · exact absurd hsubs (by simp)
      · rwa [List.append_nil]
    · have hcons : ∀ earlier, NoneBrings rules (before ++ [sub]) earlier →
          NoneBrings rules before (sub :: earlier) := by
        intro earlier hnone prior other later target hsubs hbrings
        cases prior with
        | nil =>
          obtain ⟨rfl, -⟩ := List.cons.inj hsubs
          exact hfirst ⟨target, by rwa [List.append_nil] at hbrings⟩
        | cons first prior =>
          obtain ⟨rfl, hrest⟩ := List.cons.inj hsubs
          refine hnone prior other later target hrest ?_
          rwa [List.append_assoc, List.singleton_append]
      rcases ih (before ++ [sub]) with hnone | ⟨earlier, other, later, target, rfl, hnone, hbrings⟩
      · exact .inl (hcons subs hnone)
      · refine .inr ⟨sub :: earlier, other, later, target, rfl, hcons earlier hnone, ?_⟩
        rwa [List.append_assoc, List.singleton_append] at hbrings

/-- The hammer falls exactly if some ballot brings its slot to its threshold. -/
theorem castBallots_hammered_iff (hhammer : rules.policy.hammer = true) (hduel : rules.duel = none)
    (subs : List Submission) :
    (castBallots rules subs ∅ []).2.2 = true ↔ ¬ NoneBrings rules [] subs := by
  constructor
  · intro hfell hnone
    obtain ⟨history, hscan⟩ := castBallots_spares hhammer hduel hnone [] []
    rw [List.append_nil] at hscan
    rw [show (∅ : BTreeMap SlotId SlotId) = standing rules [] from rfl, hscan] at hfell
    exact absurd hfell (by simp [castBallots])
  · intro hsome
    rcases exists_first [] subs with hnone | ⟨earlier, sub, later, target, rfl, hnone, hbrings⟩
    · exact absurd hnone hsome
    · exact (castBallots_first hhammer hduel hnone hbrings later).1

/-! ## Nobody else has its threshold -/

/-- No slot with votes has reached the threshold the hammer looks up for it. -/
def NoneReached (rules : VoteRules Rat) (votes : BTreeMap SlotId SlotId) : Prop :=
  ∀ slot, 0 < tallyOf votes rules.weights slot → ¬ Reached rules votes slot

theorem Reached.mono (hle : tallyOf votes' rules.weights slot ≤ tallyOf votes rules.weights slot)
    (h : Reached rules votes' slot) : Reached rules votes slot := by
  obtain ⟨base, hmajority, hreached⟩ := h
  exact ⟨base, hmajority, hreached.trans hle⟩

theorem tally_insert_le (nonneg : ∀ voter, 0 ≤ rules.weights.getD voter 0)
    (votes : BTreeMap SlotId SlotId) (voter : SlotId) (hslot : slot ≠ target) :
    tallyOf (votes.insert voter target) rules.weights slot ≤ tallyOf votes rules.weights slot := by
  refine tally_mono nonneg fun other hother => ?_
  rw [Std.TreeMap.getElem?_insert] at hother
  split at hother
  · exact absurd (Option.some.inj hother).symm hslot
  · exact hother

theorem tally_erase_le (nonneg : ∀ voter, 0 ≤ rules.weights.getD voter 0)
    (votes : BTreeMap SlotId SlotId) (voter slot : SlotId) :
    tallyOf (votes.erase voter) rules.weights slot ≤ tallyOf votes rules.weights slot := by
  refine tally_mono nonneg fun other hother => ?_
  rw [Std.TreeMap.getElem?_erase] at hother
  split at hother
  · cases hother
  · exact hother

theorem NoneReached.mono (hle : ∀ slot, tallyOf votes' rules.weights slot ≤ tallyOf votes rules.weights slot)
    (h : NoneReached rules votes) : NoneReached rules votes' :=
  fun slot hpos hreached => h slot (hpos.trans_le (hle slot)) (hreached.mono (hle slot))

/-- While no ballot brings its slot to its threshold, no slot has it. -/
theorem noneReached_standing (nonneg : ∀ voter, 0 ≤ rules.weights.getD voter 0)
    (h : NoneBrings rules [] subs) :
    NoneReached rules (standing rules subs) := by
  induction subs using List.reverseRecOn with
  | nil =>
    intro slot hpos
    have hzero : tallyOf (standing rules []) rules.weights slot = 0 := by
      rw [tallyOf_eq_sum]
      rfl
    rw [hzero] at hpos
    exact absurd hpos (lt_irrefl 0)
  | append_singleton subs sub ih =>
    have hsubs : NoneReached rules (standing rules subs) :=
      ih fun earlier other later target hearlier =>
        h earlier other (later ++ [sub]) target (by rw [hearlier, List.append_assoc]; rfl)
    have hsub : ∀ target, ¬ Brings rules subs sub target := fun target => h subs sub [] target rfl
    by_cases hcounts : ∃ target, Counts rules sub target
    · obtain ⟨target, hcounts⟩ := hcounts
      intro slot hpos hreached
      by_cases hslot : slot = target
      · subst hslot
        exact hsub slot { hcounts with reached := hreached }
      · rw [standing_concat, hcounts.castPlain] at hpos hreached
        have hle := tally_insert_le nonneg (standing rules subs) sub.actor hslot
        exact hsubs slot (hpos.trans_le hle) (hreached.mono hle)
    · rw [standing_concat]
      unfold castPlain
      split
      · exact hsubs.mono (tally_erase_le nonneg _ _)
      · rename_i hstands
        split
        · exact hsubs
        · rename_i target hvoted
          split
          · rename_i hvalid
            obtain ⟨hweighed, hvalid⟩ := Bool.and_eq_true_iff.1 hvalid
            exact absurd ⟨target, by simpa using hstands, hweighed, hvoted, hvalid⟩ hcounts
          · exact hsubs

/-- When the hammer falls, no slot with votes but the one it falls on has reached its threshold. -/
theorem Brings.others (nonneg : ∀ voter, 0 ≤ rules.weights.getD voter 0)
    (h : Brings rules before sub target) (hbefore : NoneBrings rules [] before)
    (hslot : slot ≠ target)
    (hpos : 0 < tallyOf (standing rules (before ++ [sub])) rules.weights slot) :
    ¬ Reached rules (standing rules (before ++ [sub])) slot := by
  intro hreached
  rw [standing_concat, h.toCounts.castPlain] at hpos hreached
  have hle := tally_insert_le nonneg (standing rules before) sub.actor hslot
  exact noneReached_standing nonneg hbefore slot (hpos.trans_le hle) (hreached.mono hle)

end Scan

/-! ## The decision -/

section Decision

variable {decision : OutcomeDecision Rat} {base : Rat} {target : SlotId}

theorem values_eq_map_toList (tallies : BTreeMap SlotId Rat) : tallies.values = tallies.toList.map (·.2) := by
  show tallies.inner.inner.values = (Std.DTreeMap.Internal.Impl.Const.toList tallies.inner.inner).map (·.2)
  rw [Std.DTreeMap.Internal.Impl.values_eq_map_snd,
    Std.DTreeMap.Internal.Impl.Const.toList_eq_toListModel_map, List.map_map]
  rfl

theorem mem_le_foldl_max {values : List Rat} {value : Rat} (h : value ∈ values) (start : Rat) :
    value ≤ values.foldl Float64.max start := by
  induction values generalizing start with
  | nil => exact absurd h List.not_mem_nil
  | cons first values ih =>
    rw [List.foldl_cons]
    rcases List.mem_cons.1 h with rfl | hrest
    · refine le_trans ?_ (le_foldl_max values _)
      unfold Float64.max
      split
      · exact Rat.le_refl
      · rename_i hlt
        exact not_lt.1 fun hless => hlt (decide_eq_true hless)
    · exact ih hrest _

/-- Entries that all have one key are one entry at most. -/
theorem filter_toList_of_key {tallies : BTreeMap SlotId Rat} {p : SlotId × Rat → Bool}
    (h : ∀ entry ∈ tallies.toList, p entry = true → entry.1 = target) :
    tallies.toList.filter p = [] ∨ ∃ tally, tallies.toList.filter p = [(target, tally)] := by
  have hkeys : ((tallies.toList.filter p).map (·.1)).Nodup := by
    refine List.Nodup.sublist (List.filter_sublist.map _) ?_
    rw [Std.TreeMap.map_fst_toList_eq_keys]
    exact Std.TreeMap.nodup_keys
  have hall : ∀ entry ∈ tallies.toList.filter p, entry.1 = target := fun entry hentry =>
    h entry (List.mem_filter.1 hentry).1 (List.mem_filter.1 hentry).2
  match hfilter : tallies.toList.filter p with
  | [] => exact .inl rfl
  | [(slot, tally)] =>
    have hslot : slot = target := hall (slot, tally) (hfilter ▸ List.mem_cons_self)
    exact .inr ⟨tally, by rw [hslot]⟩
  | first :: second :: rest =>
    rw [hfilter] at hkeys hall
    have hfirst := hall first List.mem_cons_self
    have hsecond := hall second (List.mem_cons_of_mem _ List.mem_cons_self)
    simp [hfirst, hsecond] at hkeys

/-- Only the target has votes and its threshold. -/
def OnlyMeets (decision : OutcomeDecision Rat) (base : Rat) (target : SlotId) : Prop :=
  ∀ entry ∈ decision.tallies.toList, 0 < entry.2 →
    decision.thresholds.getD entry.1 base ≤ entry.2 → entry.1 = target

theorem eligible_only (h : OnlyMeets decision base target) :
    eligibleContenders decision base = none ∨ eligibleContenders decision base = some [target] := by
  have hkey : ∀ entry ∈ decision.tallies.toList, (match entry with
      | (slotId, tally) => Float64.lt Float64.zero tally &&
        Float64.le (decision.thresholds.getD slotId base) tally) = true → entry.1 = target := by
    intro entry hentry hmet
    obtain ⟨hpos, hreached⟩ := Bool.and_eq_true_iff.1 hmet
    exact h entry hentry (of_decide_eq_true hpos) (of_decide_eq_true hreached)
  unfold eligibleContenders
  dsimp only
  rcases filter_toList_of_key hkey with hnone | ⟨tally, hone⟩
  · exact .inl (by rw [hnone]; rfl)
  · rw [hone]
    refine .inr ?_
    have hpos : 0 < tally := by
      have hmem : (target, tally) ∈ decision.tallies.toList.filter _ := hone ▸ List.mem_cons_self
      exact of_decide_eq_true (Bool.and_eq_true_iff.1 (List.mem_filter.1 hmem).2).1
    have hmax : Float64.max (Float64.zero : Rat) tally = tally := if_pos (decide_eq_true hpos)
    simp only [List.isEmpty_cons, Bool.false_eq_true, if_false, List.map_cons, List.map_nil,
      List.foldl_cons, List.foldl_nil, hmax]
    simp only [List.filter_cons, floatClose_self, if_true, List.filter_nil, List.map_cons, List.map_nil]

/-- The decision is for the target, or for nobody. -/
theorem decideOutcome_only (hforce : decision.forceTopContenders = false)
    (hbase : decision.majority = some base) (h : OnlyMeets decision base target) :
    (decideOutcome decision).winner = none ∨
      target ≠ noLynchTarget ∧ (decideOutcome decision).winner = some target := by
  unfold decideOutcome
  split
  · exact .inl rfl
  · rw [hforce, if_neg (by simp), hbase]
    dsimp only
    rcases eligible_only h with hnone | hone
    · rw [hnone]
      exact .inl rfl
    · rw [hone]
      unfold decideContenders
      dsimp only
      split
      · exact .inl rfl
      · rename_i hslot
        exact .inr ⟨by simpa using hslot, rfl⟩

/-- The decision is for a target that has votes and its threshold. -/
theorem decideOutcome_target (hforce : decision.forceTopContenders = false)
    (hbase : decision.majority = some base) (h : OnlyMeets decision base target)
    (hslot : target ≠ noLynchTarget) {tally : Rat} (hlisted : decision.tallies[target]? = some tally)
    (hpos : 0 < tally) (hmet : decision.thresholds.getD target base ≤ tally)
    (htop : decision.topContenders ≠ []) (hmax : 0 < decision.maxTally) :
    decideOutcome decision =
      { status := if decision.hammerReached then .hammer else .lynch
        winner := some target
        contenders := [target] } := by
  have helected : ¬ (decision.topContenders.isEmpty ||
      (!decision.forceTopContenders && Float64.le decision.maxTally Float64.zero)) = true := by
    intro hnone
    rcases Bool.or_eq_true_iff.1 hnone with hempty | hlow
    · exact htop (List.isEmpty_iff.1 hempty)
    · exact absurd (of_decide_eq_true (Bool.and_eq_true_iff.1 hlow).2) (not_le.2 hmax)
  have hone : eligibleContenders decision base = some [target] := by
    rcases eligible_only h with hnone | hone
    · unfold eligibleContenders at hnone
      dsimp only at hnone
      split at hnone
      · rename_i hempty
        have hmem : (target, tally) ∈ decision.tallies.toList :=
          Std.TreeMap.mem_toList_iff_getElem?_eq_some.2 hlisted
        have hkept := List.filter_eq_nil_iff.1 (List.isEmpty_iff.1 hempty) _ hmem
        refine absurd (Bool.and_eq_true_iff.2 ⟨?_, ?_⟩) hkept
        · exact decide_eq_true hpos
        · exact decide_eq_true hmet
      · cases hnone
    · exact hone
  unfold decideOutcome
  rw [if_neg helected, hforce, if_neg (by simp), hbase]
  dsimp only
  rw [hone]
  unfold decideContenders
  dsimp only
  rw [if_neg (by simpa using hslot)]

end Decision

/-! ## The rules of a vote -/

/-- What holds of every value inserted, and of those already there, holds of all. -/
theorem insertMany_forall {P : SlotId → Rat → Prop} {entries : List (SlotId × Rat)}
    (hentries : ∀ entry ∈ entries, P entry.1 entry.2) {start : BTreeMap SlotId Rat}
    (hstart : ∀ key value, start[key]? = some value → P key value) {key : SlotId} {value : Rat}
    (h : (start.insertMany entries)[key]? = some value) : P key value := by
  induction entries generalizing start with
  | nil =>
    rw [Std.TreeMap.insertMany_nil] at h
    exact hstart key value h
  | cons entry entries ih =>
    rw [Std.TreeMap.insertMany_cons] at h
    refine ih (fun other hother => hentries other (List.mem_cons_of_mem _ hother)) ?_ h
    intro other found hfound
    rw [Std.TreeMap.getElem?_insert] at hfound
    split at hfound
    · rename_i hkey
      obtain rfl := Std.LawfulEqOrd.compare_eq_iff_eq.1 hkey
      obtain rfl := Option.some.inj hfound
      exact hentries entry List.mem_cons_self
    · exact hstart other found hfound

/-- No weight a slot may vote with is negative: those of the pack, of the vote grants and of the
badges. -/
structure WeightsNonneg (pack : Pack Rat) (voteState : StateSnapshot Rat)
    (badges : List (BadgeRecord Rat)) : Prop where
  roles : ∀ weights, pack.vote.weights = .perRole weights →
    ∀ (role : RoleKey) weight, weights[role]? = some weight → 0 ≤ weight
  base : ∀ policy, pack.vote.weights = .dynamic policy → 0 ≤ policy.base
  effects : ∀ policy, pack.vote.weights = .dynamic policy → ∀ rule ∈ policy.effectRules, 0 ≤ rule.weight
  grants : ∀ grant ∈ voteState.actionGrants, ∀ weight, grant.voteWeight = some weight → 0 ≤ weight
  badges : ∀ badge ∈ badges, ∀ weight, badge.voteWeight = some weight → 0 ≤ weight

section Rules

variable {input : ResolutionInput Rat} {voteState : StateSnapshot Rat}
  {badges : List (BadgeRecord Rat)}

theorem maxVoteWeightRule_mem {current : Option (Int × String × Rat)}
    {candidate : Int × String × Rat} {chosen : Int × String × Rat}
    (h : maxVoteWeightRule current candidate = some chosen) :
    chosen = candidate ∨ current = some chosen := by
  unfold maxVoteWeightRule at h
  split at h
  · split at h
    · exact .inr h
    · exact .inl (Option.some.inj h).symm
  · exact .inl (Option.some.inj h).symm

theorem dynamicVoteWeight_nonneg {policy : DynamicVoteWeightPolicy Rat} {slot : SlotState}
    {grants : List (ActionGrantRecord Rat)} (hbase : 0 ≤ policy.base)
    (heffects : ∀ rule ∈ policy.effectRules, 0 ≤ rule.weight)
    (hgrants : ∀ grant ∈ grants, ∀ weight, grant.voteWeight = some weight → 0 ≤ weight) :
    0 ≤ dynamicVoteWeight policy slot grants := by
  have hfold : ∀ (candidates : List (Int × String × Rat)) (current : Option (Int × String × Rat)),
      (∀ candidate ∈ candidates, 0 ≤ candidate.2.2) →
      (∀ chosen, current = some chosen → 0 ≤ chosen.2.2) →
      ∀ chosen, candidates.foldl maxVoteWeightRule current = some chosen → 0 ≤ chosen.2.2 := by
    intro candidates current hcandidates hcurrent
    refine Steps.foldl_inv (fun current : Option (Int × String × Rat) =>
      ∀ chosen, current = some chosen → 0 ≤ chosen.2.2)
      (fun current candidate hcandidate hkept chosen hchosen => ?_) hcurrent
    rcases maxVoteWeightRule_mem hchosen with rfl | hold
    · exact hcandidates _ hcandidate
    · exact hkept chosen hold
  unfold dynamicVoteWeight
  dsimp only
  split
  · rename_i priority key weight hchosen
    refine hfold _ none (fun candidate hcandidate => ?_) (fun _ hnone => absurd hnone (by simp)) _ hchosen
    rcases List.mem_append.1 hcandidate with heffect | hgrant
    · obtain ⟨rule, hrule, rfl⟩ := List.mem_map.1 heffect
      exact heffects rule (List.mem_filter.1 hrule).1
    · obtain ⟨rule, -, hrule⟩ := List.mem_flatMap.1 hgrant
      obtain ⟨grant, hlisted, hmap⟩ := List.mem_filterMap.1 hrule
      obtain ⟨given, hgiven, rfl⟩ := Option.map_eq_some_iff.1 hmap
      exact hgrants grant (List.mem_filter.1 hlisted).1 given hgiven
  · exact hbase

theorem voteWeight_nonneg (h : WeightsNonneg input.pack.document voteState badges) (slot : SlotState) :
    0 ≤ voteWeight input.pack.document voteState.actionGrants (activeBadgeVoteWeights badges) slot := by
  have hone : (0 : Rat) ≤ Float64.one := by decide +kernel
  unfold voteWeight
  dsimp only
  rw [Std.TreeMap.getD_eq_getD_getElem?]
  cases hbadge : (activeBadgeVoteWeights badges)[slot.slotId]? with
  | none =>
    rw [Option.getD_none]
    split
    · exact Rat.le_refl
    · split
      · exact hone
      · rename_i weights hweights
        rw [Std.TreeMap.getD_eq_getD_getElem?]
        cases hweight : weights[slot.roleKey]? with
        | none => exact hone
        | some weight => exact h.roles weights hweights slot.roleKey weight hweight
      · rename_i policy hweights
        exact dynamicVoteWeight_nonneg (h.base policy hweights) (h.effects policy hweights) h.grants
  | some weight =>
    have hall : ∀ entry ∈ (badges.filter (!·.destroyed)).filterMap fun badge => do
        let owner ← badge.owner
        let weight ← badge.voteWeight
        some (owner, weight), 0 ≤ entry.2 := by
      intro entry hentry
      obtain ⟨badge, hlisted, hentry⟩ := List.mem_filterMap.1 hentry
      obtain ⟨owner, -, hentry⟩ := Option.bind_eq_some_iff.1 hentry
      obtain ⟨given, hgiven, hentry⟩ := Option.bind_eq_some_iff.1 hentry
      obtain rfl := Option.some.inj hentry
      exact h.badges badge (List.mem_filter.1 hlisted).1 given hgiven
    exact insertMany_forall (P := fun _ weight => 0 ≤ weight) hall
      (fun _ _ hnone => absurd hnone (by simp)) hbadge

theorem voteWeights_nonneg (h : WeightsNonneg input.pack.document voteState badges) (voter : SlotId) :
    0 ≤ (voteRules input voteState badges none).weights.getD voter 0 := by
  rw [Std.TreeMap.getD_eq_getD_getElem?]
  cases hweight : (voteRules input voteState badges none).weights[voter]? with
  | none => exact Rat.le_refl
  | some weight =>
    refine insertMany_forall (P := fun _ weight => 0 ≤ weight) (fun entry hentry => ?_)
      (fun _ _ hnone => absurd hnone (by simp)) hweight
    obtain ⟨slot, -, rfl⟩ := List.mem_map.1 hentry
    exact voteWeight_nonneg h slot

variable {target : SlotId} {before : List Submission} {sub : Submission}

/-- A living slot's threshold is one at least. -/
theorem one_le_threshold (hliving : Living voteState target) {base : Rat}
    (hbase : (voteRules input voteState badges none).majority = some base) :
    1 ≤ (voteRules input voteState badges none).thresholds.getD target base := by
  obtain ⟨slot, hslot, rfl, halive⟩ := hliving
  have hthresholds : (voteRules input voteState badges none).thresholds = (∅ : BTreeMap SlotId Rat).insertMany
        ((voteState.slots.filter (·.isAlive)).map fun slot =>
          (slot.slotId, Float64.max (Float64.add base
            (input.pack.document.vote.thresholdAdjustments.getD slot.roleKey Float64.zero))
            Float64.one)) := by
    show voteThresholds _ voteState none (voteRules input voteState badges none).majority = _
    rw [hbase]
    rfl
  rw [hthresholds, Std.TreeMap.getD_eq_getD_getElem?]
  generalize hentries : (voteState.slots.filter (·.isAlive)).map _ = entries
  have hone : ∀ entry ∈ entries, (1 : Rat) ≤ entry.2 := by
    intro entry hentry
    rw [← hentries] at hentry
    obtain ⟨other, -, rfl⟩ := List.mem_map.1 hentry
    unfold Float64.max
    split
    · exact Rat.le_refl
    · rename_i hlt
      exact not_lt.1 fun hless => hlt (decide_eq_true hless)
  have hmem : slot.slotId ∈ (∅ : BTreeMap SlotId Rat).insertMany entries := by
    rw [Std.TreeMap.mem_insertMany_list]
    refine .inr (List.contains_iff_mem.2 ?_)
    rw [← hentries, List.map_map]
    exact List.mem_map.2 ⟨slot, List.mem_filter.2 ⟨hslot, halive⟩, rfl⟩
  cases hfound : ((∅ : BTreeMap SlotId Rat).insertMany entries)[slot.slotId]? with
  | none =>
    rw [Std.TreeMap.mem_iff_isSome_getElem?, hfound] at hmem
    cases hmem
  | some threshold =>
    exact insertMany_forall (P := fun _ value => 1 ≤ value) hone
      (fun _ _ hnone => absurd hnone (by simp)) hfound

/-- A slot with the id of the no-lynch option has no lower threshold than the option. -/
def SentinelApart (rules : VoteRules Rat) : Prop :=
  ∀ base, rules.majority = some base → base ≤ rules.thresholds.getD noLynchTarget base

/-- The outcome is that of the ballots up to the one the hammer falls at. -/
structure Hammered (rules : VoteRules Rat) (counted : List Submission) (target : SlotId)
    (outcome : DayVoteOutcome Rat) : Prop where
  votes : outcome.votes.toList = (standing rules counted).toList
  tallies : outcome.tallies = tallyVotes (standing rules counted) rules.weights
  winner : outcome.winner = if target = noLynchTarget then none else some target
  status : target ≠ noLynchTarget → outcome.status = .hammer

/-- Where the hammer falls, the decision is drawn from the votes that stand there. -/
theorem voteDecision_hammered (hhammer : input.pack.document.vote.hammer = true)
    {later : List Submission} (hsubs : dayVotes input = before ++ sub :: later)
    (hbrings : Brings (voteRules input voteState badges none) before sub target)
    (hbefore : NoneBrings (voteRules input voteState badges none) [] before) :
    (voteDecision input voteState badges none).hammerReached = true ∧
      (voteDecision input voteState badges none).tallies =
        tallyVotes (standing (voteRules input voteState badges none) (before ++ [sub]))
          (voteRules input voteState badges none).weights ∧
      (countVotes input voteState badges none).votes.toList =
        (standing (voteRules input voteState badges none) (before ++ [sub])).toList := by
  obtain ⟨hfell, hvotes⟩ := castBallots_first hhammer rfl hbefore hbrings later
  rw [← hsubs] at hfell hvotes
  have hcounted : (countVotes input voteState badges none).votes =
      (castBallots (voteRules input voteState badges none) (dayVotes input) ∅ []).1 := by
    unfold countVotes
    dsimp only
    rw [hfell]
    rfl
  refine ⟨hfell, ?_, hcounted ▸ hvotes⟩
  rw [← tallyVotes_congr hvotes]
  show finalTallies _ (if (castBallots (voteRules input voteState badges none) (dayVotes input)
    ∅ []).2.2 then _ else _) = _
  rw [hfell]
  rfl

theorem tallyOf_of_mem {votes : BTreeMap SlotId SlotId} {weights : BTreeMap SlotId Rat}
    {entry : SlotId × Rat} (h : entry ∈ (tallyVotes votes weights).toList) :
    tallyOf votes weights entry.1 = entry.2 := by
  have hget : (tallyVotes votes weights)[entry.1]? = some entry.2 :=
    Std.TreeMap.mem_toList_iff_getElem?_eq_some.1 h
  unfold tallyOf
  rw [Std.TreeMap.getD_eq_getD_getElem?, hget, Option.getD_some]

/-- The slot the hammer falls on is the only one with votes and its threshold. -/
theorem onlyMeets_hammered {decision : OutcomeDecision Rat} {rules : VoteRules Rat}
    (nonneg : ∀ voter, 0 ≤ rules.weights.getD voter 0) (hsentinel : SentinelApart rules)
    (hbrings : Brings rules before sub target) (hbefore : NoneBrings rules [] before)
    (htallies : decision.tallies = tallyVotes (standing rules (before ++ [sub])) rules.weights)
    (hthresholds : decision.thresholds = rules.thresholds) {base : Rat}
    (hbase : rules.majority = some base) : OnlyMeets decision base target := by
  intro entry hentry hpos hmet
  rw [htallies] at hentry
  rw [hthresholds] at hmet
  have htally := tallyOf_of_mem hentry
  by_contra hslot
  refine hbrings.others nonneg hbefore hslot (htally.symm ▸ hpos) ⟨base, hbase, ?_⟩
  rw [htally]
  unfold hammerThreshold
  split
  · rename_i hnoLynch
    rw [eq_of_beq hnoLynch] at hmet
    exact (hsentinel base hbase).trans hmet
  · exact hmet

/-- Some slot has the highest tally, if any tally is positive. -/
theorem topContenders_ne_nil {tallies : BTreeMap SlotId Rat} {slot : SlotId} {tally : Rat}
    (hlisted : tallies[slot]? = some tally) (hpos : 0 < tally) :
    0 < tallies.values.foldl Float64.max Float64.zero ∧
      topContenders none tallies (tallies.values.foldl Float64.max Float64.zero) ≠ [] := by
  have hvalue : tally ∈ tallies.values := by
    rw [values_eq_map_toList]
    exact List.mem_map.2 ⟨_, Std.TreeMap.mem_toList_iff_getElem?_eq_some.2 hlisted, rfl⟩
  have hmax : 0 < tallies.values.foldl Float64.max Float64.zero :=
    hpos.trans_le (mem_le_foldl_max hvalue _)
  refine ⟨hmax, ?_⟩
  rcases foldl_max_mem tallies.values Float64.zero with hzero | hmem
  · rw [hzero] at hmax
    exact absurd hmax (lt_irrefl _)
  · generalize tallies.values.foldl Float64.max Float64.zero = top at hmax hmem ⊢
    rw [values_eq_map_toList] at hmem
    obtain ⟨entry, hentry, rfl⟩ := List.mem_map.1 hmem
    have hkept : (Float64.lt Float64.zero entry.2 && floatClose entry.2 entry.2) = true :=
      Bool.and_eq_true_iff.2 ⟨decide_eq_true hmax, floatClose_self entry.2⟩
    exact List.ne_nil_of_mem (List.mem_map.2 ⟨entry, List.mem_filter.2 ⟨hentry, hkept⟩, rfl⟩)

/-- The shortest prefix at which the hammer falls gives the outcome. -/
theorem hammered_outcome (hhammer : input.pack.document.vote.hammer = true)
    (nonneg : WeightsNonneg input.pack.document voteState badges)
    (hsentinel : SentinelApart (voteRules input voteState badges none)) {later : List Submission}
    (hsubs : dayVotes input = before ++ sub :: later)
    (hbrings : Brings (voteRules input voteState badges none) before sub target)
    (hbefore : NoneBrings (voteRules input voteState badges none) [] before) :
    Hammered (voteRules input voteState badges none) (before ++ [sub]) target
      (countVotes input voteState badges none) := by
  obtain ⟨hfell, htallies, hvotes⟩ := voteDecision_hammered hhammer hsubs hbrings hbefore
  obtain ⟨base, hbase, hreached⟩ := hbrings.reached
  have honly : OnlyMeets (voteDecision input voteState badges none) base target :=
    onlyMeets_hammered (voteWeights_nonneg nonneg) hsentinel hbrings hbefore htallies rfl hbase
  have hdecided : target ≠ noLynchTarget → decideOutcome (voteDecision input voteState badges none) =
      { status := .hammer, winner := some target, contenders := [target] } := by
    intro hslot
    have hliving : Living voteState target := by
      rcases valid_contains.1 hbrings.valid with hnoLynch | hliving
      · exact absurd hnoLynch.2 hslot
      · exact hliving
    have hthreshold := one_le_threshold hliving hbase
    unfold hammerThreshold at hreached
    rw [if_neg (by simpa using hslot)] at hreached
    have hpos : 0 < tallyOf (standing (voteRules input voteState badges none) (before ++ [sub]))
        (voteRules input voteState badges none).weights target :=
      lt_of_lt_of_le (by decide +kernel) (hthreshold.trans hreached)
    have hlisted : (voteDecision input voteState badges none).tallies[target]? =
        some (tallyOf (standing (voteRules input voteState badges none) (before ++ [sub]))
          (voteRules input voteState badges none).weights target) := by
      rw [htallies]
      unfold tallyOf at hpos ⊢
      rw [Std.TreeMap.getD_eq_getD_getElem?] at hpos ⊢
      cases hfound : (tallyVotes (standing (voteRules input voteState badges none)
          (before ++ [sub])) (voteRules input voteState badges none).weights)[target]? with
      | none =>
        rw [hfound] at hpos
        exact absurd hpos (lt_irrefl 0)
      | some tally => rfl
    obtain ⟨hmax, htop⟩ := topContenders_ne_nil hlisted hpos
    rw [decideOutcome_target rfl hbase honly hslot hlisted hpos hreached htop hmax, hfell]
    rfl
  refine ⟨hvotes, htallies, ?_, fun hslot => congrArg VoteDecision.status (hdecided hslot)⟩
  by_cases hslot : target = noLynchTarget
  · rw [if_pos hslot]
    rcases decideOutcome_only rfl hbase honly with hnone | ⟨hother, -⟩
    · exact hnone
    · exact absurd hslot hother
  · rw [if_neg hslot]
    exact congrArg VoteDecision.winner (hdecided hslot)

end Rules

/-! ## Days with a hammer -/

/-- A ballot cast at this turn of the first day. -/
def dayBallotAt (turn : Nat) (actor target : SlotId) : Submission where
  actionId := actor
  actor
  templateId := "day_vote"
  targets := [target]
  phaseId := .first .day
  submittedAt := turn

/-- A first day with the hammer, on which a hated slot's threshold is two lower. -/
def hammerDay (slots : List SlotState) (ballots : List Submission) : ResolutionInput Rat :=
  let plain := villagePack []
  let pack : Pack Rat :=
    { plain with
      roles := plain.roles.insert "hated" { alignment := some "town" }
      vote :=
        { plain.vote with
          hammer := true
          thresholdAdjustments := (∅ : BTreeMap RoleKey Rat).insert "hated" (-2) } }
  village ⟨pack, [], .of_plain (by decide) rfl rfl⟩ { phaseId := .first .day, slots } ballots

theorem hammerDay_nonneg (slots : List SlotState) (ballots : List Submission) :
    WeightsNonneg (hammerDay slots ballots).pack.document (hammerDay slots ballots).state [] where
  roles _ hweights := absurd hweights (by simp [hammerDay, village, villagePack])
  base _ hweights := absurd hweights (by simp [hammerDay, village, villagePack])
  effects _ hweights := absurd hweights (by simp [hammerDay, village, villagePack])
  grants _ hgrant := absurd hgrant List.not_mem_nil
  badges _ hbadge := absurd hbadge List.not_mem_nil

/-- Four townies and a goon. Three ballots are for the goon; the two after them change minds. -/
def goonDay : ResolutionInput Rat :=
  hammerDay [townie "a", townie "b", townie "c", townie "d", goon "e"]
    [dayBallotAt 0 "a" "e", dayBallotAt 1 "b" "e", dayBallotAt 2 "c" "e", dayBallotAt 3 "d" "a",
      { dayBallotAt 4 "a" "e" with actionId := "x", withdrawn := true }]

/-- A hated slot has the id of the no-lynch option. It takes two votes, and casts one for another hated
slot. -/
def sentinelDay : ResolutionInput Rat :=
  hammerDay [{ townie noLynchTarget with roleKey := "hated" }, { townie "t" with roleKey := "hated" },
      townie "a", townie "b"]
    [dayBallotAt 0 "a" noLynchTarget, dayBallotAt 1 "b" noLynchTarget, dayBallotAt 2 noLynchTarget "t"]

end Fmarch.Resolver
