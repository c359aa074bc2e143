import Mathlib.GroupTheory.Perm.List
import Fmarch.Resolver.Shape

/-!
# What a list of redirects does to a target

`build_redirect_rules` lists the rewrites of all redirect actions, in ability order, as the rules of their
groups, and `apply_redirect_rules` walks that list once for each target: a rule applies where the target
is by then its source, and a group applies at most once.

**`resolveRedirects_composes`**: unless the loop cap cut the list, every redirected target is sent where the
actions' own maps, composed in ability order, send it. A swap's map is the transposition of its targets, a
rotation's the cyclic permutation of its targets where these are distinct (`rotated_eq_formPerm`), a
retarget's the override of its first target, and a pull's the override of the slots that some action
aims at. With swaps and such rotations only, the composed map is injective.
-/

namespace Fmarch.Resolver

open Fmarch.Domain Keyed

variable {F : Type} [Float64 F]

/-! ## The maps of the actions -/

/-- The slot after the first occurrence of a slot that another slot follows; a slot that is no target
stays. -/
def rotated (targets : List SlotId) (slot : SlotId) : SlotId :=
  match (targets.zip (targets.rotate 1)).find? fun pair => pair.1 == slot && pair.1 != pair.2 with
  | some (_, next) => next
  | none => slot

/-- The map of one redirect action. `targetSpace` are the slots that the actions to be redirected aim
at. -/
def ownMap (targetSpace : List SlotId) (action : Action F) : SlotId → SlotId :=
  match action.template.redirect, action.targets with
  | some .swap, [first, second] => Equiv.swap first second
  | some .rotate, first :: second :: third :: rest => rotated (first :: second :: third :: rest)
  | some .retarget, [first, second] => Function.update id first second
  | some .pull, targets => fun slot =>
    if slot ∈ targetSpace then targets.head?.getD action.sub.actor else slot
  | _, _ => id

/-- The redirect actions that are not blocked, in ability order. -/
def liveRedirects (actions : List (Action F)) : List (Action F) :=
  ((abilityOrder actions .redirect).map (·.2)).filter (!·.blocked)

/-- The maps of the redirect actions, one after the other. -/
def composedMap (actions : List (Action F)) (slot : SlotId) : SlotId :=
  (liveRedirects actions).foldl
    (fun slot action => ownMap (redirectTargetSpace actions) action slot) slot

theorem zip_rotate_one {targets : List SlotId} (distinct : targets.Nodup) :
    targets.zip (targets.rotate 1) = targets.map fun slot => (slot, List.formPerm targets slot) := by
  refine List.ext_getElem (by simp) fun i hi _ => ?_
  have hlt : i < targets.length := by simpa using hi
  rw [List.getElem_zip, List.getElem_rotate, List.getElem_map,
    List.formPerm_apply_getElem targets distinct i hlt]

/-- On distinct targets a rotation is their cyclic permutation. -/
theorem rotated_eq_formPerm {targets : List SlotId} (distinct : targets.Nodup) :
    rotated targets = List.formPerm targets := by
  funext slot
  unfold rotated
  rw [zip_rotate_one distinct]
  split
  · rename_i source following hfound
    obtain ⟨other, -, hpair⟩ := List.mem_map.1 (List.mem_of_find?_eq_some hfound)
    have hmatch := List.find?_some hfound
    simp only [Bool.and_eq_true, beq_iff_eq] at hmatch
    rw [Prod.mk.injEq] at hpair
    rw [← hpair.2, hpair.1, hmatch.1]
  · rename_i hnone
    by_cases hslot : slot ∈ targets
    · have hmiss := List.find?_eq_none.1 hnone _ (List.mem_map.2 ⟨slot, hslot, rfl⟩)
      simpa using hmiss
    · exact (List.formPerm_apply_of_notMem hslot).symm

/-! ## One group of rules -/

/-- The rule a group applies to a slot. -/
def groupRule (rules : List RedirectRule) (slot : SlotId) : Option RedirectRule :=
  rules.find? fun rule => rule.source.all (· == slot)

/-- Where a group of rules sends a slot. -/
def groupMap (rules : List RedirectRule) (slot : SlotId) : SlotId :=
  match groupRule rules slot with
  | some rule => rule.target
  | none => slot

theorem groupMap_hit {rule : RedirectRule} {slot : SlotId}
    (h : rule.source.all (· == slot) = true) (rules : List RedirectRule) :
    groupMap (rule :: rules) slot = rule.target := by
  have hfound : groupRule (rule :: rules) slot = some rule := List.find?_cons_of_pos h
  unfold groupMap
  rw [hfound]

theorem groupMap_miss {rule : RedirectRule} {slot : SlotId}
    (h : ¬ rule.source.all (· == slot) = true) (rules : List RedirectRule) :
    groupMap (rule :: rules) slot = groupMap rules slot := by
  have hmissed : groupRule (rule :: rules) slot = groupRule rules slot := List.find?_cons_of_neg h
  unfold groupMap
  rw [hmissed]

theorem groupMap_nil (slot : SlotId) : groupMap [] slot = slot := rfl

theorem groupMap_cons (group : Nat) (source target : SlotId) (rules : List RedirectRule) (slot : SlotId) :
    groupMap (⟨group, some source, target⟩ :: rules) slot =
      if source = slot then target else groupMap rules slot := by
  by_cases hslot : source = slot
  · rw [groupMap_hit (by simpa using hslot), if_pos hslot]
  · rw [groupMap_miss (by simpa using hslot), if_neg hslot]

/-- A pull overrides the slots aimed at. -/
theorem groupMap_pull (group : Nat) (destination : SlotId) (targetSpace : List SlotId) (slot : SlotId) :
    groupMap ((targetSpace.filter (· != destination)).map fun source =>
        ⟨group, some source, destination⟩) slot =
      if slot ∈ targetSpace then destination else slot := by
  induction targetSpace with
  | nil => rfl
  | cons source targetSpace ih =>
    by_cases hkept : source = destination
    · rw [List.filter_cons_of_neg (by simpa using hkept), ih, hkept]
      by_cases hslot : slot = destination
      · have hmem : slot ∈ destination :: targetSpace := hslot ▸ List.mem_cons_self
        rw [if_pos hmem, hslot]
        exact ite_self _
      · simp [hslot]
    · rw [List.filter_cons_of_pos (by simpa using hkept), List.map_cons, groupMap_cons, ih]
      by_cases hslot : source = slot
      · rw [if_pos hslot, if_pos (hslot ▸ List.mem_cons_self)]
      · rw [if_neg hslot]
        simp [Ne.symm hslot]

/-- A rotation sends a slot to the one after it. -/
theorem groupMap_rotate (group : Nat) (pairs : List (SlotId × SlotId)) (slot : SlotId) :
    groupMap ((pairs.filter fun (source, target) => source != target).map fun (source, target) =>
        ⟨group, some source, target⟩) slot =
      match pairs.find? fun pair => pair.1 == slot && pair.1 != pair.2 with
      | some (_, following) => following
      | none => slot := by
  induction pairs with
  | nil => rfl
  | cons pair pairs ih =>
    obtain ⟨source, target⟩ := pair
    by_cases hmoves : source = target
    · rw [List.filter_cons_of_neg (by simpa using hmoves), ih, List.find?_cons_of_neg (by simp [hmoves])]
    · rw [List.filter_cons_of_pos (by simpa using hmoves), List.map_cons, groupMap_cons, ih]
      by_cases hslot : source = slot
      · rw [if_pos hslot, List.find?_cons_of_pos (by simp [hslot, hslot ▸ hmoves])]
      · rw [if_neg hslot, List.find?_cons_of_neg (by simp [hslot])]

omit [Float64 F] in
/-- The rules of one action send a slot where its own map sends it. -/
theorem groupMap_own (targetSpace : List SlotId) (group : Nat) (action : Action F) :
    groupMap (redirectActionRules targetSpace group action) = ownMap targetSpace action := by
  funext slot
  unfold redirectActionRules
  split
  · rename_i first second hredirect htargets
    unfold ownMap
    simp only [hredirect, htargets]
    by_cases hsame : first = second
    · rw [if_pos hsame, groupMap_nil, hsame, Equiv.swap_self]
      rfl
    · rw [if_neg hsame, groupMap_cons, groupMap_cons, groupMap_nil, Equiv.swap_apply_def]
      simp only [eq_comm]
  · rename_i first second third rest hredirect htargets
    unfold ownMap
    simp only [hredirect, htargets]
    rw [groupMap_rotate]
    rfl
  · rename_i first second hredirect htargets
    unfold ownMap
    simp only [hredirect, htargets]
    by_cases hsame : first = second
    · rw [if_pos hsame, groupMap_nil, hsame, Function.update_apply]
      split
      · assumption
      · rfl
    · rw [if_neg hsame, groupMap_cons, groupMap_nil, Function.update_apply]
      simp only [eq_comm, id]
  · rename_i hredirect
    unfold ownMap
    simp only [hredirect]
    exact groupMap_pull group _ targetSpace slot
  · rename_i hpull hswap hrotate hretarget
    have hid : ownMap targetSpace action = id := by
      unfold ownMap
      split
      · rename_i first second hredirect htargets
        exact (hswap first second hredirect htargets).elim
      · rename_i first second third rest hredirect htargets
        exact (hrotate first second third rest hredirect htargets).elim
      · rename_i first second hredirect htargets
        exact (hretarget first second hredirect htargets).elim
      · rename_i hredirect
        exact (hpull hredirect).elim
      · rfl
    rw [hid]
    rfl

/-! ## The walk -/

variable {applied : List Nat} {cap : Nat} {rules : List RedirectRule} {actions : List (Action F)}

/-- A group that has been applied is passed over. -/
theorem redirectTarget_skip {group : Nat} (happlied : group ∈ applied)
    (hgroup : ∀ rule ∈ rules, rule.group = group) (later : List RedirectRule) (current : SlotId) :
    redirectTarget cap (rules ++ later) applied current = redirectTarget cap later applied current := by
  induction rules with
  | nil => rfl
  | cons rule rules ih =>
    have hrest := ih fun other hother => hgroup other (List.mem_cons_of_mem rule hother)
    rw [List.cons_append, redirectTarget, hgroup rule List.mem_cons_self, hrest]
    split
    · cases later with
      | nil => rfl
      | cons next later =>
        rename_i hfull
        rw [redirectTarget, if_pos hfull]
    · rw [if_pos (List.contains_iff_mem.2 happlied)]

/-- A group not applied yet sends the target where its map does, and is applied at most once. -/
theorem redirectTarget_group {group : Nat} (hfresh : group ∉ applied)
    (hgroup : ∀ rule ∈ rules, rule.group = group) {later : List RedirectRule}
    (hcap : applied.length + rules.length ≤ cap) (current : SlotId) :
    ∃ applied', redirectTarget cap (rules ++ later) applied current =
        redirectTarget cap later applied' (groupMap rules current) ∧
      (applied' = applied ∨ applied' = applied ++ [group]) ∧
      applied'.length ≤ applied.length + rules.length := by
  induction rules with
  | nil => exact ⟨applied, rfl, .inl rfl, Nat.le_refl _⟩
  | cons rule rules ih =>
    have hrules : ∀ other ∈ rules, other.group = group :=
      fun other hother => hgroup other (List.mem_cons_of_mem rule hother)
    have hroom : ¬ cap ≤ applied.length := by
      rw [List.length_cons] at hcap
      omega
    rw [List.cons_append, redirectTarget, if_neg hroom, hgroup rule List.mem_cons_self,
      if_neg (by simpa using hfresh)]
    by_cases hsource : rule.source.all (· == current) = true
    · rw [if_pos hsource, redirectTarget_skip (List.mem_append_right _ List.mem_cons_self) hrules]
      refine ⟨applied ++ [group], by rw [groupMap_hit hsource], .inr rfl, ?_⟩
      rw [List.length_append, List.length_cons, List.length_cons, List.length_nil]
      omega
    · obtain ⟨applied', hwalk, happlied, hlength⟩ :=
        ih hrules (by rw [List.length_cons] at hcap; omega)
      refine ⟨applied', by rw [if_neg hsource, hwalk, groupMap_miss hsource], happlied, ?_⟩
      rw [List.length_cons]
      omega

section

omit [Float64 F]

theorem group_redirectActionRules (targetSpace : List SlotId) (group : Nat) (action : Action F) :
    ∀ rule ∈ redirectActionRules targetSpace group action, rule.group = group := by
  intro rule hrule
  unfold redirectActionRules at hrule
  split at hrule
  · split at hrule
    · exact absurd hrule List.not_mem_nil
    · simp only [List.mem_cons, List.not_mem_nil, or_false] at hrule
      rcases hrule with rfl | rfl <;> rfl
  · obtain ⟨pair, -, rfl⟩ := List.mem_map.1 hrule
    rfl
  · split at hrule
    · exact absurd hrule List.not_mem_nil
    · obtain rfl := List.mem_singleton.1 hrule
      rfl
  · obtain ⟨source, -, rfl⟩ := List.mem_map.1 hrule
    rfl
  · exact absurd hrule List.not_mem_nil

/-- The rules of a list of numbered actions send a target where the maps of the actions, one after the
other, send it. -/
theorem redirectTarget_entries (targetSpace : List SlotId) {entries : List (Nat × Action F)}
    (distinct : (entries.map (·.1)).Nodup) (hfresh : ∀ entry ∈ entries, entry.1 ∉ applied)
    (hcap : applied.length + (entries.flatMap fun entry => redirectActionRules targetSpace entry.1 entry.2).length ≤ cap)
    (current : SlotId) :
    redirectTarget cap (entries.flatMap fun entry =>
        redirectActionRules targetSpace entry.1 entry.2) applied current =
      (entries.map (·.2)).foldl (fun slot action => ownMap targetSpace action slot) current := by
  induction entries generalizing applied current with
  | nil => rfl
  | cons entry entries ih =>
    rw [List.map_cons, List.nodup_cons] at distinct
    rw [List.flatMap_cons, List.length_append] at hcap
    have hroom : applied.length + (redirectActionRules targetSpace entry.1 entry.2).length ≤ cap := by
      omega
    obtain ⟨applied', hwalk, happlied, hlength⟩ := redirectTarget_group
      (hfresh entry List.mem_cons_self) (group_redirectActionRules targetSpace entry.1 entry.2)
      hroom current
    rw [List.flatMap_cons, hwalk, groupMap_own, List.map_cons, List.foldl_cons]
    refine ih distinct.2 (fun other hother hmem => ?_) (by omega) _
    have hold : other.1 ∉ applied := hfresh other (List.mem_cons_of_mem entry hother)
    rcases happlied with rfl | rfl
    · exact hold hmem
    · rcases List.mem_append.1 hmem with hmem | hlast
      · exact hold hmem
      · rw [← List.mem_singleton.1 hlast] at distinct
        exact distinct.1 (List.mem_map.2 ⟨other, hother, rfl⟩)

/-! ## The rules of a night -/

/-- The unblocked redirect actions with their numbers. -/
def liveEntries (actions : List (Action F)) : List (Nat × Action F) :=
  (indexed ((abilityOrder actions .redirect).map (·.2))).filter (!·.2.blocked)

theorem indexed_actions (actions : List (Action F)) : (indexed actions).map (·.2) = actions := by
  unfold indexed
  rw [List.map_map]
  exact List.zipIdx_map_fst 0 actions

theorem liveEntries_actions (actions : List (Action F)) :
    (liveEntries actions).map (·.2) = liveRedirects actions := by
  have hlive : liveEntries actions = (indexed ((abilityOrder actions .redirect).map (·.2))).filter
      ((fun action : Action F => !action.blocked) ∘ fun entry => entry.2) := rfl
  rw [hlive, ← List.filter_map, indexed_actions]
  rfl

theorem liveEntries_distinct (actions : List (Action F)) : ((liveEntries actions).map (·.1)).Nodup := by
  refine List.Nodup.sublist (List.filter_sublist.map _) ?_
  unfold indexed
  rw [List.map_map]
  show (((abilityOrder actions .redirect).map (·.2)).zipIdx.map (·.2)).Nodup
  rw [List.zipIdx_map_snd]
  exact List.nodup_range'

/-- A list of rules that the cap did not cut has the rules of every unblocked action. -/
theorem collectRedirectRules_untruncated {targetSpace : List SlotId} {entries : List (Nat × Action F)}
    (h : (collectRedirectRules cap targetSpace rules entries).2 = false) :
    (collectRedirectRules cap targetSpace rules entries).1 =
      rules ++ (entries.filter (!·.2.blocked)).flatMap fun entry =>
        redirectActionRules targetSpace entry.1 entry.2 := by
  induction entries generalizing rules with
  | nil => simp [collectRedirectRules]
  | cons entry entries ih =>
    obtain ⟨group, action⟩ := entry
    rw [collectRedirectRules] at h ⊢
    cases hblocked : action.blocked with
    | true =>
      rw [hblocked, if_pos rfl] at h
      rw [if_pos rfl, ih h, List.filter_cons_of_neg (by simp [hblocked])]
    | false =>
      rw [hblocked, if_neg (by simp)] at h
      rw [if_neg (by simp)]
      split at h
      · cases h
      · rename_i hroom
        rw [if_neg hroom, ih h, List.filter_cons_of_pos (by simp [hblocked]), List.flatMap_cons,
          List.append_assoc]

end

/-- The rules of a night whose redirect graph the cap did not cut. -/
theorem buildRedirectRules_untruncated {pack : Pack F} (h : (buildRedirectRules actions pack).2 = false) :
    (buildRedirectRules actions pack).1 = ((liveEntries actions).flatMap fun entry =>
        redirectActionRules (redirectTargetSpace actions) entry.1 entry.2) ∧
      (buildRedirectRules actions pack).1.length ≤ pack.redirects.loopCap := by
  unfold buildRedirectRules at h ⊢
  dsimp only at h ⊢
  obtain ⟨huncut, hfits⟩ := Bool.or_eq_false_iff.1 h
  have hrules := collectRedirectRules_untruncated huncut
  rw [List.nil_append] at hrules
  have hlength := of_decide_eq_false hfits
  rw [List.take_of_length_le (by omega), hrules]
  rw [hrules] at hlength
  exact ⟨rfl, by omega⟩

/-! ## The composed map -/

/-- Unless the cap cut the rules, a target is sent where the composed map sends it. -/
theorem applyRedirectRules_composes {pack : Pack F}
    (h : (buildRedirectRules actions pack).2 = false) (target : SlotId) :
    applyRedirectRules target (buildRedirectRules actions pack).1 pack.redirects.loopCap =
      composedMap actions target := by
  obtain ⟨hrules, hlength⟩ := buildRedirectRules_untruncated h
  unfold applyRedirectRules composedMap
  rw [hrules] at hlength ⊢
  rw [redirectTarget_entries _ (liveEntries_distinct actions) (fun _ _ => List.not_mem_nil)
    (by rw [List.length_nil]; omega), liveEntries_actions]

/-- A swap, or a rotation of distinct targets. -/
def Permutes (action : Action F) : Prop :=
  action.template.redirect = some .swap ∨ action.template.redirect = some .rotate ∧ action.targets.Nodup

instance (action : Action F) : Decidable (Permutes action) :=
  inferInstanceAs (Decidable (_ ∨ _))

section

omit [Float64 F]

theorem Permutes.injective {action : Action F} (h : Permutes action) (targetSpace : List SlotId) :
    Function.Injective (ownMap targetSpace action) := by
  have hkind : ∀ kind, action.template.redirect = some kind → kind = .swap ∨ kind = .rotate := by
    intro kind hredirect
    rcases h with hswap | ⟨hrotate, -⟩
    · exact .inl (Option.some.inj (hredirect.symm.trans hswap))
    · exact .inr (Option.some.inj (hredirect.symm.trans hrotate))
  unfold ownMap
  split
  · exact Equiv.injective _
  · rename_i first second third rest hrotate htargets
    have hdistinct : (first :: second :: third :: rest).Nodup := by
      rcases h with hswap | ⟨-, hdistinct⟩
      · cases hrotate.symm.trans hswap
      · exact htargets ▸ hdistinct
    rw [rotated_eq_formPerm hdistinct]
    exact Equiv.injective _
  · rename_i hretarget _
    exact absurd (hkind _ hretarget) (by simp)
  · rename_i hpull
    exact absurd (hkind _ hpull) (by simp)
  · exact Function.injective_id

theorem composedMap_injective (h : ∀ action ∈ liveRedirects actions, Permutes action) :
    Function.Injective (composedMap actions) := by
  unfold composedMap
  generalize redirectTargetSpace actions = targetSpace
  generalize liveRedirects actions = live at h
  induction live with
  | nil => exact fun _ _ heq => heq
  | cons action live ih =>
    have hrest := ih fun other hother => h other (List.mem_cons_of_mem action hother)
    exact hrest.comp ((h action List.mem_cons_self).injective targetSpace)

/-- A rotation of three or more distinct targets. -/
theorem ownMap_rotate (targetSpace : List SlotId) {action : Action F}
    (hrotate : action.template.redirect = some .rotate) (hlength : 3 ≤ action.targets.length)
    (distinct : action.targets.Nodup) :
    ownMap targetSpace action = List.formPerm action.targets := by
  unfold ownMap
  split
  · rename_i first second hswap htargets
    cases hrotate.symm.trans hswap
  · rename_i first second third rest _ htargets
    rw [htargets] at distinct ⊢
    exact rotated_eq_formPerm distinct
  · rename_i first second hretarget htargets
    cases hrotate.symm.trans hretarget
  · rename_i hpull
    cases hrotate.symm.trans hpull
  · rename_i hpull _ hnone _
    match htargets : action.targets with
    | [] | [_] | [_, _] => simp [htargets] at hlength
    | first :: second :: third :: rest => exact (hnone first second third rest hrotate htargets).elim

end

/-- **A night whose redirect rules the cap did not cut sends every target of the actions it redirects
where the own maps of its redirect actions, composed in ability order, send it. A rotation of distinct
targets is their cyclic permutation; with swaps and such rotations only, the composed map is
injective.** -/
theorem resolveRedirects_composes (pack : Pack F) (empowered : BTreeSet SlotId)
    (actions : List (Action F)) (h : (buildRedirectRules actions pack).2 = false) :
    (∀ target, applyRedirectRules target (buildRedirectRules actions pack).1
        pack.redirects.loopCap = composedMap actions target) ∧
    (resolveRedirects pack empowered actions).1 = actions.map (fun action =>
      if action.blocked || !redirectEligible action || empowered.contains action.sub.actor then action
      else { action with targets := action.targets.map (composedMap actions) }) ∧
    (∀ targetSpace, ∀ action ∈ liveRedirects actions, action.template.redirect = some .rotate →
      3 ≤ action.targets.length → action.targets.Nodup →
      ownMap targetSpace action = List.formPerm action.targets) ∧
    ((∀ action ∈ liveRedirects actions, Permutes action) → Function.Injective (composedMap actions)) := by
  refine ⟨applyRedirectRules_composes h, ?_, fun targetSpace _ _ => ownMap_rotate targetSpace,
    composedMap_injective⟩
  unfold resolveRedirects
  refine List.map_congr_left fun action _ => ?_
  split
  · rfl
  · have htargets : action.targets.map (fun target => applyRedirectRules target
        (buildRedirectRules actions pack).1 pack.redirects.loopCap) =
        action.targets.map (composedMap actions) :=
      List.map_congr_left fun target _ => applyRedirectRules_composes h target
    rw [htargets]

/-! ## A night of a swap and a rotation -/

/-- A night action that is not blocked. -/
def nightMove (id : String) (actor : SlotId) (template : ActionTemplate Rat)
    (targets : List SlotId) : Action Rat where
  sub := { actionId := id, actor, templateId := template.id, targets, phaseId := .first .night,
           submittedAt := 0 }
  template
  targets
  blocked := false

/-- `"a"` and `"b"` are swapped, then `"b"`, `"c"` and `"d"` are rotated; a visit goes to `"a"`. -/
def swapAndRotate : List (Action Rat) :=
  [nightMove "1" "x" { nightAction "swap" .redirect 0 [] [] with redirect := some .swap } ["a", "b"],
    nightMove "2" "y" { nightAction "rotate" .redirect 0 [] [] with redirect := some .rotate }
      ["b", "c", "d"],
    nightMove "3" "z" (nightAction "visit" .visit 0 [] []) ["a"]]

/-- The visit to `"a"` goes to `"b"` by the swap and on to `"c"` by the rotation. -/
theorem swapAndRotate_composes :
    applyRedirectRules "a" (buildRedirectRules swapAndRotate (villagePack [])).1 8 = "c" ∧
      composedMap swapAndRotate "a" = "c" ∧ Function.Injective (composedMap swapAndRotate) := by
  have hvisit : applyRedirectRules "a" (buildRedirectRules swapAndRotate (villagePack [])).1 8 = "c" := by
    decide +kernel
  obtain ⟨hcomposes, -, -, hinjective⟩ :=
    resolveRedirects_composes (villagePack []) ∅ swapAndRotate (by decide +kernel)
  refine ⟨hvisit, (hcomposes "a").symm.trans hvisit, hinjective ?_⟩
  decide +kernel

end Fmarch.Resolver
