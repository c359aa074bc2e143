import Mathlib.Dynamics.FixedPoints.Basic
import Fmarch.Lib.RuleClosure
import Fmarch.Resolver.RedirectMaps

/-!
# Who is suppressed and who is empowered

The Block stage picks its candidates from the block sources, then asks which marks empower somebody: a
candidate's mark counts once its own actor is empowered, and the candidates whose actors are not are
suppressed. The two sets thus depend on each other, also in a circle.

**`resolveSuppression_fixpoint`**: the empowered slots are the least fixpoint of the two rules and the
suppressed actions the greatest, the loop of `discover_empowered_slots` ends in it, actions may be
reordered as long as no source that is used up by one action loses its first one, and the Redirect stage
finds the empowered slots of the Block stage. `markCircle_suppressed` are two candidates that could
empower each other and do not.
-/

namespace Fmarch.Resolver

open Fmarch.Domain Keyed Saturation StableSort

variable {F : Type} [Float64 F]

/-! ## The rules -/

/-- A mark that empowers its targets. -/
def Empowers (pack : Pack F) (action : Action F) : Prop :=
  action.blocked = false ∧ action.hasAbility .mark = true ∧
    ∃ effect ∈ pack.nightResolution.empowerEffects, action.template.effect = some effect

/-- The candidates of the Block stage. -/
def blockCandidates (pack : Pack F) (actions : List (Action F)) : List (Nat × Action F) :=
  selectBlockCandidates pack (indexBlockSources actions pack) [] (indexed actions)

/-- The slots that the marks outside a set of positions empower. -/
def empoweredBy (pack : Pack F) (actions : List (Action F)) (suppressed : Set Nat) : Set SlotId :=
  {slot | ∃ index action, actions[index]? = some action ∧ index ∉ suppressed ∧
    Empowers pack action ∧ slot ∈ action.targets}

/-- The positions of the candidates whose actors are outside a set of slots. -/
def suppressedBy (pack : Pack F) (actions : List (Action F)) (empowered : Set SlotId) : Set Nat :=
  {index | ∃ action, (index, action) ∈ blockCandidates pack actions ∧
    action.sub.actor ∉ empowered}

/-- The positions of the actions that the Block stage blocks. -/
def suppressed (pack : Pack F) (actions : List (Action F)) : Set Nat :=
  {index | ∃ before after, actions[index]? = some before ∧ before.blocked = false ∧
    (resolveSuppression pack actions).1[index]? = some after ∧ after.blocked = true}

/-- The slots that the Block stage finds empowered. -/
def empowered (pack : Pack F) (actions : List (Action F)) : Set SlotId :=
  {slot | slot ∈ (resolveSuppression pack actions).2.2}

/-! ## The marks as rules -/

/-- The effect of a mark that is not blocked empowers. -/
def empoweringMark (effects : List Tag) (action : Action F) : Bool :=
  !action.blocked && action.hasAbility .mark && action.template.effect.any effects.contains

/-- A mark, with whether its action is to be blocked, empowers its targets unless its action is to be
blocked and its actor is not empowered. -/
def markRules (effects : List Tag) : Rules SlotId (Action F × Bool) where
  enabled entry slots :=
    empoweringMark effects entry.1 && (!entry.2 || slots.contains entry.1.sub.actor)
  adds entry := entry.1.targets
  mono entry small large hsub henabled := by
    simp only [Bool.and_eq_true, Bool.or_eq_true, Bool.not_eq_true'] at henabled ⊢
    refine ⟨henabled.1, henabled.2.imp id fun hactor => ?_⟩
    exact Std.TreeSet.contains_iff_mem.2 (hsub _ (Std.TreeSet.contains_iff_mem.1 hactor))

/-- The actions, each with whether its position is among some. -/
def flagAt (blockedIndices : List Nat) (actions : List (Action F)) : List (Action F × Bool) :=
  (indexed actions).map fun (index, action) => (action, blockedIndices.contains index)

variable {action : Action F} {pack : Pack F} {actions reordered : List (Action F)}
   {blockedIndices : List Nat} {slot : SlotId} {index : Nat} {consumed : List (SlotId × String)}
   {sources : BTreeMap SlotId (List BlockSource)}

theorem empoweringMark_iff :
    empoweringMark pack.nightResolution.empowerEffects action = true ↔ Empowers pack action := by
  unfold empoweringMark Empowers
  simp only [Bool.and_eq_true, Bool.not_eq_true', Option.any_eq_true_iff_get, and_assoc]
  constructor
  · rintro ⟨hlive, hmark, heffect, hmem⟩
    exact ⟨hlive, hmark, _, List.contains_iff_mem.1 hmem, (Option.some_get heffect).symm⟩
  · rintro ⟨hlive, hmark, effect, hmem, heffect⟩
    exact ⟨hlive, hmark, by simp [heffect], by simpa [heffect] using hmem⟩

section

omit [Float64 F]

theorem empowerAction_fire (effects : List Tag) (blockedIndices : List Nat)
    (slots : BTreeSet SlotId) (entry : Nat × Action F) :
    empowerAction effects blockedIndices slots entry =
      (markRules effects).fire slots (entry.2, blockedIndices.contains entry.1) := by
  obtain ⟨index, action⟩ := entry
  have hfire : (markRules effects).fire slots (action, blockedIndices.contains index) =
      if empoweringMark effects action && (!blockedIndices.contains index || slots.contains action.sub.actor)
      then slots.insertMany action.targets else slots := rfl
  rw [hfire]
  unfold empowerAction empoweringMark
  dsimp only
  cases hblocked : action.blocked with
  | true => simp
  | false =>
    cases hmark : action.hasAbility .mark with
    | false => simp
    | true =>
      cases heffect : action.template.effect with
      | none => simp
      | some effect =>
        cases effects.contains effect <;> cases blockedIndices.contains index <;>
          cases slots.contains action.sub.actor <;> simp

theorem empowerLoop_closure (effects : List Tag) (blockedIndices : List Nat)
    (actions : List (Action F)) (fuel : Nat) :
    empowerLoop effects blockedIndices (indexed actions) fuel ∅ =
      (markRules effects).closure (flagAt blockedIndices actions) fuel := by
  have hpass : ∀ slots : BTreeSet SlotId,
      (indexed actions).foldl (empowerAction effects blockedIndices) slots =
        (markRules effects).pass (flagAt blockedIndices actions) slots := by
    intro slots
    unfold Rules.pass flagAt
    rw [List.foldl_map]
    congr 1
    funext slots entry
    exact empowerAction_fire effects blockedIndices slots entry
  unfold Rules.closure
  generalize (∅ : BTreeSet SlotId) = slots
  induction fuel generalizing slots with
  | zero => rfl
  | succ fuel ih =>
    unfold empowerLoop saturate
    rw [hpass]
    dsimp only
    split
    · rfl
    · exact ih _

theorem flagAt_targets (blockedIndices : List Nat) (actions : List (Action F)) (effects : List Tag) :
    ((markRules effects).space (flagAt blockedIndices actions)).length =
      (actions.map (·.targets.length)).sum := by
  have hactions : (flagAt blockedIndices actions).map (·.1) = actions := by
    unfold flagAt
    rw [List.map_map]
    exact indexed_actions actions
  have hspace : (markRules effects).space (flagAt blockedIndices actions) =
      ((flagAt blockedIndices actions).map (·.1)).flatMap (·.targets) := by
    rw [List.flatMap_map]
    rfl
  rw [hspace, hactions, List.length_flatMap]

theorem flagAt_enough (blockedIndices : List Nat) (actions : List (Action F)) (effects : List Tag) :
    ((markRules effects).space (flagAt blockedIndices actions)).length <
      (actions.map (·.targets.length)).sum + 1 := by
  rw [flagAt_targets]
  exact Nat.lt_succ_self _

theorem mem_flagAt {entry : Action F × Bool} : entry ∈ flagAt blockedIndices actions ↔
      ∃ index, actions[index]? = some entry.1 ∧ entry.2 = blockedIndices.contains index := by
  unfold flagAt indexed
  rw [List.map_map, List.mem_map]
  constructor
  · rintro ⟨⟨action, index⟩, hzip, rfl⟩
    exact ⟨index, List.mem_zipIdx_iff_getElem?.1 hzip, rfl⟩
  · rintro ⟨index, haction, hflag⟩
    refine ⟨(entry.1, index), List.mem_zipIdx_iff_getElem?.2 haction, ?_⟩
    simp only [Function.comp]
    rw [← hflag]

end

/-- Without empower effects nothing is empowered; else the loop has enough fuel. -/
theorem mem_discover_closure : slot ∈ discoverEmpoweredSlots actions pack blockedIndices ↔
      slot ∈ (markRules pack.nightResolution.empowerEffects).closure (flagAt blockedIndices actions)
        ((actions.map (·.targets.length)).sum + 1) := by
  unfold discoverEmpoweredSlots
  split
  · rename_i hempty
    refine iff_of_false Std.TreeSet.not_mem_emptyc fun hmem => ?_
    have hnone : (markRules pack.nightResolution.empowerEffects).Within
        (flagAt blockedIndices actions) ∅ := by
      intro entry _ small _ henabled
      have hmark : empoweringMark pack.nightResolution.empowerEffects entry.1 = true :=
        (Bool.and_eq_true_iff.1 henabled).1
      obtain ⟨-, -, effect, heffect, -⟩ := empoweringMark_iff.1 hmark
      rw [List.isEmpty_iff.1 hempty] at heffect
      exact absurd heffect List.not_mem_nil
    exact Rules.closure_within hnone _ slot hmem
  · rw [empowerLoop_closure]

/-- A slot is empowered where a mark that is not to be blocked, or whose actor is empowered, targets
it. -/
theorem mem_discoverEmpoweredSlots : slot ∈ discoverEmpoweredSlots actions pack blockedIndices ↔
      ∃ index action, actions[index]? = some action ∧ Empowers pack action ∧ (index ∈ blockedIndices →
          action.sub.actor ∈ discoverEmpoweredSlots actions pack blockedIndices) ∧
        slot ∈ action.targets := by
  rw [mem_discover_closure, Rules.mem_closure (flagAt_enough blockedIndices actions _)]
  constructor
  · rintro ⟨entry, hentry, henabled, htarget⟩
    obtain ⟨index, haction, hflag⟩ := mem_flagAt.1 hentry
    obtain ⟨hmark, hactor⟩ := Bool.and_eq_true_iff.1 henabled
    refine ⟨index, entry.1, haction, empoweringMark_iff.1 hmark, fun hblocked => ?_, htarget⟩
    rw [hflag, List.contains_iff_mem.2 hblocked] at hactor
    exact mem_discover_closure.2 (Std.TreeSet.contains_iff_mem.1 (by simpa using hactor))
  · rintro ⟨index, action, haction, hempowers, hactor, htarget⟩
    refine ⟨(action, blockedIndices.contains index), mem_flagAt.2 ⟨index, haction, rfl⟩,
      Bool.and_eq_true_iff.2 ⟨empoweringMark_iff.2 hempowers, ?_⟩, htarget⟩
    cases hblocked : blockedIndices.contains index with
    | false => rfl
    | true =>
      have hmem := mem_discover_closure.1 (hactor (List.contains_iff_mem.1 hblocked))
      simpa using hmem

/-- No larger set is needed: the empowered slots are in every set that the marks which count in it do
not leave. -/
theorem discoverEmpoweredSlots_within {bound : Set SlotId}
    (h : ∀ index action, actions[index]? = some action → Empowers pack action → (index ∈ blockedIndices → action.sub.actor ∈ bound) → ∀ slot ∈ action.targets, slot ∈ bound) :
    ∀ slot ∈ discoverEmpoweredSlots actions pack blockedIndices, slot ∈ bound := by
  intro slot hslot
  have hbound : (markRules pack.nightResolution.empowerEffects).Within
      (flagAt blockedIndices actions) bound := by
    intro entry hentry small hsmall henabled
    obtain ⟨index, haction, hflag⟩ := mem_flagAt.1 hentry
    obtain ⟨hmark, hactor⟩ := Bool.and_eq_true_iff.1 henabled
    refine h index entry.1 haction (empoweringMark_iff.1 hmark) fun hblocked => ?_
    rw [hflag, List.contains_iff_mem.2 hblocked] at hactor
    exact hsmall _ (Std.TreeSet.contains_iff_mem.1 (by simpa using hactor))
  exact Rules.closure_within hbound _ slot (mem_discover_closure.1 hslot)

/-! ## The stage -/

omit [Float64 F] in
theorem mem_indexed : (index, action) ∈ indexed actions ↔ actions[index]? = some action := by
  unfold indexed
  rw [List.mem_map]
  constructor
  · rintro ⟨⟨other, position⟩, hzip, heq⟩
    rw [Prod.mk.injEq] at heq
    rw [← heq.1, ← heq.2]
    exact List.mem_zipIdx_iff_getElem?.1 hzip
  · exact fun haction => ⟨(action, index), List.mem_zipIdx_iff_getElem?.2 haction, rfl⟩

theorem selectBlockCandidates_mem {entries : List (Nat × Action F)} {entry : Nat × Action F}
    (h : entry ∈ selectBlockCandidates pack sources consumed entries) :
    entry ∈ entries ∧ entry.2.blocked = false := by
  induction entries generalizing consumed with
  | nil => exact absurd h List.not_mem_nil
  | cons first entries ih =>
    unfold selectBlockCandidates at h
    split at h
    · exact (ih h).imp_left (List.mem_cons_of_mem first)
    · rename_i hlive
      dsimp only at h
      split at h
      · exact (ih h).imp_left (List.mem_cons_of_mem first)
      · rcases List.mem_cons.1 h with rfl | hlater
        · exact ⟨List.mem_cons_self, by simpa using hlive⟩
        · exact (ih hlater).imp_left (List.mem_cons_of_mem first)

theorem mem_blockCandidates (h : (index, action) ∈ blockCandidates pack actions) :
    actions[index]? = some action ∧ action.blocked = false :=
  (selectBlockCandidates_mem h).imp_left mem_indexed.1

/-- The stage blocks the candidates whose actors are not empowered. -/
theorem getElem?_resolveSuppression (pack : Pack F) (actions : List (Action F)) (index : Nat) :
    (resolveSuppression pack actions).1[index]? = actions[index]?.map fun action =>
      if index ∈ (blockCandidates pack actions).map (·.1) ∧
          action.sub.actor ∉ (resolveSuppression pack actions).2.2 then
        { action with blocked := true }
      else action := by
  have hstage : (resolveSuppression pack actions).1 =
      ((blockCandidates pack actions).filter fun (_, action) =>
        !(resolveSuppression pack actions).2.2.contains action.sub.actor).foldl
          (fun actions (index, _) => setBlocked actions index) actions := rfl
  rw [hstage, getElem?_setBlockedAll]
  cases haction : actions[index]? with
  | none => rfl
  | some action =>
    simp only [Option.map_some]
    congr 1
    refine if_congr ?_ rfl rfl
    have hmiss : ∀ slot, (!(resolveSuppression pack actions).2.2.contains slot) = true ↔
        slot ∉ (resolveSuppression pack actions).2.2 := by
      intro slot
      rw [← Std.TreeSet.contains_iff_mem, Bool.not_eq_true', Bool.not_eq_true]
    simp only [List.mem_map, List.mem_filter, hmiss]
    constructor
    · rintro ⟨⟨position, candidate⟩, ⟨hcandidate, hactor⟩, rfl⟩
      obtain rfl := Option.some.inj (haction.symm.trans (mem_blockCandidates hcandidate).1)
      exact ⟨⟨_, hcandidate, rfl⟩, hactor⟩
    · rintro ⟨⟨⟨position, candidate⟩, hcandidate, rfl⟩, hactor⟩
      obtain rfl := Option.some.inj (haction.symm.trans (mem_blockCandidates hcandidate).1)
      exact ⟨_, ⟨hcandidate, hactor⟩, rfl⟩

/-- The stage finds empowered the slots that `discover_empowered_slots` finds for its candidates. -/
theorem mem_empowered : slot ∈ empowered pack actions ↔ ∃ index action, actions[index]? = some action ∧
      Empowers pack action ∧
      (index ∈ (blockCandidates pack actions).map (·.1) → action.sub.actor ∈ empowered pack actions) ∧
      slot ∈ action.targets := by
  have hstage : (resolveSuppression pack actions).2.2 =
      discoverEmpoweredSlots actions pack ((blockCandidates pack actions).map (·.1)) := rfl
  unfold empowered
  rw [hstage]
  exact mem_discoverEmpoweredSlots

theorem mem_suppressedBy {slots : Set SlotId} (h : actions[index]? = some action) :
    index ∈ suppressedBy pack actions slots ↔
      index ∈ (blockCandidates pack actions).map (·.1) ∧ action.sub.actor ∉ slots := by
  constructor
  · rintro ⟨candidate, hcandidate, hactor⟩
    obtain rfl := Option.some.inj (h.symm.trans (mem_blockCandidates hcandidate).1)
    exact ⟨List.mem_map.2 ⟨_, hcandidate, rfl⟩, hactor⟩
  · rintro ⟨hindex, hactor⟩
    obtain ⟨⟨position, candidate⟩, hcandidate, rfl⟩ := List.mem_map.1 hindex
    obtain rfl := Option.some.inj (h.symm.trans (mem_blockCandidates hcandidate).1)
    exact ⟨action, hcandidate, hactor⟩

/-- The stage blocks the actions that its rule suppresses under the slots it finds empowered. -/
theorem suppressed_eq (pack : Pack F) (actions : List (Action F)) :
    suppressed pack actions = suppressedBy pack actions (empowered pack actions) := by
  ext index
  constructor
  · rintro ⟨before, after, hbefore, hlive, hafter, hblocked⟩
    rw [getElem?_resolveSuppression, hbefore, Option.map_some, Option.some.injEq] at hafter
    refine (mem_suppressedBy hbefore).2 ?_
    by_contra hkept
    have hunblocked : ¬ (index ∈ (blockCandidates pack actions).map (·.1) ∧
        before.sub.actor ∉ (resolveSuppression pack actions).2.2) := hkept
    rw [if_neg hunblocked] at hafter
    rw [← hafter, hlive] at hblocked
    cases hblocked
  · rintro ⟨action, hcandidate, hactor⟩
    obtain ⟨haction, hlive⟩ := mem_blockCandidates hcandidate
    have hindex : index ∈ (blockCandidates pack actions).map (·.1) :=
      List.mem_map.2 ⟨_, hcandidate, rfl⟩
    refine ⟨action, { action with blocked := true }, haction, hlive, ?_, rfl⟩
    rw [getElem?_resolveSuppression, haction, Option.map_some, if_pos ⟨hindex, hactor⟩]

theorem empowered_eq (pack : Pack F) (actions : List (Action F)) :
    empowered pack actions = empoweredBy pack actions (suppressed pack actions) := by
  rw [suppressed_eq]
  ext slot
  rw [mem_empowered]
  constructor
  · rintro ⟨index, action, haction, hempowers, hactor, htarget⟩
    refine ⟨index, action, haction, fun hsuppressed => ?_, hempowers, htarget⟩
    obtain ⟨hindex, houtside⟩ := (mem_suppressedBy haction).1 hsuppressed
    exact houtside (hactor hindex)
  · rintro ⟨index, action, haction, hkept, hempowers, htarget⟩
    refine ⟨index, action, haction, hempowers, fun hindex => ?_, htarget⟩
    by_contra houtside
    exact hkept ((mem_suppressedBy haction).2 ⟨hindex, houtside⟩)

/-- A slot is empowered where a mark that is not suppressed empowers it. -/
theorem empowered_iff : slot ∈ empowered pack actions ↔
      ∃ action ∈ (resolveSuppression pack actions).1, Empowers pack action ∧ slot ∈ action.targets := by
  rw [empowered_eq, suppressed_eq]
  constructor
  · rintro ⟨index, action, haction, hkept, hempowers, htarget⟩
    rw [mem_suppressedBy haction] at hkept
    have hafter : (resolveSuppression pack actions).1[index]? = some action := by
      have hunblocked : ¬ (index ∈ (blockCandidates pack actions).map (·.1) ∧
          action.sub.actor ∉ (resolveSuppression pack actions).2.2) := hkept
      rw [getElem?_resolveSuppression, haction, Option.map_some, if_neg hunblocked]
    exact ⟨action, List.mem_of_getElem? hafter, hempowers, htarget⟩
  · rintro ⟨action, hmem, hempowers, htarget⟩
    obtain ⟨index, hafter⟩ := List.mem_iff_getElem?.1 hmem
    rw [getElem?_resolveSuppression] at hafter
    obtain ⟨before, hbefore, hkept⟩ := Option.map_eq_some_iff.1 hafter
    split at hkept
    · rw [← hkept] at hempowers
      exact absurd hempowers.1 (by simp)
    · rename_i hunblocked
      obtain rfl := hkept
      exact ⟨index, before, hbefore, fun hmem => hunblocked ((mem_suppressedBy hbefore).1 hmem),
        hempowers, htarget⟩

/-- Every fixpoint of the two rules has the slots that the stage finds empowered. -/
theorem empowered_least {slots : Set SlotId}
    (h : empoweredBy pack actions (suppressedBy pack actions slots) = slots) :
    empowered pack actions ⊆ slots := by
  intro slot hslot
  refine discoverEmpoweredSlots_within (fun index action haction hempowers hactor slot htarget => ?_)
    slot hslot
  rw [← h]
  refine ⟨index, action, haction, fun hsuppressed => ?_, hempowers, htarget⟩
  obtain ⟨hindex, houtside⟩ := (mem_suppressedBy haction).1 hsuppressed
  exact houtside (hactor hindex)

theorem suppressedBy_anti {small large : Set SlotId} (h : small ⊆ large) : suppressedBy pack actions large ⊆ suppressedBy pack actions small :=
  fun _ ⟨action, hcandidate, hactor⟩ => ⟨action, hcandidate, fun hsmall => hactor (h hsmall)⟩

theorem isLeast_empowered (pack : Pack F) (actions : List (Action F)) :
    IsLeast (Function.fixedPoints fun slots =>
      empoweredBy pack actions (suppressedBy pack actions slots)) (empowered pack actions) := by
  refine ⟨?_, fun slots hfixed => empowered_least hfixed⟩
  show empoweredBy pack actions (suppressedBy pack actions (empowered pack actions)) = _
  rw [← suppressed_eq]
  exact (empowered_eq pack actions).symm

/-- The suppressed positions are the greatest fixpoint of the two rules. -/
theorem isGreatest_suppressed (pack : Pack F) (actions : List (Action F)) :
    IsGreatest (Function.fixedPoints fun positions =>
      suppressedBy pack actions (empoweredBy pack actions positions)) (suppressed pack actions) := by
  refine ⟨?_, fun positions hfixed => ?_⟩
  · show suppressedBy pack actions (empoweredBy pack actions (suppressed pack actions)) = _
    rw [← empowered_eq]
    exact (suppressed_eq pack actions).symm
  · have hpositions : suppressedBy pack actions (empoweredBy pack actions positions) = positions :=
      hfixed
    have hslots : empowered pack actions ⊆ empoweredBy pack actions positions :=
      empowered_least (by rw [hpositions])
    rw [suppressed_eq]
    intro index hindex
    rw [← hpositions] at hindex
    exact suppressedBy_anti hslots hindex

/-! ## The order of the actions -/

/-- The sources that suppress an action that is not blocked. -/
def suppressing (pack : Pack F) (sources : SlotId → List BlockSource)
    (consumed : List (SlotId × String)) (action : Action F) :
    List (BlockSource × SuppressionScope) :=
  if action.blocked then []
  else suppressingSources pack (sources action.sub.actor) consumed action

/-- The first-match sources that an action uses up. -/
def usedUp (action : Action F) (sources : List (BlockSource × SuppressionScope)) : List (SlotId × String) :=
  (sources.filter fun (_, scope) => scope == .firstMatchingAction).map fun (source, _) =>
    (action.sub.actor, source.sourceActionId)

/-- The actions, each with whether it is a candidate. -/
def candidacies (pack : Pack F) (sources : SlotId → List BlockSource) :
    List (SlotId × String) → List (Action F) → List (Action F × Bool)
  | _, [] => []
  | consumed, action :: rest =>
    (action, !(suppressing pack sources consumed action).isEmpty) :: candidacies pack sources
        (consumed ++ usedUp action (suppressing pack sources consumed action)) rest

theorem selectBlockCandidates_cons (pack : Pack F) (sources : BTreeMap SlotId (List BlockSource))
    (consumed : List (SlotId × String)) (index : Nat) (action : Action F)
    (rest : List (Nat × Action F)) :
    selectBlockCandidates pack sources consumed ((index, action) :: rest) =
      (if (suppressing pack (fun slot => sources.getD slot []) consumed action).isEmpty then []
        else [(index, action)]) ++
      selectBlockCandidates pack sources (consumed ++ usedUp action
          (suppressing pack (fun slot => sources.getD slot []) consumed action)) rest := by
  rw [selectBlockCandidates]
  unfold suppressing
  cases hblocked : action.blocked with
  | true => simp [usedUp]
  | false =>
    simp only [Bool.false_eq_true, if_false]
    cases hempty : (suppressingSources pack (sources.getD action.sub.actor []) consumed action).isEmpty with
    | true =>
      rw [List.isEmpty_iff.1 hempty]
      simp [usedUp]
    | false => simp [usedUp]

/-- The positions of a list of actions that starts at some position. -/
def numbered (start : Nat) (actions : List (Action F)) : List (Nat × Action F) :=
  (actions.zipIdx start).map fun (action, index) => (index, action)

theorem selectBlockCandidates_position {start : Nat}
    (h : index ∈ (selectBlockCandidates pack sources consumed (numbered start actions)).map (·.1)) :
    start ≤ index := by
  obtain ⟨⟨position, action⟩, hcandidate, rfl⟩ := List.mem_map.1 h
  obtain ⟨⟨other, place⟩, hzip, heq⟩ := List.mem_map.1 (selectBlockCandidates_mem hcandidate).1
  have hplace : place = position := congrArg Prod.fst heq
  exact hplace ▸ List.le_snd_of_mem_zipIdx hzip

/-- The positions that `select_block_candidates` selects are those of the candidates. -/
theorem flag_selectBlockCandidates (pack : Pack F) (sources : BTreeMap SlotId (List BlockSource))
    (consumed : List (SlotId × String)) (actions : List (Action F)) (start : Nat) :
    (numbered start actions).map (fun (index, action) =>
        (action, ((selectBlockCandidates pack sources consumed (numbered start actions)).map
          (·.1)).contains index)) =
      candidacies pack (fun slot => sources.getD slot []) consumed actions := by
  induction actions generalizing consumed start with
  | nil => rfl
  | cons action rest ih =>
    have hnumbered : numbered start (action :: rest) = (start, action) :: numbered (start + 1) rest := rfl
    rw [candidacies, ← ih _ (start + 1), hnumbered, selectBlockCandidates_cons]
    generalize consumed ++ usedUp action
      (suppressing pack (fun slot => sources.getD slot []) consumed action) = consumed'
    rw [List.map_cons]
    refine congrArg₂ List.cons (Prod.ext rfl ?_) (List.map_congr_left fun entry hentry => Prod.ext rfl ?_)
    · have hlater : ((selectBlockCandidates pack sources consumed'
          (numbered (start + 1) rest)).map (·.1)).contains start = false := by
        rw [Bool.eq_false_iff]
        intro hmem
        have hposition := selectBlockCandidates_position (List.contains_iff_mem.1 hmem)
        omega
      dsimp only
      rw [List.map_append, List.contains_append, hlater, Bool.or_false]
      split <;> rename_i hempty <;> simp [hempty]
    · obtain ⟨index, action'⟩ := entry
      obtain ⟨⟨other, place⟩, hzip, heq⟩ := List.mem_map.1 hentry
      have hplace : place = index := congrArg Prod.fst heq
      have hlater : start + 1 ≤ index := hplace ▸ List.le_snd_of_mem_zipIdx hzip
      dsimp only
      rw [List.map_append, List.contains_append]
      split
      · simp
      · have hne : index ≠ start := by omega
        simp [hne]

theorem mem_suppressing {sources : SlotId → List BlockSource} {entry : BlockSource × SuppressionScope} :
    entry ∈ suppressing pack sources consumed action ↔
      action.blocked = false ∧ entry.1 ∈ sources action.sub.actor ∧
        nightResolutionBlockSuppressionScope pack entry.1 action.template = some entry.2 ∧
        ¬ (entry.2 = .firstMatchingAction ∧ (action.sub.actor, entry.1.sourceActionId) ∈ consumed) := by
  unfold suppressing
  cases hblocked : action.blocked with
  | true => simp
  | false =>
    simp only [Bool.false_eq_true, if_false, true_and]
    unfold suppressingSources
    rw [List.mem_filterMap]
    constructor
    · rintro ⟨source, hsource, hselect⟩
      cases hscope : nightResolutionBlockSuppressionScope pack source action.template with
      | none =>
        rw [hscope] at hselect
        cases hselect
      | some scope =>
        rw [hscope] at hselect
        dsimp only at hselect
        split at hselect
        · cases hselect
        · rename_i hkept
          obtain rfl := Option.some.inj hselect
          exact ⟨hsource, hscope, by simpa using hkept⟩
    · rintro ⟨hsource, hscope, hkept⟩
      refine ⟨entry.1, hsource, ?_⟩
      rw [hscope]
      dsimp only
      rw [if_neg (by simpa using hkept)]

theorem suppressing_congr {sources sources' : SlotId → List BlockSource} {consumed' : List (SlotId × String)}
    (hsources : ∀ source, source ∈ sources action.sub.actor ↔ source ∈ sources' action.sub.actor)
    (hconsumed : ∀ id, (action.sub.actor, id) ∈ consumed ↔ (action.sub.actor, id) ∈ consumed')
    (entry : BlockSource × SuppressionScope) :
    entry ∈ suppressing pack sources consumed action ↔
      entry ∈ suppressing pack sources' consumed' action := by
  rw [mem_suppressing, mem_suppressing, hsources, hconsumed]

theorem isEmpty_congr {α : Type} {xs ys : List α} (h : ∀ x, x ∈ xs ↔ x ∈ ys) : xs.isEmpty = ys.isEmpty := by
  rw [Bool.eq_iff_iff, List.isEmpty_iff, List.isEmpty_iff, List.eq_nil_iff_forall_not_mem,
    List.eq_nil_iff_forall_not_mem]
  exact forall_congr' fun x => not_congr (h x)

omit [Float64 F] in
theorem mem_usedUp {sources : List (BlockSource × SuppressionScope)} {key : SlotId × String} :
    key ∈ usedUp action sources ↔ ∃ source, (source, SuppressionScope.firstMatchingAction) ∈ sources ∧
      key = (action.sub.actor, source.sourceActionId) := by
  unfold usedUp
  rw [List.mem_map]
  constructor
  · rintro ⟨⟨source, scope⟩, hmem, rfl⟩
    obtain ⟨hentry, hscope⟩ := List.mem_filter.1 hmem
    obtain rfl : scope = .firstMatchingAction := by simpa using hscope
    exact ⟨source, hentry, rfl⟩
  · rintro ⟨source, hentry, rfl⟩
    exact ⟨_, List.mem_filter.2 ⟨hentry, by simp⟩, rfl⟩

/-- Who of a slot's actions is a candidate depends on the slot's sources and on what they used up on that
slot, not on how these are listed. -/
theorem candidacies_congr {sources sources' : SlotId → List BlockSource}
    (hsources : ∀ source, source ∈ sources slot ↔ source ∈ sources' slot)
    (hactor : ∀ action ∈ actions, action.sub.actor = slot) {consumed' : List (SlotId × String)}
    (hconsumed : ∀ id, (slot, id) ∈ consumed ↔ (slot, id) ∈ consumed') :
    candidacies pack sources consumed actions = candidacies pack sources' consumed' actions := by
  induction actions generalizing consumed consumed' with
  | nil => rfl
  | cons action rest ih =>
    obtain rfl := hactor action List.mem_cons_self
    have hsame : ∀ entry, entry ∈ suppressing pack sources consumed action ↔
        entry ∈ suppressing pack sources' consumed' action := suppressing_congr hsources hconsumed
    unfold candidacies
    rw [isEmpty_congr hsame]
    refine congrArg _ (ih (fun other hother => hactor other (List.mem_cons_of_mem action hother))
      fun id => ?_)
    rw [List.mem_append, List.mem_append, hconsumed, mem_usedUp, mem_usedUp]
    simp only [hsame]

/-- The candidates among a slot's actions can be found without the other slots' actions. -/
theorem candidacies_filter (pack : Pack F) (sources : SlotId → List BlockSource) (slot : SlotId)
    (consumed : List (SlotId × String)) (actions : List (Action F)) :
    (candidacies pack sources consumed actions).filter (·.1.sub.actor = slot) =
      candidacies pack sources consumed (actions.filter (·.sub.actor = slot)) := by
  induction actions generalizing consumed with
  | nil => rfl
  | cons action rest ih =>
    rw [candidacies]
    by_cases hslot : action.sub.actor = slot
    · rw [List.filter_cons_of_pos (by simpa using hslot),
        List.filter_cons_of_pos (by simpa using hslot), candidacies, ih]
    · rw [List.filter_cons_of_neg (by simpa using hslot), List.filter_cons_of_neg (by simpa using hslot), ih]
      refine candidacies_congr (fun _ => Iff.rfl)
        (fun other hother => by simpa using (List.mem_filter.1 hother).2) fun id => ?_
      rw [List.mem_append, mem_usedUp]
      refine or_iff_left ?_
      rintro ⟨source, -, hkey⟩
      exact hslot (congrArg Prod.fst hkey).symm

/-- Where no source is used up, an action's candidacy is its own. -/
theorem candidacies_map {sources : SlotId → List BlockSource}
    (h : ∀ action ∈ actions, ∀ source ∈ sources action.sub.actor, nightResolutionBlockSuppressionScope pack source action.template ≠ some .firstMatchingAction)
    (consumed : List (SlotId × String)) :
    candidacies pack sources consumed actions =
      actions.map fun action => (action, !(suppressing pack sources [] action).isEmpty) := by
  induction actions generalizing consumed with
  | nil => rfl
  | cons action rest ih =>
    have hsame : ∀ entry, entry ∈ suppressing pack sources consumed action ↔
        entry ∈ suppressing pack sources [] action := by
      intro entry
      rw [mem_suppressing, mem_suppressing]
      refine and_congr_right fun _ => and_congr_right fun hsource => and_congr_right fun hscope => ?_
      have hall : entry.2 ≠ .firstMatchingAction := by
        intro hfirst
        rw [hfirst] at hscope
        exact h action List.mem_cons_self entry.1 hsource hscope
      simp [hall]
    unfold candidacies
    rw [isEmpty_congr hsame, ih fun other hother => h other (List.mem_cons_of_mem action hother)]
    rfl

/-- The source that a block action is. -/
def blockSource (action : Action F) : BlockSource where
  actor := action.sub.actor
  sourceActionId := action.sub.actionId
  templateId := action.template.id

omit [Float64 F] in
theorem mem_insertSources {targets : List SlotId} {added source : BlockSource} :
    source ∈ (targets.foldl (fun sources target =>
        sources.insert target (sources.getD target [] ++ [added])) sources).getD slot [] ↔
      source ∈ sources.getD slot [] ∨ slot ∈ targets ∧ source = added := by
  induction targets generalizing sources with
  | nil => simp
  | cons target targets ih =>
    rw [List.foldl_cons, ih, Std.TreeMap.getD_insert]
    by_cases hslot : compare target slot = .eq
    · obtain rfl := Std.LawfulEqOrd.eq_of_compare hslot
      simp only [hslot, if_true, List.mem_append, List.mem_cons, true_or, true_and]
      tauto
    · have hne : slot ≠ target := by
        rintro rfl
        exact hslot Std.ReflCmp.compare_self
      simp [hslot, hne]

/-- The sources on a slot are the block actions that take part and target it. -/
theorem mem_indexBlockSources {source : BlockSource} :
    source ∈ (indexBlockSources actions pack).getD slot [] ↔
      ∃ action ∈ actions, action.hasAbility .block = true ∧ action.blocked = false ∧
        nightResolutionBlockParticipates pack action.template = true ∧ slot ∈ action.targets ∧
        source = blockSource action := by
  have hfold : ∀ (entries : List (Nat × Action F)) (sources : BTreeMap SlotId (List BlockSource)),
      source ∈ (entries.foldl (fun sources (_, action) =>
        action.targets.foldl (fun sources target =>
          sources.insert target (sources.getD target [] ++ [blockSource action])) sources)
        sources).getD slot [] ↔
      source ∈ sources.getD slot [] ∨
        ∃ entry ∈ entries, slot ∈ entry.2.targets ∧ source = blockSource entry.2 := by
    intro entries
    induction entries with
    | nil => simp
    | cons entry entries ih =>
      intro sources
      rw [List.foldl_cons, ih, mem_insertSources, List.exists_mem_cons_iff, or_assoc]
  have hindexed := hfold ((abilityOrder actions .block).filter fun (_, action) =>
    !action.blocked && nightResolutionBlockParticipates pack action.template) ∅
  refine hindexed.trans ?_
  rw [Std.TreeMap.getD_emptyc, or_iff_right List.not_mem_nil]
  constructor
  · rintro ⟨entry, hentry, htarget, hsource⟩
    obtain ⟨hordered, hlive⟩ := List.mem_filter.1 hentry
    obtain ⟨haction, hability⟩ := mem_abilityOrder hordered
    obtain ⟨hunblocked, hparticipates⟩ := Bool.and_eq_true_iff.1 hlive
    exact ⟨entry.2, haction, hability, by simpa using hunblocked, hparticipates, htarget, hsource⟩
  · rintro ⟨action, haction, hability, hlive, hparticipates, htarget, hsource⟩
    obtain ⟨index, hindex⟩ := List.mem_iff_getElem?.1 haction
    refine ⟨(index, action), List.mem_filter.2 ⟨mem_sortBy.2 (List.mem_map.2 ⟨(action, index), ?_, rfl⟩),
      by simp [hlive, hparticipates]⟩, htarget, hsource⟩
    exact List.mem_filter.2 ⟨List.mem_zipIdx_iff_getElem?.2 hindex, hability⟩

/-- A source that suppresses only the first action it matches reaches an action of a slot. -/
def FirstMatched (pack : Pack F) (actions : List (Action F)) (slot : SlotId) : Prop :=
  ∃ action ∈ actions, action.sub.actor = slot ∧ ∃ source ∈ (indexBlockSources actions pack).getD slot [],
      nightResolutionBlockSuppressionScope pack source action.template = some .firstMatchingAction

/-- Another order of the actions, in which the actions of a slot that such a source reaches stand as they
stood. -/
def Reordered (pack : Pack F) (actions reordered : List (Action F)) : Prop :=
  actions.Perm reordered ∧ ∀ slot, FirstMatched pack actions slot →
    actions.filter (·.sub.actor = slot) = reordered.filter (·.sub.actor = slot)

/-- The actions of a stage, each with whether it is a candidate. -/
def stageCandidacies (pack : Pack F) (actions : List (Action F)) : List (Action F × Bool) :=
  candidacies pack (fun slot => (indexBlockSources actions pack).getD slot []) [] actions

theorem flagAt_blockCandidates (pack : Pack F) (actions : List (Action F)) :
    flagAt ((blockCandidates pack actions).map (·.1)) actions = stageCandidacies pack actions :=
  flag_selectBlockCandidates pack (indexBlockSources actions pack) [] actions 0

theorem Reordered.candidates (h : Reordered pack actions reordered) :
    (stageCandidacies pack actions).Perm (stageCandidacies pack reordered) := by
  have hsources : ∀ slot source, source ∈ (indexBlockSources actions pack).getD slot [] ↔
      source ∈ (indexBlockSources reordered pack).getD slot [] := by
    intro slot source
    rw [mem_indexBlockSources, mem_indexBlockSources]
    simp only [h.1.mem_iff]
  refine perm_of_filter_perm (fun entry : Action F × Bool => entry.1.sub.actor) fun slot => ?_
  unfold stageCandidacies
  rw [candidacies_filter, candidacies_filter]
  have hactor : ∀ {list : List (Action F)}, ∀ action ∈ list.filter (·.sub.actor = slot),
      action.sub.actor = slot :=
    fun action haction => by simpa using (List.mem_filter.1 haction).2
  have hindexed : candidacies pack
        (fun slot => (indexBlockSources reordered pack).getD slot []) []
        (reordered.filter (·.sub.actor = slot)) =
      candidacies pack (fun slot => (indexBlockSources actions pack).getD slot []) []
        (reordered.filter (·.sub.actor = slot)) :=
    candidacies_congr (fun source => (hsources slot source).symm) hactor fun _ => Iff.rfl
  rw [hindexed]
  by_cases hfirst : FirstMatched pack actions slot
  · rw [h.2 slot hfirst]
  · have hunused : ∀ action ∈ actions.filter (·.sub.actor = slot),
        ∀ source ∈ (indexBlockSources actions pack).getD action.sub.actor [],
        nightResolutionBlockSuppressionScope pack source action.template ≠ some .firstMatchingAction := by
      intro action haction source hsource hscope
      rw [hactor action haction] at hsource
      exact hfirst ⟨action, (List.mem_filter.1 haction).1, hactor action haction, source, hsource, hscope⟩
    have hperm : (actions.filter (·.sub.actor = slot)).Perm
        (reordered.filter (·.sub.actor = slot)) := h.1.filter _
    rw [candidacies_map hunused,
      candidacies_map fun action haction => hunused action (hperm.mem_iff.2 haction)]
    exact hperm.map _

/-- The stage blocks an action by its candidacy and its actor alone. -/
theorem resolveSuppression_map (pack : Pack F) (actions : List (Action F)) :
    (resolveSuppression pack actions).1 = (stageCandidacies pack actions).map fun entry =>
      if entry.2 = true ∧ entry.1.sub.actor ∉ (resolveSuppression pack actions).2.2 then
        { entry.1 with blocked := true }
      else entry.1 := by
  refine List.ext_getElem? fun index => ?_
  rw [← flagAt_blockCandidates, getElem?_resolveSuppression]
  unfold flagAt indexed
  rw [List.map_map, List.map_map, List.getElem?_map, List.getElem?_zipIdx]
  cases actions[index]? with
  | none => rfl
  | some action => simp only [Option.map_some, Function.comp, List.contains_iff_mem, Nat.zero_add]

theorem Reordered.empowered_subset
    (h : ∀ entry ∈ stageCandidacies pack actions, entry ∈ stageCandidacies pack reordered) :
    empowered pack actions ⊆ empowered pack reordered := by
  intro slot hslot
  rw [← flagAt_blockCandidates, ← flagAt_blockCandidates] at h
  exact mem_discover_closure.2 (Rules.closure_subset h _ (flagAt_enough _ reordered _) slot
    (mem_discover_closure.1 hslot))

theorem Reordered.empowered (h : Reordered pack actions reordered) :
    empowered pack reordered = empowered pack actions := by
  have hmem := fun entry => h.candidates.mem_iff (a := entry)
  exact Set.Subset.antisymm (empowered_subset fun entry => (hmem entry).2)
    (empowered_subset fun entry => (hmem entry).1)

theorem Reordered.suppressed (h : Reordered pack actions reordered) :
    (resolveSuppression pack actions).1.Perm (resolveSuppression pack reordered).1 := by
  have hsame : ∀ slot, slot ∈ (resolveSuppression pack reordered).2.2 ↔
      slot ∈ (resolveSuppression pack actions).2.2 := fun slot => Set.ext_iff.1 h.empowered slot
  rw [resolveSuppression_map, resolveSuppression_map]
  simp only [hsame]
  exact h.candidates.map _

/-! ## The Redirect stage -/

/-- What the stages between the Block stage and the Redirect stage leave alone. -/
def KeepsActions (night later : Night F) : Prop :=
  later.actions = night.actions ∧ later.empowered = night.empowered

section

omit [Float64 F]

theorem KeepsActions.refl (night : Night F) : KeepsActions night night := ⟨rfl, rfl⟩

theorem KeepsActions.trans {night mid later : Night F} (h : KeepsActions night mid)
    (h' : KeepsActions mid later) : KeepsActions night later :=
  ⟨h'.1.trans h.1, h'.2.trans h.2⟩

theorem KeepsActions.foldl {α : Type} {step : Night F → α → Night F}
    (h : ∀ night x, KeepsActions night (step night x)) (xs : List α) (night : Night F) :
    KeepsActions night (xs.foldl step night) :=
  Steps.foldl_inv (fun later : Night F => KeepsActions night later)
    (fun later x _ hlater => hlater.trans (h later x)) (.refl night)

end

variable (input : ResolutionInput F)

theorem hideBehind_keeps (action : Action F) (target : SlotId)
    (night : Night F) : KeepsActions night (hideBehind input action target night) := by
  unfold hideBehind
  split
  · exact .refl night
  · dsimp only
    split
    · split <;> exact ⟨rfl, rfl⟩
    · exact ⟨rfl, rfl⟩

theorem landMark_keeps (action : Action F) (effect : Tag)
    (marks : List WolfBeautyMarkRecord) (target : SlotId) (night : Night F) :
    KeepsActions night (landMark input action effect marks target night) := by
  have hhidden := hideBehind_keeps input action target night
  unfold landMark
  dsimp only
  split
  · unfold clearPreviousBeautyMark
    split
    · exact hhidden.trans ⟨rfl, rfl⟩
    · split <;> exact hhidden.trans ⟨rfl, rfl⟩
  · exact hhidden.trans ⟨rfl, rfl⟩

theorem markTarget_keeps (action : Action F) (effect : Tag)
    (state : Night F × List WolfBeautyMarkRecord) (target : SlotId) :
    KeepsActions state.1 (markTarget input action effect state target).1 := by
  obtain ⟨night, marks⟩ := state
  have hlanded := landMark_keeps input action effect marks target night
  unfold markTarget
  dsimp only
  split
  · exact ⟨rfl, rfl⟩
  · split
    · exact hlanded.trans ⟨rfl, rfl⟩
    · unfold persistMark
      dsimp only
      split <;> exact hlanded.trans ⟨rfl, rfl⟩

theorem markStage_keeps (night : Night F) : KeepsActions night (markStage input night) := by
  unfold markStage
  refine Steps.foldl_inv
    (fun state : Night F × List WolfBeautyMarkRecord => KeepsActions night state.1)
    (fun state action _ hstate => ?_) (.refl night)
  unfold markAction
  split
  · exact hstate
  · exact Steps.foldl_inv
      (fun state : Night F × List WolfBeautyMarkRecord => KeepsActions night state.1)
      (fun state target _ hnext => hnext.trans (markTarget_keeps input action _ state target)) hstate

theorem clearAction_keeps (night : Night F) (action : Action F) :
    KeepsActions night (clearAction input night action) := by
  unfold clearAction
  split
  · exact .refl night
  · split
    · exact .refl night
    · rename_i effect _ _
      refine KeepsActions.trans ⟨rfl, rfl⟩ (KeepsActions.foldl (fun night target => ?_) _ _)
      unfold Night.removeTransient
      split <;> exact ⟨rfl, rfl⟩

theorem protectTarget_keeps (action : Action F) (night : Night F)
    (target : SlotId) : KeepsActions night (protectTarget input action night target) := by
  unfold protectTarget
  dsimp only
  split
  · exact ⟨rfl, rfl⟩
  · split
    · exact .refl night
    · split <;> exact ⟨rfl, rfl⟩

theorem protectStage_keeps (night : Night F) : KeepsActions night (protectStage input night) := by
  unfold protectStage
  refine KeepsActions.trans (KeepsActions.foldl (fun night action => ?_) _ night) ⟨rfl, rfl⟩
  unfold protectAction
  split
  · exact .refl night
  · exact KeepsActions.foldl (protectTarget_keeps input action) _ night

theorem killAction_keeps (night : Night F) (action : Action F) :
    KeepsActions night (killAction input night action) := by
  unfold killAction
  dsimp only
  split
  · exact .refl night
  · split <;> exact ⟨rfl, rfl⟩

/-- No other stage touches the actions or the empowered slots. -/
theorem nightStage_keeps (night : Night F) {stage : IrAbility}
    (hblock : stage ≠ .block) (hredirect : stage ≠ .redirect) :
    KeepsActions night (nightStage input night stage) := by
  cases stage with
  | block => exact absurd rfl hblock
  | redirect => exact absurd rfl hredirect
  | mark => exact markStage_keeps input night
  | clear => exact KeepsActions.foldl (clearAction_keeps input) _ night
  | protect => exact protectStage_keeps input night
  | kill => exact KeepsActions.foldl (killAction_keeps input) _ night
  | _ => exact ⟨rfl, rfl⟩

theorem nightStages_keep (night : Night F) {stages : List IrAbility}
    (hblock : IrAbility.block ∉ stages) (hredirect : IrAbility.redirect ∉ stages) :
    KeepsActions night (stages.foldl (nightStage input) night) := by
  refine Steps.foldl_inv (fun later : Night F => KeepsActions night later)
    (fun later stage hstage hlater => hlater.trans (nightStage_keeps input later ?_ ?_)) (.refl night)
  · rintro rfl
    exact hblock hstage
  · rintro rfl
    exact hredirect hstage

/-- The Redirect stage after the Block stage uses the slots that the Block stage found empowered. -/
theorem redirectStage_empowered (night : Night F)
    {stages : List IrAbility} (hblock : IrAbility.block ∉ stages)
    (hredirect : IrAbility.redirect ∉ stages) (slot : SlotId) :
    slot ∈ (redirectStage input (stages.foldl (nightStage input) (blockStage input night))).empowered ↔
      slot ∈ empowered input.pack.document night.actions := by
  obtain ⟨hactions, hempowered⟩ := nightStages_keep input (blockStage input night) hblock hredirect
  unfold redirectStage
  dsimp only
  rw [hempowered, hactions]
  split
  · rename_i hnone
    have hempty : ∀ other, other ∉ empowered input.pack.document night.actions := by
      intro other hother
      exact absurd hother (Std.TreeSet.isEmpty_iff_forall_not_mem.1 hnone other)
    refine iff_of_false (fun hslot => ?_) (hempty slot)
    obtain ⟨index, action, haction, hempowers, -, htarget⟩ := mem_discoverEmpoweredSlots.1 hslot
    exact hempty slot (empowered_iff.2 ⟨action, List.mem_of_getElem? haction, hempowers, htarget⟩)
  · exact Iff.rfl

/-- The loop of `discover_empowered_slots` ends within its fuel: more passes change nothing. -/
theorem empowerLoop_ends (pack : Pack F) (actions : List (Action F)) (blockedIndices : List Nat)
    (extra : Nat) :
    empowerLoop pack.nightResolution.empowerEffects blockedIndices (indexed actions)
        ((actions.map (·.targets.length)).sum + 1 + extra) ∅ =
      empowerLoop pack.nightResolution.empowerEffects blockedIndices (indexed actions)
        ((actions.map (·.targets.length)).sum + 1) ∅ := by
  rw [empowerLoop_closure, empowerLoop_closure]
  exact Rules.closure_enough (flagAt_enough blockedIndices actions _) extra

/-- **After the Block stage a slot is empowered exactly when an action that is not suppressed empowers it.
The empowered slots are the least fixpoint of the two rules and the suppressed actions the greatest; the
loop ends; an order that leaves alone the actions of a slot that a first-match source reaches gives the
same; and the Redirect stage finds the same slots empowered.** -/
theorem resolveSuppression_fixpoint (input : ResolutionInput F) (night : Night F)
    {stages : List IrAbility} (hblock : IrAbility.block ∉ stages)
    (hredirect : IrAbility.redirect ∉ stages) :
    let pack := input.pack.document
    let actions := night.actions
    let after := blockStage input night
    let redirected := redirectStage input (stages.foldl (nightStage input) after)
    (∀ slot, slot ∈ after.empowered ↔
      ∃ action ∈ after.actions, Empowers pack action ∧ slot ∈ action.targets) ∧
    IsLeast (Function.fixedPoints fun slots =>
      empoweredBy pack actions (suppressedBy pack actions slots)) {slot | slot ∈ after.empowered} ∧
    IsGreatest (Function.fixedPoints fun positions =>
      suppressedBy pack actions (empoweredBy pack actions positions)) (suppressed pack actions) ∧
    (∀ blockedIndices extra, empowerLoop pack.nightResolution.empowerEffects blockedIndices (indexed actions)
          ((actions.map (·.targets.length)).sum + 1 + extra) ∅ =
        empowerLoop pack.nightResolution.empowerEffects blockedIndices (indexed actions)
          ((actions.map (·.targets.length)).sum + 1) ∅) ∧
    (∀ reordered, Reordered pack actions reordered →
      (∀ slot, slot ∈ (blockStage input { night with actions := reordered }).empowered ↔
        slot ∈ after.empowered) ∧
      after.actions.Perm (blockStage input { night with actions := reordered }).actions) ∧
    ∀ slot, slot ∈ redirected.empowered ↔ slot ∈ after.empowered := by
  refine ⟨fun slot => empowered_iff, isLeast_empowered _ _, isGreatest_suppressed _ _,
    fun blockedIndices extra => empowerLoop_ends _ _ blockedIndices extra,
    fun reordered hreordered => ⟨fun slot => Set.ext_iff.1 hreordered.empowered slot, hreordered.suppressed⟩,
    fun slot => redirectStage_empowered input night hblock hredirect slot⟩

/-! ## A circle of marks, and two orders -/

/-- A pack whose roleblock suppresses the first action of its target that it matches. -/
def roleblockPack : Pack Rat :=
  { villagePack [] with
    nightResolution :=
      { mode := .explicit
        blockActionIds := ["roleblock"]
        empowerEffects := ["inspired"]
        suppressionPolicy := (∅ : BTreeMap String SuppressionPolicy).insert "roleblock"
          { scope := some .firstMatchingAction, suppresses := ["inspire", "visit"] } } }

/-- A mark that empowers. -/
def inspire (actor target : SlotId) : Action Rat :=
  nightMove (actor ++ target) actor
    { nightAction "inspire" .mark 0 [] [] with effect := some "inspired" } [target]

/-- A roleblock. -/
def roleblock (actor target : SlotId) : Action Rat :=
  nightMove (actor ++ target) actor (nightAction "roleblock" .block 90 [] []) [target]

/-- A visit. -/
def call (actor target : SlotId) : Action Rat :=
  nightMove (actor ++ target) actor (nightAction "visit" .visit 0 [] []) [target]

/-- `"a"` and `"b"` inspire each other, and both are blocked. -/
def markCircle : List (Action Rat) :=
  [inspire "a" "b", inspire "b" "a", roleblock "c" "a", roleblock "d" "b"]

/-- Suppressing nobody would be consistent in the circle, but both marks are suppressed; and of the two
visits of a blocked slot the first one listed is suppressed. -/
theorem markCircle_suppressed : ¬ IsLeast (Function.fixedPoints fun positions =>
      suppressedBy roleblockPack markCircle (empoweredBy roleblockPack markCircle positions))
        (suppressed roleblockPack markCircle) ∧
    ¬ (resolveSuppression roleblockPack [call "a" "x", call "a" "y", roleblock "c" "a"]).1.Perm
      (resolveSuppression roleblockPack [call "a" "y", call "a" "x", roleblock "c" "a"]).1 := by
  constructor
  · rintro ⟨-, hleast⟩
    have hpositions : (blockCandidates roleblockPack markCircle).map (·.1) = [0, 1] := by
      decide +kernel
    have hfixed : suppressedBy roleblockPack markCircle
        (empoweredBy roleblockPack markCircle ∅) = ∅ := by
      refine Set.eq_empty_of_forall_notMem fun index hindex => ?_
      obtain ⟨action, hcandidate, hactor⟩ := hindex
      have hposition : index ∈ [0, 1] := hpositions ▸ List.mem_map.2 ⟨_, hcandidate, rfl⟩
      have haction := (mem_blockCandidates hcandidate).1
      have hinspires : ∀ actor target, Empowers roleblockPack (inspire actor target) :=
        fun _ _ => ⟨rfl, rfl, "inspired", List.mem_cons_self, rfl⟩
      simp only [List.mem_cons, List.not_mem_nil, or_false] at hposition
      rcases hposition with rfl | rfl
      · obtain rfl : inspire "a" "b" = action := Option.some.inj haction
        exact hactor ⟨1, inspire "b" "a", rfl, Set.notMem_empty _, hinspires _ _, List.mem_cons_self⟩
      · obtain rfl : inspire "b" "a" = action := Option.some.inj haction
        exact hactor ⟨0, inspire "a" "b", rfl, Set.notMem_empty _, hinspires _ _, List.mem_cons_self⟩
    have hmark : 0 ∈ suppressed roleblockPack markCircle := by
      have hfirst : markCircle[0]? = some (inspire "a" "b") := rfl
      rw [suppressed_eq]
      refine (mem_suppressedBy hfirst).2 ⟨hpositions ▸ List.mem_cons_self, ?_⟩
      have hmissing : ¬ "a" ∈ (resolveSuppression roleblockPack markCircle).2.2 := by decide +kernel
      exact hmissing
    exact hleast hfixed hmark
  · intro hperm
    have htraces := (hperm.map fun action => (action.sub.actionId, action.blocked)).mem_iff
      (a := ("ax", true))
    revert htraces
    decide +kernel

/-- A night on which the circle meets. -/
def markNight : ResolutionInput Rat :=
  village ⟨roleblockPack, [.block, .redirect], .of_plain (by decide) rfl rfl⟩
    { phaseId := .first .night
      slots := [townie "a", townie "b", townie "c", goon "d", goon "e"] }
    []

/-- With one mark of the circle unblocked, both actors are empowered. -/
theorem halfCircle_empowered : "a" ∈ (redirectStage markNight (blockStage markNight
      { nightStart markNight with
        actions := [inspire "a" "b", inspire "b" "a", roleblock "c" "a"] })).empowered := by
  have hblock : IrAbility.block ∉ ([] : List IrAbility) := List.not_mem_nil
  obtain ⟨-, -, -, -, -, hredirect⟩ := resolveSuppression_fixpoint markNight
    { nightStart markNight with
      actions := [inspire "a" "b", inspire "b" "a", roleblock "c" "a"] }
    hblock List.not_mem_nil
  refine (hredirect "a").2 ?_
  decide +kernel

end Fmarch.Resolver
