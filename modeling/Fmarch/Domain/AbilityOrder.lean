import Fmarch.Domain.Pack
import Fmarch.Lib.Fallible
import Fmarch.Lib.StableSort
import Fmarch.Lib.TopologicalOrder

/-!
# The order of the night's abilities

`validation.rs` derives the stage order of a pack's night from action priorities and precedence edges:
`topological_ability_order` counts the edges into each ability, and places the ability of the highest
priority among those without any, taking its edges away.

**`topologicalAbilityOrder_spec`**: an order is found exactly if no ability precedes itself, and then it is
a greedy order of all abilities.
-/

namespace Fmarch.Domain

open Fallible StableSort TopologicalOrder

theorem IrAbility.compare_eq (a b : IrAbility) : compare a b = compare a.ctorIdx b.ctorIdx := rfl

instance : Std.TransOrd IrAbility where
  eq_swap {a b} := by
    rw [IrAbility.compare_eq, IrAbility.compare_eq]
    exact Std.OrientedOrd.eq_swap
  isLE_trans {a b c} hab hbc := by
    rw [IrAbility.compare_eq] at *
    exact Std.TransOrd.isLE_trans hab hbc

instance : Std.LawfulEqOrd IrAbility where
  compare_self {a} := Std.ReflOrd.compare_self
  eq_of_compare {a b} h := by
    have hidx : a.ctorIdx = b.ctorIdx := Std.LawfulEqOrd.eq_of_compare h
    cases a <;> cases b <;> first | rfl | cases hidx

/-! ## The source's functions -/

structure PackValidationIssue where
  path : String
  message : String

structure PackValidationError where
  issues : List PackValidationIssue

def packOrderError (path message : String) : PackValidationError := { issues := [{ path, message }] }

/-- `priorities[ability]`; the abilities that are compared all have one. -/
def priorityOf (priorities : BTreeMap IrAbility Int) (ability : IrAbility) : Int :=
  priorities.getD ability 0

/-- The comparator of `sort_ready`. -/
def readyCmp (priorities : BTreeMap IrAbility Int) (left right : IrAbility) : Ordering :=
  (compare (priorityOf priorities right) (priorityOf priorities left)).then (compare left right)

def sortReady (priorities : BTreeMap IrAbility Int) (ready : List IrAbility) : List IrAbility :=
  sortBy (readyCmp priorities) ready

/-- The two maps of the edge loop: the number of edges into an ability, and where its edges lead. -/
structure EdgeMaps where
  incoming : BTreeMap IrAbility Nat
  outgoing : BTreeMap IrAbility (List IrAbility)

/-- The maps before the loop. -/
def noEdges (priorities : BTreeMap IrAbility Int) : EdgeMaps where
  incoming := priorities.map fun _ _ => 0
  outgoing := priorities.map fun _ _ => []

/-- One turn of the edge loop. -/
def readEdge (priorities : BTreeMap IrAbility Int) (maps : EdgeMaps) (edge : IrAbility × IrAbility) :
    Except PackValidationError EdgeMaps :=
  if edge.1 = edge.2 then .error (packOrderError "precedence" "precedence cycle includes self-edge")
  else if !priorities.contains edge.1 || !priorities.contains edge.2 then .ok maps
  else .ok
    { outgoing := maps.outgoing.insert edge.1 (maps.outgoing.getD edge.1 [] ++ [edge.2])
      incoming := maps.incoming.insert edge.2 (maps.incoming.getD edge.2 0 + 1) }

/-- The variables of the placing loop. -/
structure Sorting where
  incoming : BTreeMap IrAbility Nat
  ready : List IrAbility
  order : List IrAbility := []

/-- One turn of the inner loop: an edge of the placed ability is taken away. -/
def release (priorities : BTreeMap IrAbility Int) (state : BTreeMap IrAbility Nat × List IrAbility)
    (next : IrAbility) : BTreeMap IrAbility Nat × List IrAbility :=
  let count := state.1.getD next 0 - 1
  (state.1.insert next count, if count = 0 then sortReady priorities (state.2 ++ [next]) else state.2)

/-- The `while` loop, for a number of turns. -/
def placeAll (priorities : BTreeMap IrAbility Int) (outgoing : BTreeMap IrAbility (List IrAbility)) :
    Nat → Sorting → Sorting
  | 0, sorting => sorting
  | turns + 1, sorting =>
    match sorting.ready with
    | [] => sorting
    | ability :: ready =>
      let released := (outgoing.getD ability []).foldl (release priorities) (sorting.incoming, ready)
      placeAll priorities outgoing turns
        { incoming := released.1, ready := released.2, order := sorting.order ++ [ability] }

/-- `topological_ability_order`. The loop places each ability once, so it ends within as many turns. -/
def topologicalAbilityOrder (priorities : BTreeMap IrAbility Int) (edges : List (IrAbility × IrAbility)) :
    Except PackValidationError (List IrAbility) := do
  let maps ← edges.foldlM (readEdge priorities) (noEdges priorities)
  let ready := maps.incoming.toList.filterMap fun (ability, count) =>
    if count = 0 then some ability else none
  let sorting := placeAll priorities maps.outgoing priorities.size
    { incoming := maps.incoming, ready := sortReady priorities ready }
  if sorting.order.length ≠ priorities.size then
    .error (packOrderError "precedence" "precedence cycle prevents deriving night ability order")
  else .ok sorting.order

/-! ## Edges -/

/-- The edges that order abilities: one that names an unknown ability is passed over, unless it leads from
an ability to itself. -/
def Precedes (priorities : BTreeMap IrAbility Int) (edges : List (IrAbility × IrAbility))
    (a b : IrAbility) : Prop :=
  (a, b) ∈ edges ∧ (a = b ∨ a ∈ priorities ∧ b ∈ priorities)

/-- Both ends of the edge are known. -/
def isKnown (priorities : BTreeMap IrAbility Int) (edge : IrAbility × IrAbility) : Bool :=
  priorities.contains edge.1 && priorities.contains edge.2

section Edges

variable {priorities : BTreeMap IrAbility Int} {edges : List (IrAbility × IrAbility)} {maps maps' : EdgeMaps}
  {a b : IrAbility}

theorem precedes_iff_filter (hself : ∀ edge ∈ edges, edge.1 ≠ edge.2) :
    Precedes priorities edges a b ↔ (a, b) ∈ edges.filter (isKnown priorities) := by
  rw [List.mem_filter]
  refine and_congr_right fun hmem => ?_
  rw [or_iff_right (hself _ hmem)]
  unfold isKnown
  rw [Bool.and_eq_true, Std.TreeMap.contains_iff_mem, Std.TreeMap.contains_iff_mem]

/-- What the maps hold after some edges between known abilities. -/
structure Holds (priorities : BTreeMap IrAbility Int) (edges : List (IrAbility × IrAbility))
    (maps : EdgeMaps) : Prop where
  incoming : ∀ b, maps.incoming[b]? = if b ∈ priorities then some (edges.countP (·.2 = b)) else none
  outgoing : ∀ a, maps.outgoing.getD a [] = (edges.filter (·.1 = a)).map (·.2)

theorem Holds.none (priorities : BTreeMap IrAbility Int) : Holds priorities [] (noEdges priorities) where
  incoming b := by
    unfold noEdges
    rw [Std.TreeMap.getElem?_map]
    split
    · rename_i hknown
      rw [Std.TreeMap.getElem?_eq_some_getElem hknown]
      rfl
    · rename_i hunknown
      rw [Std.TreeMap.getElem?_eq_none hunknown]
      rfl
  outgoing a := by
    unfold noEdges
    rw [Std.TreeMap.getD_eq_getD_getElem?, Std.TreeMap.getElem?_map]
    cases priorities[a]? <;> rfl

theorem Holds.edge (h : Holds priorities edges maps) (a : IrAbility) (hb : b ∈ priorities) :
    Holds priorities (edges ++ [(a, b)])
      { outgoing := maps.outgoing.insert a (maps.outgoing.getD a [] ++ [b])
        incoming := maps.incoming.insert b (maps.incoming.getD b 0 + 1) } where
  incoming c := by
    simp only [Std.TreeMap.getElem?_insert, List.countP_append, Std.LawfulEqCmp.compare_eq_iff_eq]
    by_cases hsame : b = c
    · subst hsame
      rw [if_pos rfl, if_pos hb, Std.TreeMap.getD_eq_getD_getElem?, h.incoming, if_pos hb]
      simp
    · rw [if_neg hsame, h.incoming]
      simp [hsame]
  outgoing c := by
    simp only [Std.TreeMap.getD_insert, List.filter_append, List.map_append,
      Std.LawfulEqCmp.compare_eq_iff_eq]
    by_cases hsame : a = c
    · subst hsame
      rw [if_pos rfl, h.outgoing]
      simp
    · rw [if_neg hsame, h.outgoing]
      simp [hsame]

/-- The edge loop succeeds where there is no self-edge, and counts the edges between known abilities. -/
theorem readEdges_run (edges done : List (IrAbility × IrAbility)) (h : Holds priorities done maps) :
    ((∃ maps', edges.foldlM (readEdge priorities) maps = .ok maps') ↔ ∀ edge ∈ edges, edge.1 ≠ edge.2) ∧
    ∀ maps', edges.foldlM (readEdge priorities) maps = .ok maps' →
      Holds priorities (done ++ edges.filter (isKnown priorities)) maps' := by
  induction edges generalizing maps done with
  | nil =>
    refine ⟨iff_of_true ⟨maps, rfl⟩ (fun _ hmem => absurd hmem List.not_mem_nil), fun maps' hread => ?_⟩
    cases hread
    rwa [List.filter_nil, List.append_nil]
  | cons edge edges ih =>
    rw [List.foldlM_cons]
    by_cases hself : edge.1 = edge.2
    · have herror : readEdge priorities maps edge =
          .error (packOrderError "precedence" "precedence cycle includes self-edge") := if_pos hself
      rw [herror]
      refine ⟨iff_of_false (fun ⟨_, hread⟩ => nomatch hread) fun hall => ?_, fun _ hread => nomatch hread⟩
      exact hall edge List.mem_cons_self hself
    · have hnext : ∃ next, readEdge priorities maps edge = .ok next ∧
          Holds priorities (done ++ [edge].filter (isKnown priorities)) next := by
        unfold readEdge
        rw [if_neg hself]
        by_cases hknown : isKnown priorities edge = true
        · have hends := hknown
          unfold isKnown at hends
          rw [Bool.and_eq_true] at hends
          rw [hends.1, hends.2, List.filter_cons_of_pos hknown]
          exact ⟨_, rfl, h.edge edge.1 (Std.TreeMap.contains_iff_mem.1 hends.2)⟩
        · refine ⟨maps, if_pos ?_, ?_⟩
          · unfold isKnown at hknown
            rw [Bool.and_eq_true] at hknown
            cases hfirst : priorities.contains edge.1
            · rfl
            · cases hsecond : priorities.contains edge.2
              · rfl
              · exact absurd ⟨hfirst, hsecond⟩ hknown
          · rw [List.filter_cons_of_neg hknown]
            rwa [List.filter_nil, List.append_nil]
      obtain ⟨next, hread, hnext⟩ := hnext
      rw [hread]
      obtain ⟨hok, hholds⟩ := ih _ hnext
      constructor
      · exact hok.trans ⟨fun hall => List.forall_mem_cons.2 ⟨hself, hall⟩,
          fun hall => (List.forall_mem_cons.1 hall).2⟩
      · intro maps' hrest
        have hmaps := hholds maps' hrest
        rwa [List.append_assoc, ← List.filter_append] at hmaps

end Edges

/-! ## The placing loop -/

section Placing

variable {priorities : BTreeMap IrAbility Int} {edges : List (IrAbility × IrAbility)} {maps : EdgeMaps}
  {a b : IrAbility}

/-- The first of two ready abilities to be placed: the one of the higher priority. -/
def ComesFirst (priorities : BTreeMap IrAbility Int) (a b : IrAbility) : Prop :=
  priorityOf priorities b < priorityOf priorities a ∨
    priorityOf priorities b = priorityOf priorities a ∧ (compare a b).isLE = true

theorem readyCmp_isLE : (readyCmp priorities a b).isLE = true ↔ ComesFirst priorities a b := by
  unfold readyCmp ComesFirst
  cases hcmp : compare (priorityOf priorities b) (priorityOf priorities a) with
  | lt => simp [compare_lt_iff_lt.1 hcmp]
  | eq =>
    rw [compare_eq_iff_eq] at hcmp
    simp [hcmp]
  | gt =>
    have hlt := compare_gt_iff_gt.1 hcmp
    simp [not_lt.2 hlt.le, hlt.ne']

instance (priorities : BTreeMap IrAbility Int) : Std.TransCmp (readyCmp priorities) where
  eq_swap {a b} := by
    unfold readyCmp
    rw [Std.OrientedOrd.eq_swap (a := priorityOf priorities b), Std.OrientedOrd.eq_swap (a := a),
      Ordering.swap_then]
  isLE_trans {a b c} hab hbc := by
    rw [readyCmp_isLE] at *
    rcases hab with hab | ⟨hab, hle⟩
    · rcases hbc with hbc | ⟨hbc, -⟩
      · exact Or.inl (hbc.trans hab)
      · exact Or.inl (hbc ▸ hab)
    · rcases hbc with hbc | ⟨hbc, hle'⟩
      · exact Or.inl (hab ▸ hbc)
      · exact Or.inr ⟨hbc.trans hab, Std.TransOrd.isLE_trans hle hle'⟩

theorem comesFirst_refl (a : IrAbility) : ComesFirst priorities a a :=
  Or.inr ⟨rfl, by rw [Std.ReflOrd.compare_self]; rfl⟩

/-- The ready list is sorted. -/
def ReadySorted (priorities : BTreeMap IrAbility Int) (ready : List IrAbility) : Prop :=
  ready.Pairwise (ComesFirst priorities)

theorem sortReady_sorted (ready : List IrAbility) : ReadySorted priorities (sortReady priorities ready) := by
  have hsorted : (sortBy (readyCmp priorities) ready).Pairwise
      fun a b => (readyCmp priorities a b).isLE = true := pairwise_sortBy ready
  exact hsorted.imp fun h => readyCmp_isLE.1 h

/-- What taking away the edges of one ability does: each ability loses as many as lead to it, and is ready
when it has none left. -/
theorem release_run {nexts : List IrAbility} {incoming : BTreeMap IrAbility Nat} {ready : List IrAbility}
    (count : IrAbility → Nat) (hcount : ∀ b ∈ nexts, incoming[b]? = some (count b))
    (hle : ∀ b, nexts.count b ≤ count b) (hfresh : ∀ b ∈ ready, b ∉ nexts) (hnodup : ready.Nodup)
    (hsorted : ReadySorted priorities ready) :
    (∀ b, (nexts.foldl (release priorities) (incoming, ready)).1[b]? = incoming[b]?.map (· - nexts.count b)) ∧
    (∀ b, b ∈ (nexts.foldl (release priorities) (incoming, ready)).2 ↔
      b ∈ ready ∨ b ∈ nexts ∧ count b = nexts.count b) ∧
    (nexts.foldl (release priorities) (incoming, ready)).2.Nodup ∧
    ReadySorted priorities (nexts.foldl (release priorities) (incoming, ready)).2 := by
  induction nexts generalizing incoming ready count with
  | nil => simp [hnodup, hsorted]
  | cons next nexts ih =>
    have hnext : incoming.getD next 0 = count next := by
      rw [Std.TreeMap.getD_eq_getD_getElem?, hcount next List.mem_cons_self]
      rfl
    have hpos : nexts.count next + 1 ≤ count next := by
      have := hle next
      rwa [List.count_cons_self] at this
    -- The count of the next ability after this turn; the others keep theirs.
    let count' : IrAbility → Nat := fun b => if b = next then count next - 1 else count b
    let ready' := if count next - 1 = 0 then sortReady priorities (ready ++ [next]) else ready
    have hstep : release priorities (incoming, ready) next = (incoming.insert next (count next - 1), ready') := by
      unfold release
      simp only [hnext]
      rfl
    rw [List.foldl_cons, hstep]
    have hget : ∀ b, (incoming.insert next (count next - 1))[b]? =
        if next = b then some (count next - 1) else incoming[b]? := fun b => by
      simp only [Std.TreeMap.getElem?_insert, Std.LawfulEqCmp.compare_eq_iff_eq]
    have hready' : ∀ b, b ∈ ready' ↔ b ∈ ready ∨ b = next ∧ count next = 1 := by
      intro b
      by_cases hone : count next - 1 = 0
      · have hmem : b ∈ ready' ↔ b ∈ ready ∨ b = next := by
          simp only [ready', if_pos hone, sortReady, mem_sortBy, List.mem_append, List.mem_singleton]
        rw [hmem]
        exact or_congr_right (and_iff_left_of_imp fun _ => by omega).symm
      · have hmem : ready' = ready := if_neg hone
        rw [hmem]
        exact (or_iff_left fun h => hone (by omega)).symm
    have hcount' : ∀ b ∈ nexts, (incoming.insert next (count next - 1))[b]? = some (count' b) := by
      intro b hb
      rw [hget b]
      by_cases hsame : next = b
      · subst hsame
        simp [count']
      · rw [if_neg hsame, hcount b (List.mem_cons_of_mem _ hb)]
        exact congrArg some (if_neg fun h => hsame h.symm).symm
    have hle' : ∀ b, nexts.count b ≤ count' b := by
      intro b
      by_cases hsame : b = next
      · subst hsame
        have hself : count' b = count b - 1 := if_pos rfl
        omega
      · have hother : count' b = count b := if_neg hsame
        have := hle b
        rw [List.count_cons_of_ne (fun h => hsame h.symm)] at this
        omega
    have hfresh' : ∀ b ∈ ready', b ∉ nexts := by
      intro b hb hin
      rcases (hready' b).1 hb with hold | ⟨rfl, hone⟩
      · exact hfresh b hold (List.mem_cons_of_mem _ hin)
      · have := List.count_pos_iff.2 hin
        omega
    have hnodup' : ready'.Nodup := by
      by_cases hone : count next - 1 = 0
      · have hpushed : ready' = sortReady priorities (ready ++ [next]) := if_pos hone
        rw [hpushed]
        refine (sortBy_perm _ _).nodup_iff.2 (List.nodup_append.2 ⟨hnodup, List.nodup_singleton _, ?_⟩)
        rintro b hb c hc rfl
        exact hfresh b hb (List.mem_singleton.1 hc ▸ List.mem_cons_self)
      · have hkept : ready' = ready := if_neg hone
        rwa [hkept]
    have hsorted' : ReadySorted priorities ready' := by
      by_cases hone : count next - 1 = 0
      · have hpushed : ready' = sortReady priorities (ready ++ [next]) := if_pos hone
        rw [hpushed]
        exact sortReady_sorted _
      · have hkept : ready' = ready := if_neg hone
        rwa [hkept]
    obtain ⟨hincoming, hmem, hrest⟩ := ih count' hcount' hle' hfresh' hnodup' hsorted'
    refine ⟨fun b => ?_, fun b => ?_, hrest⟩
    · rw [hincoming b, hget b, List.count_cons]
      by_cases hsame : next = b
      · subst hsame
        rw [if_pos rfl, hcount next List.mem_cons_self]
        simp [Nat.sub_sub, Nat.add_comm]
      · rw [if_neg hsame]
        simp [hsame]
    · rw [hmem b, hready' b, List.mem_cons, List.count_cons]
      by_cases hsame : b = next
      · subst hsame
        have hself : count' b = count b - 1 := if_pos rfl
        have hzero : nexts.count b = 0 ↔ b ∉ nexts := List.count_eq_zero
        simp only [hself, beq_self_eq_true, if_true, true_and, true_or]
        by_cases hin : b ∈ nexts
        · simp only [hin, not_true, iff_false] at hzero
          simp only [hin, true_and]
          constructor
          · rintro ((hold | hone) | hlast)
            · exact Or.inl hold
            · omega
            · exact Or.inr (by omega)
          · rintro (hold | hlast)
            · exact Or.inl (Or.inl hold)
            · exact Or.inr (by omega)
        · have hnone := hzero.2 hin
          simp only [hin, false_and, or_false, hnone]
      · have hother : count' b = count b := if_neg hsame
        have hne : ¬ next = b := fun h => hsame h.symm
        simp [hsame, hother, hne]

/-- What holds while abilities are placed: the counts are those of the edges from abilities that are left,
and the ready list is what is ready, in the order in which it will be placed. -/
structure Places (priorities : BTreeMap IrAbility Int) (edges : List (IrAbility × IrAbility))
    (sorting : Sorting) : Prop where
  placed : Placed priorities.keys (fun a b => (a, b) ∈ edges) (ComesFirst priorities) sorting.order
  counts : ∀ b ∈ priorities,
    sorting.incoming[b]? = some (edges.countP fun edge => edge.2 = b ∧ edge.1 ∉ sorting.order)
  ready : ∀ b, b ∈ sorting.ready ↔ Ready priorities.keys (fun a b => (a, b) ∈ edges) sorting.order b
  nodup : sorting.ready.Nodup
  sorted : ReadySorted priorities sorting.ready

/-- An ability is ready when none of its edges is left. -/
theorem ready_iff {order : List IrAbility} (hknown : b ∈ priorities) (hfresh : b ∉ order) :
    Ready priorities.keys (fun a b => (a, b) ∈ edges) order b ↔
      edges.countP (fun edge => edge.2 = b ∧ edge.1 ∉ order) = 0 := by
  rw [List.countP_eq_zero]
  constructor
  · rintro hready edge hedge hleft
    obtain ⟨rfl, hunplaced⟩ := of_decide_eq_true hleft
    exact hunplaced (hready.preceded edge.1 hedge)
  · intro hnone
    refine ⟨Std.TreeMap.mem_keys.2 hknown, hfresh, fun a hedge => ?_⟩
    by_contra hunplaced
    exact hnone (a, b) hedge (decide_eq_true ⟨rfl, hunplaced⟩)

/-- Placing an ability takes away its edges. -/
theorem countP_placed {order : List IrAbility} (hfresh : a ∉ order) (b : IrAbility) :
    edges.countP (fun edge => edge.2 = b ∧ edge.1 ∉ order) =
      edges.countP (fun edge => edge.2 = b ∧ edge.1 ∉ order ++ [a]) +
        ((edges.filter (·.1 = a)).map (·.2)).count b := by
  induction edges with
  | nil => rfl
  | cons edge edges ih =>
    rw [List.countP_cons, List.countP_cons, ih]
    by_cases hfrom : edge.1 = a
    · subst hfrom
      rw [List.filter_cons_of_pos (by simp), List.map_cons, List.count_cons]
      by_cases hto : edge.2 = b
      · simp [hto, hfresh]
        omega
      · simp [hto]
    · rw [List.filter_cons_of_neg (by simpa using hfrom)]
      by_cases hto : edge.2 = b
      · simp [hto, hfrom]
        omega
      · simp [hto]

/-- One turn of the loop. -/
theorem Places.place {sorting : Sorting} {ready : List IrAbility} (h : Places priorities edges sorting)
    (hedges : ∀ edge ∈ edges, edge.1 ≠ edge.2 ∧ edge.2 ∈ priorities)
    (hready : sorting.ready = a :: ready)
    {state : BTreeMap IrAbility Nat × List IrAbility}
    (hstate : state = ((edges.filter (·.1 = a)).map (·.2)).foldl (release priorities)
      (sorting.incoming, ready)) :
    Places priorities edges
      { incoming := state.1, ready := state.2, order := sorting.order ++ [a] } := by
  have hfirst := (h.ready a).1 (hready ▸ List.mem_cons_self)
  have hnodup := h.nodup
  have hsorted := h.sorted
  rw [hready] at hnodup hsorted
  obtain ⟨hfresh, hnodup⟩ := List.nodup_cons.1 hnodup
  obtain ⟨hleast, hsorted⟩ := List.pairwise_cons.1 hsorted
  have hnexts : ∀ b, b ∈ (edges.filter (·.1 = a)).map (·.2) ↔ (a, b) ∈ edges := by
    intro b
    rw [List.mem_map]
    constructor
    · rintro ⟨edge, hmem, rfl⟩
      obtain ⟨hedge, hfrom⟩ := List.mem_filter.1 hmem
      obtain rfl := of_decide_eq_true hfrom
      exact hedge
    · exact fun hmem => ⟨(a, b), List.mem_filter.2 ⟨hmem, decide_eq_true rfl⟩, rfl⟩
  have hcount : ∀ b ∈ (edges.filter (·.1 = a)).map (·.2), sorting.incoming[b]? =
      some (edges.countP fun edge => edge.2 = b ∧ edge.1 ∉ sorting.order) := fun b hb =>
    h.counts b (hedges _ ((hnexts b).1 hb)).2
  have hle : ∀ b, ((edges.filter (·.1 = a)).map (·.2)).count b ≤
      edges.countP fun edge => edge.2 = b ∧ edge.1 ∉ sorting.order := fun b => by
    rw [countP_placed hfirst.fresh b]
    exact Nat.le_add_left ..
  have hunready : ∀ b ∈ ready, b ∉ (edges.filter (·.1 = a)).map (·.2) := fun b hb hnext =>
    hfirst.fresh (((h.ready b).1 (hready ▸ List.mem_cons_of_mem _ hb)).preceded a ((hnexts b).1 hnext))
  obtain ⟨hincoming, hmem, hnodup', hsorted'⟩ :=
    release_run _ hcount hle hunready hnodup hsorted
  rw [← hstate] at hincoming hmem hnodup' hsorted'
  refine ⟨h.placed.place hfirst fun b hb => ?_, fun b hb => ?_, fun b => ?_, hnodup', hsorted'⟩
  · have hmember := (h.ready b).2 hb
    rw [hready] at hmember
    rcases List.mem_cons.1 hmember with rfl | hlater
    · exact comesFirst_refl b
    · exact hleast b hlater
  · rw [hincoming b, h.counts b hb, countP_placed hfirst.fresh b]
    simp
  · rw [hmem b]
    constructor
    · rintro (hold | ⟨hnext, hlast⟩)
      · have hwas := (h.ready b).1 (hready ▸ List.mem_cons_of_mem _ hold)
        refine ⟨hwas.node, fun hplaced => ?_, fun c hedge => List.mem_append_left _ (hwas.preceded c hedge)⟩
        rcases List.mem_append.1 hplaced with hearlier | hnow
        · exact hwas.fresh hearlier
        · exact hfresh (List.mem_singleton.1 hnow ▸ hold)
      · have hedge := (hnexts b).1 hnext
        have hself : a ≠ b := (hedges _ hedge).1
        have hknown : b ∈ priorities := (hedges _ hedge).2
        have hunplaced : b ∉ sorting.order ++ [a] := by
          intro hplaced
          rcases List.mem_append.1 hplaced with hearlier | hnow
          · -- An ability placed earlier has all that precede it before it.
            obtain ⟨before, after, hsplit⟩ := List.append_of_mem hearlier
            refine hfirst.fresh ?_
            rw [hsplit]
            exact List.mem_append_left _ (h.placed.respects hedge hsplit)
          · exact hself (List.mem_singleton.1 hnow).symm
        refine (ready_iff hknown hunplaced).2 ?_
        rw [countP_placed hfirst.fresh b] at hlast
        omega
    · intro hnow
      have hunplaced : b ∉ sorting.order := fun hplaced => hnow.fresh (List.mem_append_left _ hplaced)
      have hknown := Std.TreeMap.mem_keys.1 hnow.node
      by_cases hedge : (a, b) ∈ edges
      · refine Or.inr ⟨(hnexts b).2 hedge, ?_⟩
        have hnone := (ready_iff hknown hnow.fresh).1 hnow
        rw [countP_placed hfirst.fresh b, hnone, Nat.zero_add]
      · have hwas : Ready priorities.keys (fun a b => (a, b) ∈ edges) sorting.order b := by
          refine ⟨hnow.node, hunplaced, fun c hc => ?_⟩
          rcases List.mem_append.1 (hnow.preceded c hc) with hearlier | hlast
          · exact hearlier
          · exact absurd (List.mem_singleton.1 hlast ▸ hc) hedge
        have hmember := (h.ready b).2 hwas
        rw [hready] at hmember
        rcases List.mem_cons.1 hmember with rfl | hlater
        · exact absurd (List.mem_append_right _ (List.mem_singleton_self _)) hnow.fresh
        · exact Or.inl hlater

/-- The loop stops because nothing is ready, or has placed an ability in every turn. -/
theorem Places.run (turns : Nat) {sorting : Sorting} (h : Places priorities edges sorting)
    (hedges : ∀ edge ∈ edges, edge.1 ≠ edge.2 ∧ edge.2 ∈ priorities)
    {outgoing : BTreeMap IrAbility (List IrAbility)}
    (houtgoing : ∀ a, outgoing.getD a [] = (edges.filter (·.1 = a)).map (·.2)) :
    Places priorities edges (placeAll priorities outgoing turns sorting) ∧
      ((placeAll priorities outgoing turns sorting).ready = [] ∨
        (placeAll priorities outgoing turns sorting).order.length = sorting.order.length + turns) := by
  induction turns generalizing sorting with
  | zero => exact ⟨h, Or.inr rfl⟩
  | succ turns ih =>
    unfold placeAll
    split
    · rename_i hempty
      exact ⟨h, Or.inl hempty⟩
    · rename_i ability ready hready
      have hplaced := h.place hedges hready (by rw [← houtgoing])
      obtain ⟨hend, hstop⟩ := ih hplaced
      refine ⟨hend, hstop.imp_right fun hlength => ?_⟩
      rw [hlength, List.length_append, List.length_singleton]
      omega

/-- The loop begins with the abilities no edge leads to. -/
theorem Places.start (h : Holds priorities edges maps) : Places priorities edges
      { incoming := maps.incoming
        ready := sortReady priorities (maps.incoming.toList.filterMap fun (ability, count) =>
          if count = 0 then some ability else none) } := by
  have hmem : ∀ b, b ∈ maps.incoming.toList.filterMap (fun (ability, count) =>
      if count = 0 then some ability else none) ↔
        b ∈ priorities ∧ edges.countP (fun edge => edge.2 = b) = 0 := by
    intro b
    rw [List.mem_filterMap]
    constructor
    · rintro ⟨⟨ability, count⟩, hentry, hzero⟩
      rw [Std.TreeMap.mem_toList_iff_getElem?_eq_some, h.incoming] at hentry
      simp only [Option.ite_none_right_eq_some, Option.some.injEq] at hentry hzero
      obtain ⟨rfl, rfl⟩ := hzero
      exact hentry
    · rintro ⟨hknown, hzero⟩
      refine ⟨(b, 0), ?_, rfl⟩
      rw [Std.TreeMap.mem_toList_iff_getElem?_eq_some, h.incoming, if_pos hknown, hzero]
  have hleft : ∀ b, edges.countP (fun edge => edge.2 = b ∧ edge.1 ∉ ([] : List IrAbility)) =
      edges.countP (fun edge => edge.2 = b) := fun b => by simp
  refine ⟨.nil, fun b hb => ?_, fun b => ?_, ?_, sortReady_sorted _⟩
  · rw [h.incoming, if_pos hb, hleft]
  · rw [sortReady, mem_sortBy, hmem]
    constructor
    · rintro ⟨hknown, hzero⟩
      exact (ready_iff hknown List.not_mem_nil).2 ((hleft b).trans hzero)
    · intro hready
      have hknown := Std.TreeMap.mem_keys.1 hready.node
      exact ⟨hknown, (hleft b).symm.trans ((ready_iff hknown List.not_mem_nil).1 hready)⟩
  · refine (sortBy_perm _ _).nodup_iff.2 ?_
    have hkeys : (maps.incoming.toList.map (·.1)).Nodup := by
      rw [Std.TreeMap.map_fst_toList_eq_keys]
      exact Std.TreeMap.nodup_keys
    have hfilter : ∀ entries : List (IrAbility × Nat), (entries.filterMap fun (ability, count) =>
        if count = 0 then some ability else none) = (entries.filter (·.2 = 0)).map (·.1) := by
      intro entries
      induction entries with
      | nil => rfl
      | cons entry entries ih =>
        by_cases hzero : entry.2 = 0
        · simp [hzero, ih]
        · simp [hzero, ih]
    rw [hfilter]
    exact hkeys.sublist (List.filter_sublist.map _)

/-- A loop that has ended has placed every ability that could be placed. -/
theorem Places.complete_iff {sorting : Sorting} (h : Places priorities edges sorting)
    (hedges : ∀ edge ∈ edges, edge.1 ∈ priorities ∧ edge.2 ∈ priorities) (hended : sorting.ready = []) :
    sorting.order.length = priorities.size ↔ Acyclic fun a b => (a, b) ∈ edges := by
  have hsubperm : sorting.order.Subperm priorities.keys :=
    List.subperm_of_subset h.placed.nodup h.placed.subset
  rw [← Std.TreeMap.length_keys]
  constructor
  · intro hlength
    refine h.placed.acyclic (fun a ha => ?_) fun a b hedge => Std.TreeMap.mem_keys.2 (hedges _ hedge).2
    exact (hsubperm.perm_of_length_le hlength.ge).mem_iff.2 ha
  · intro hacyclic
    have hstuck : ∀ a, ¬ Ready priorities.keys (fun a b => (a, b) ∈ edges) sorting.order a := fun a hready =>
      List.not_mem_nil (hended ▸ (h.ready a).2 hready)
    have hall := Placed.complete_of_acyclic hacyclic
      (fun a b hedge => Std.TreeMap.mem_keys.2 (hedges _ hedge).1) hstuck
    exact Nat.le_antisymm hsubperm.length_le
      (List.subperm_of_subset Std.TreeMap.nodup_keys hall).length_le

/-- The function refuses a self-edge; otherwise its loop ends and what it has placed is looked at. -/
theorem topologicalAbilityOrder_eq (priorities : BTreeMap IrAbility Int)
    (edges : List (IrAbility × IrAbility)) :
    (∀ order, topologicalAbilityOrder priorities edges = .ok order → ∀ edge ∈ edges, edge.1 ≠ edge.2) ∧
    ((∀ edge ∈ edges, edge.1 ≠ edge.2) → ∃ sorting,
      Places priorities (edges.filter (isKnown priorities)) sorting ∧ sorting.ready = [] ∧
      ∀ order, topologicalAbilityOrder priorities edges = .ok order ↔
        sorting.order.length = priorities.size ∧ sorting.order = order) := by
  obtain ⟨hreads, hholds⟩ := readEdges_run edges [] (Holds.none priorities)
  constructor
  · intro order hok
    obtain ⟨maps, hmaps, -⟩ := bind_eq_ok.1 hok
    exact hreads.1 ⟨maps, hmaps⟩
  · intro hself
    obtain ⟨maps, hmaps⟩ := hreads.2 hself
    have hmaps' : Holds priorities (edges.filter (isKnown priorities)) maps := hholds maps hmaps
    have hedges : ∀ edge ∈ edges.filter (isKnown priorities), edge.1 ≠ edge.2 ∧ edge.2 ∈ priorities := by
      intro edge hedge
      obtain ⟨hmem, hknown⟩ := List.mem_filter.1 hedge
      unfold isKnown at hknown
      exact ⟨hself edge hmem, Std.TreeMap.contains_iff_mem.1 (Bool.and_eq_true_iff.1 hknown).2⟩
    obtain ⟨hplaces, hstop⟩ := (Places.start hmaps').run priorities.size hedges hmaps'.outgoing
    refine ⟨_, hplaces, ?_, fun order => ?_⟩
    · rcases hstop with hended | hlength
      · exact hended
      · -- Every ability is placed, so none is ready.
        refine List.eq_nil_iff_forall_not_mem.2 fun a ha => ?_
        have hready := (hplaces.ready a).1 ha
        have hperm := (List.subperm_of_subset hplaces.placed.nodup hplaces.placed.subset).perm_of_length_le
          (by rw [Std.TreeMap.length_keys, hlength]; simp)
        exact hready.fresh (hperm.mem_iff.2 hready.node)
    · unfold topologicalAbilityOrder
      rw [hmaps]
      exact ite_error_eq_ok.trans
        (and_congr not_not ⟨Except.ok.inj, congrArg Except.ok⟩)

theorem filter_known : ∀ edge ∈ edges.filter (isKnown priorities),
    edge.1 ∈ priorities ∧ edge.2 ∈ priorities := by
  intro edge hedge
  have hends := (List.mem_filter.1 hedge).2
  unfold isKnown at hends
  rwa [Bool.and_eq_true, Std.TreeMap.contains_iff_mem, Std.TreeMap.contains_iff_mem] at hends

theorem precedes_eq (hself : ∀ edge ∈ edges, edge.1 ≠ edge.2) :
    Precedes priorities edges = fun a b => (a, b) ∈ edges.filter (isKnown priorities) := by
  funext a b
  exact propext (precedes_iff_filter hself)

/-- An order is found exactly if there is no cycle. -/
theorem exists_order_iff : (∃ order, topologicalAbilityOrder priorities edges = .ok order) ↔
    Acyclic (Precedes priorities edges) := by
  obtain ⟨hrefuses, hends⟩ := topologicalAbilityOrder_eq priorities edges
  constructor
  · rintro ⟨order, hok⟩
    have hself := hrefuses order hok
    obtain ⟨sorting, hplaces, hended, hresult⟩ := hends hself
    rw [precedes_eq hself]
    exact (hplaces.complete_iff filter_known hended).1 ((hresult order).1 hok).1
  · intro hacyclic
    have hself : ∀ edge ∈ edges, edge.1 ≠ edge.2 := by
      rintro ⟨a, b⟩ hedge (rfl : a = b)
      exact hacyclic a (.single ⟨hedge, Or.inl rfl⟩)
    obtain ⟨sorting, hplaces, hended, hresult⟩ := hends hself
    rw [precedes_eq hself] at hacyclic
    exact ⟨sorting.order, (hresult _).2 ⟨(hplaces.complete_iff filter_known hended).2 hacyclic, rfl⟩⟩

/-- The order that is found was placed ability by ability, and holds all of them. -/
theorem order_placed {order : List IrAbility} (hok : topologicalAbilityOrder priorities edges = .ok order) :
    Placed priorities.keys (Precedes priorities edges) (ComesFirst priorities) order ∧
      order.Perm priorities.keys := by
  obtain ⟨hrefuses, hends⟩ := topologicalAbilityOrder_eq priorities edges
  have hself := hrefuses order hok
  obtain ⟨sorting, hplaces, -, hresult⟩ := hends hself
  obtain ⟨hlength, rfl⟩ := (hresult order).1 hok
  rw [precedes_eq hself]
  refine ⟨hplaces.placed, List.Subperm.perm_of_length_le
    (List.subperm_of_subset hplaces.placed.nodup hplaces.placed.subset) ?_⟩
  rw [Std.TreeMap.length_keys, hlength]

theorem topologicalAbilityOrder_spec (priorities : BTreeMap IrAbility Int)
    (edges : List (IrAbility × IrAbility)) :
    ((∃ order, topologicalAbilityOrder priorities edges = .ok order) ↔ Acyclic (Precedes priorities edges)) ∧
    ∀ order, topologicalAbilityOrder priorities edges = .ok order → order.Perm priorities.keys ∧
      (∀ edge ∈ edges, edge.1 ∈ priorities → ∀ before after, order = before ++ edge.2 :: after →
        edge.1 ∈ before) ∧
      ∀ before ability after, order = before ++ ability :: after →
        Ready priorities.keys (Precedes priorities edges) before ability ∧
        ∀ other, Ready priorities.keys (Precedes priorities edges) before other →
          ComesFirst priorities ability other := by
  refine ⟨exists_order_iff, fun order hok => ?_⟩
  obtain ⟨hplaced, hperm⟩ := order_placed hok
  refine ⟨hperm, fun edge hedge hfirst before after hsplit => ?_, fun before ability after hsplit =>
    hplaced.at hsplit⟩
  have hsecond : edge.2 ∈ priorities :=
    Std.TreeMap.mem_keys.1 (hperm.mem_iff.1 (hsplit ▸ List.mem_append_right _ List.mem_cons_self))
  exact hplaced.respects ⟨hedge, Or.inr ⟨hfirst, hsecond⟩⟩ hsplit

end Placing

/-! ## The order of a pack -/

section Packs

variable {F : Type} [Float64 F] {pack : Pack F}

def nightOrderAbilities (action : ActionTemplate F) : List IrAbility :=
  action.abilities.filter fun ability => !(action.hasModifier .cpr && ability == .kill)

/-- `entry(ability).and_modify(max).or_insert(priority)`. -/
def raisePriority (priority : Int) (priorities : BTreeMap IrAbility Int) (ability : IrAbility) :
    BTreeMap IrAbility Int :=
  priorities.insert ability
    (match priorities[ability]? with
    | some known => max known priority
    | none => priority)

def nightAbilityPriorities (pack : Pack F) : BTreeMap IrAbility Int :=
  let actions := pack.roles.values.flatMap (·.actions) ++ pack.itemActions.values
  actions.foldl
    (fun priorities action =>
      if !action.window.isNightResolutionWindow then priorities
      else (nightOrderAbilities action).foldl (raisePriority action.constraints.priority) priorities)
    ∅

/-- The derived order of pairs. -/
def edgeCmp : IrAbility × IrAbility → IrAbility × IrAbility → Ordering :=
  compareLex (compareOn Prod.fst) (compareOn Prod.snd)

/-- The edges one rule adds. -/
def ruleEdges (priorities : BTreeMap IrAbility Int) (rule : PrecedenceRule) : List (IrAbility × IrAbility) :=
  (rule.beats.filterMap fun beaten =>
    if priorities.contains rule.when.effect && priorities.contains beaten then
      some (rule.when.effect, beaten)
    else none) ++
  rule.blockedBy.filterMap fun blocker =>
    if priorities.contains blocker && priorities.contains rule.when.effect then
      some (blocker, rule.when.effect)
    else none

/-- `precedence_edges`, of the abilities that have a priority. -/
def precedenceEdges (pack : Pack F) (priorities : BTreeMap IrAbility Int) : List (IrAbility × IrAbility) :=
  ((pack.precedence.flatMap (ruleEdges priorities)).foldl (fun edges edge => edges.insert edge)
    (∅ : Std.TreeSet (IrAbility × IrAbility) edgeCmp)).toList

def nightAbilityOrder (pack : Pack F) : Except PackValidationError (List IrAbility) :=
  let priorities := nightAbilityPriorities pack
  topologicalAbilityOrder priorities (precedenceEdges pack priorities)

end Packs

end Fmarch.Domain
