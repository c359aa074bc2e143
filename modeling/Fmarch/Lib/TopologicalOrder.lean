import Mathlib.Data.Set.Finite.List

/-!
# Greedy topological orders

Nodes are placed one after the other, each once all that precede it are placed, and among those that are
ready always one that comes first. `Placed` is what has been placed so far.

**`Placed.complete_of_acyclic`**: without a cycle, placing stops only when every node is placed.
**`Placed.acyclic`**: with a cycle, it stops before that.
-/

namespace TopologicalOrder

variable {α : Type} {nodes : List α} {precedes : α → α → Prop} {first : α → α → Prop} {placed : List α}
  {a b : α}

/-- No node precedes itself, not even through others. -/
def Acyclic (precedes : α → α → Prop) : Prop := ∀ a, ¬ Relation.TransGen precedes a a

/-- A node that can be placed next. -/
structure Ready (nodes : List α) (precedes : α → α → Prop) (placed : List α) (a : α) : Prop where
  node : a ∈ nodes
  fresh : a ∉ placed
  preceded : ∀ b, precedes b a → b ∈ placed

/-- The ways to place nodes. -/
inductive Placed (nodes : List α) (precedes : α → α → Prop) (first : α → α → Prop) : List α → Prop where
  | nil : Placed nodes precedes first []
  | place {placed : List α} {a : α} (h : Placed nodes precedes first placed)
      (ready : Ready nodes precedes placed a) (greedy : ∀ b, Ready nodes precedes placed b → first a b) :
      Placed nodes precedes first (placed ++ [a])

theorem Placed.nodup (h : Placed nodes precedes first placed) : placed.Nodup := by
  induction h with
  | nil => exact List.nodup_nil
  | place h ready _ ih => exact List.nodup_append.2 ⟨ih, List.nodup_singleton _, by
      rintro b hb c hc rfl
      exact ready.fresh (List.mem_singleton.1 hc ▸ hb)⟩

theorem Placed.subset (h : Placed nodes precedes first placed) : ∀ a ∈ placed, a ∈ nodes := by
  induction h with
  | nil => exact nofun
  | place h ready _ ih =>
    intro b hb
    rcases List.mem_append.1 hb with hold | hnew
    · exact ih b hold
    · exact List.mem_singleton.1 hnew ▸ ready.node

/-- What was placed at a position was ready there and came first. -/
theorem Placed.at (h : Placed nodes precedes first placed) {before after : List α}
    (hsplit : placed = before ++ a :: after) :
    Ready nodes precedes before a ∧ ∀ b, Ready nodes precedes before b → first a b := by
  induction h generalizing after with
  | nil => simp at hsplit
  | place h ready greedy ih =>
    rcases List.eq_nil_or_concat after with rfl | ⟨rest, last, rfl⟩
    · obtain ⟨rfl, hlast⟩ := List.append_inj' hsplit rfl
      rw [← List.singleton_inj.1 hlast]
      exact ⟨ready, greedy⟩
    · rw [List.concat_eq_append, ← List.cons_append, ← List.append_assoc] at hsplit
      exact ih (List.append_inj' hsplit rfl).1

theorem Placed.respects (h : Placed nodes precedes first placed) (hedge : precedes b a)
    {before after : List α} (hsplit : placed = before ++ a :: after) : b ∈ before :=
  (h.at hsplit).1.preceded b hedge

section Cycles

variable [DecidableEq α]

theorem Placed.idxOf_lt (h : Placed nodes precedes first placed) (ha : a ∈ placed) (hedge : precedes b a) :
    placed.idxOf b < placed.idxOf a := by
  obtain ⟨before, after, hsplit, hbefore⟩ := List.eq_append_cons_of_mem ha
  have hb := h.respects hedge hsplit
  rw [hsplit, List.idxOf_append_of_mem hb, List.idxOf_append_of_notMem hbefore, List.idxOf_cons_self,
    Nat.add_zero]
  exact List.idxOf_lt_length_iff.2 hb

/-- Where all nodes are placed there is no cycle. -/
theorem Placed.acyclic (h : Placed nodes precedes first placed) (hall : ∀ a ∈ nodes, a ∈ placed)
    (hnodes : ∀ a b, precedes a b → b ∈ nodes) : Acyclic precedes := by
  intro a hcycle
  have hlt : ∀ {a b}, Relation.TransGen precedes a b → placed.idxOf a < placed.idxOf b := by
    intro a b hpath
    induction hpath with
    | single hedge => exact h.idxOf_lt (hall _ (hnodes _ _ hedge)) hedge
    | tail _ hedge ih => exact ih.trans (h.idxOf_lt (hall _ (hnodes _ _ hedge)) hedge)
  exact Nat.lt_irrefl _ (hlt hcycle)

end Cycles

/-- Without a cycle some node that is left is preceded by placed ones only. -/
theorem exists_ready (acyclic : Acyclic precedes) (hnodes : ∀ a b, precedes a b → a ∈ nodes)
    (hleft : ∃ a ∈ nodes, a ∉ placed) : ∃ a, Ready nodes precedes placed a := by
  obtain ⟨start, hstart, hfresh⟩ := hleft
  let Left := { a // a ∈ nodes ∧ a ∉ placed }
  have hfinite : Finite Left := (Set.Finite.subset nodes.finite_toSet fun _ h => h.1).to_subtype
  let reaches : Left → Left → Prop := fun a b => Relation.TransGen precedes a.1 b.1
  have htrans : IsTrans Left reaches := ⟨fun _ _ _ => Relation.TransGen.trans⟩
  have hirrefl : Std.Irrefl reaches := ⟨fun a => acyclic a.1⟩
  obtain ⟨a, -, hleast⟩ := (Finite.wellFounded_of_trans_of_irrefl reaches).has_min Set.univ
    ⟨⟨start, hstart, hfresh⟩, trivial⟩
  refine ⟨a.1, a.2.1, a.2.2, fun b hedge => ?_⟩
  by_contra hb
  exact hleast ⟨b, hnodes b a.1 hedge, hb⟩ trivial (.single hedge)

theorem Placed.complete_of_acyclic (acyclic : Acyclic precedes) (hnodes : ∀ a b, precedes a b → a ∈ nodes)
    (hstuck : ∀ a, ¬ Ready nodes precedes placed a) : ∀ a ∈ nodes, a ∈ placed := by
  intro a ha
  by_contra hfresh
  obtain ⟨b, hready⟩ := exists_ready acyclic hnodes ⟨a, ha, hfresh⟩
  exact hstuck b hready

end TopologicalOrder
