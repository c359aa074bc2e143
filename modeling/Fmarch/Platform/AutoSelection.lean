import Fmarch.Lib.StableSort
import Fmarch.Platform.Rewards

/-!
# Automatic winners (`day_auto_resolution`)

`select_winners` ranks the participants, by slot id or by a keyed digest, and takes as many as the policy
asks for. The digest is a parameter.

The ranking is a total order of the slot ids, so the order of the participant list plays no part, and fewer
winners are a prefix of more: **`selectWinners_canonical`**.
-/

namespace Fmarch.Platform.AutoSelection

open Fallible (refuseIf)
open Rewards (SlotId)
open Rewards.RecipientBindings (unique mem_unique unique_ordered)
open StableSort

/-- `ModelError`: the refusals of an automatic selection. -/
inductive ModelError where
  | zeroAutoWinnerCount
  | insufficientAutoParticipants (required actual : Nat)
  | missingAutoSeed
  | duplicateAutoParticipant (slot : SlotId)
  deriving DecidableEq

inductive AutoResolvePolicy where
  | firstN (winners : Nat)
  | seededRandom (winners : Nat)

namespace AutoResolvePolicy

def winnerCount : AutoResolvePolicy → Nat
  | firstN winners | seededRandom winners => winners

def requiresSeed : AutoResolvePolicy → Bool
  | firstN _ => false
  | seededRandom _ => true

def validate (policy : AutoResolvePolicy) : Except ModelError Unit :=
  refuseIf (policy.winnerCount = 0) .zeroAutoWinnerCount

/-- The policy of the same kind with another winner count. -/
def withWinners (winners : Nat) : AutoResolvePolicy → AutoResolvePolicy
  | firstN _ => firstN winners
  | seededRandom _ => seededRandom winners

@[simp] theorem winnerCount_withWinners {winners : Nat} {policy : AutoResolvePolicy} :
    (policy.withWinners winners).winnerCount = winners := by cases policy <;> rfl

@[simp] theorem requiresSeed_withWinners {winners : Nat} {policy : AutoResolvePolicy} :
    (policy.withWinners winners).requiresSeed = policy.requiresSeed := by cases policy <;> rfl

end AutoResolvePolicy

section Selection

variable (hash : List UInt8 → List UInt8) {policy : AutoResolvePolicy} {slots slots' winners : List SlotId}
  {seed : Option (BitVec 64)}

/-- `u64::to_le_bytes`. -/
def toLeBytes (seed : BitVec 64) : List UInt8 :=
  (List.range 8).map fun i => .ofBitVec (seed.extractLsb' (8 * i) 8)

def seededRank (seed : BitVec 64) (slot : SlotId) : List UInt8 :=
  hash (toLeBytes seed ++ slot.text.toByteArray.toList)

/-- The comparator of the seeded sort. -/
def seededCmp (seed : BitVec 64) : SlotId → SlotId → Ordering :=
  compareLex (compareOn (seededRank hash seed)) compare

/-- `participants.windows(2).find(|pair| pair[0] == pair[1])`. -/
def duplicate? : List SlotId → Option SlotId
  | slot :: slot' :: slots => if slot = slot' then some slot else duplicate? (slot' :: slots)
  | _ => none

theorem nodup_of_duplicate?_eq_none (hsorted : slots.Pairwise fun a b => (compare a b).isLE)
    (h : duplicate? slots = none) : slots.Nodup := by
  induction slots with
  | nil => exact List.nodup_nil
  | cons slot slots ih =>
    obtain ⟨hle, htail⟩ := List.pairwise_cons.1 hsorted
    cases slots with
    | nil => exact List.nodup_singleton slot
    | cons slot' slots =>
      obtain ⟨hne, hrest⟩ := (ite_eq_iff.1 h).resolve_left (by simp)
      have hnodup := ih htail hrest
      refine List.nodup_cons.2 ⟨fun hmem => hne ?_, hnodup⟩
      rcases List.mem_cons.1 hmem with heq | hlater
      · exact heq
      · -- A later twin is no larger than the neighbour and the neighbour no larger than it.
        have hback := (List.pairwise_cons.1 htail).1 slot hlater
        have hthere := hle slot' List.mem_cons_self
        exact Std.LawfulEqOrd.eq_of_compare (Std.OrientedCmp.isLE_antisymm hthere hback)

/-- A list has as many entries as the set of them exactly when none is listed twice. -/
theorem length_unique : (unique slots).length = slots.length ↔ slots.Nodup := by
  have hset : (unique slots).Nodup := (unique_ordered slots).imp fun hlt heq => by simp [heq] at hlt
  constructor
  · intro hlength
    have hperm := (List.subperm_of_subset hset fun slot => mem_unique.1).perm_of_length_le hlength.ge
    exact hperm.nodup_iff.1 hset
  · intro hnodup
    exact ((List.perm_ext_iff_of_nodup hset hnodup).2 fun slot => mem_unique).length_eq

/-- The duplicate that `expect` relies on is there. -/
theorem duplicate?_isSome (h : (unique (sortBy compare slots)).length ≠ (sortBy compare slots).length) :
    (duplicate? (sortBy compare slots)).isSome := by
  rw [Option.isSome_iff_ne_none]
  exact fun hnone => h (length_unique.2 (nodup_of_duplicate?_eq_none (pairwise_sortBy slots) hnone))

def selectWinners (policy : AutoResolvePolicy) (participantSlots : List SlotId) (seed : Option (BitVec 64)) :
    Except ModelError (List SlotId) := do
  policy.validate
  let participants := sortBy compare participantSlots
  if h : (unique participants).length ≠ participants.length then
    .error (.duplicateAutoParticipant ((duplicate? participants).get (duplicate?_isSome h)))
  else
    let required := policy.winnerCount
    if participants.length < required then
      .error (.insufficientAutoParticipants required participants.length)
    else
      match policy with
      | .firstN _ => .ok (participants.take required)
      | .seededRandom _ =>
        match seed with
        | none => .error .missingAutoSeed
        | some seed => .ok ((sortBy (seededCmp hash seed) participants).take required)

/-- The participants, first winner first. -/
def ranking (policy : AutoResolvePolicy) (seed : Option (BitVec 64)) (slots : List SlotId) : List SlotId :=
  match policy, seed with
  | .seededRandom _, some seed => sortBy (seededCmp hash seed) (sortBy compare slots)
  | _, _ => sortBy compare slots

theorem ranking_perm : (ranking hash policy seed slots).Perm slots := by
  unfold ranking
  split
  · exact (sortBy_perm _ _).trans (sortBy_perm _ _)
  · exact sortBy_perm _ _

theorem ranking_withWinners {count : Nat} :
    ranking hash (policy.withWinners count) seed slots = ranking hash policy seed slots := by
  cases policy <;> cases seed <;> rfl

/-- What `select_winners` asks of the policy, the participants and the seed. -/
structure Selectable (policy : AutoResolvePolicy) (slots : List SlotId) (seed : Option (BitVec 64)) : Prop where
  valid : policy.validate = .ok ()
  nodup : slots.Nodup
  enough : policy.winnerCount ≤ slots.length
  seeded : policy.requiresSeed = true → seed ≠ none

theorem selectWinners_eq_ok : selectWinners hash policy slots seed = .ok winners ↔
    Selectable policy slots seed ∧ winners = (ranking hash policy seed slots).take policy.winnerCount := by
  have hlength : (sortBy compare slots).length = slots.length := (sortBy_perm compare slots).length_eq
  have hnodup : (unique (sortBy compare slots)).length = (sortBy compare slots).length ↔ slots.Nodup :=
    length_unique.trans (sortBy_perm compare slots).nodup_iff
  rw [selectWinners, Fallible.bind_eq_ok]
  by_cases hunique : (unique (sortBy compare slots)).length ≠ (sortBy compare slots).length
  · refine iff_of_false ?_ fun h => hunique (hnodup.2 h.1.nodup)
    rintro ⟨_, -, h⟩
    simp only [dif_pos hunique, reduceCtorEq] at h
  have hmem := hnodup.1 (not_not.1 hunique)
  simp only [dif_neg hunique]
  constructor
  · rintro ⟨⟨⟩, hvalid, h⟩
    obtain ⟨henough, h⟩ := Fallible.ite_error_eq_ok.1 h
    rw [hlength, not_lt] at henough
    cases policy with
    | firstN count =>
      exact ⟨⟨hvalid, hmem, henough, by simp [AutoResolvePolicy.requiresSeed]⟩, (Except.ok.inj h).symm⟩
    | seededRandom count =>
      cases seed with
      | none => simp at h
      | some seed => exact ⟨⟨hvalid, hmem, henough, by simp⟩, (Except.ok.inj h).symm⟩
  · rintro ⟨⟨hvalid, -, henough, hseeded⟩, rfl⟩
    refine ⟨(), hvalid, Fallible.ite_error_eq_ok.2 ⟨by rw [hlength]; exact henough.not_gt, ?_⟩⟩
    cases policy with
    | firstN count => rfl
    | seededRandom count =>
      cases seed with
      | none => exact absurd rfl (hseeded rfl)
      | some seed => rfl

theorem selectWinners_perm (h : slots'.Perm slots) :
    selectWinners hash policy slots' seed = selectWinners hash policy slots seed := by
  have hsorted : sortBy compare slots' = sortBy compare slots := sortBy_congr h
  rw [selectWinners, selectWinners]
  simp only [hsorted]

/-- The winners are as many participants as asked for, each once; the order of the list changes nothing,
fewer winners are the first of them, and the selection fails only where its conditions do. -/
theorem selectWinners_canonical (policy : AutoResolvePolicy) (slots : List SlotId) (seed : Option (BitVec 64)) :
    (∀ winners, selectWinners hash policy slots seed = .ok winners →
      winners.length = policy.winnerCount ∧ winners.Nodup ∧ winners ⊆ slots ∧
      ∀ fewer, 0 < fewer → fewer ≤ policy.winnerCount →
        selectWinners hash (policy.withWinners fewer) slots seed = .ok (winners.take fewer)) ∧
    (∀ slots', slots'.Perm slots →
      selectWinners hash policy slots' seed = selectWinners hash policy slots seed) ∧
    ((∃ error, selectWinners hash policy slots seed = .error error) ↔
      policy.validate ≠ .ok () ∨ ¬ slots.Nodup ∨ slots.length < policy.winnerCount ∨
        policy.requiresSeed = true ∧ seed = none) := by
  refine ⟨fun winners hok => ?_, fun slots' => selectWinners_perm hash, ?_⟩
  · obtain ⟨hselectable, rfl⟩ := (selectWinners_eq_ok hash).1 hok
    have hperm : (ranking hash policy seed slots).Perm slots := ranking_perm hash
    refine ⟨?_, (hperm.nodup_iff.2 hselectable.nodup).take, ?_, fun fewer hpos hfewer => ?_⟩
    · rw [List.length_take, hperm.length_eq, min_eq_left hselectable.enough]
    · exact fun slot hslot => hperm.mem_iff.1 (List.mem_of_mem_take hslot)
    · rw [selectWinners_eq_ok, List.take_take, ranking_withWinners, AutoResolvePolicy.winnerCount_withWinners,
        min_eq_left hfewer]
      refine ⟨⟨Fallible.refuseIf_eq_ok.2 ?_, hselectable.nodup, ?_, ?_⟩, rfl⟩
      · simpa using hpos.ne'
      · simpa using hfewer.trans hselectable.enough
      · simpa using hselectable.seeded
  · have hfails : (∃ error, selectWinners hash policy slots seed = .error error) ↔
        ¬ Selectable policy slots seed := by
      cases hresult : selectWinners hash policy slots seed with
      | ok winners => simpa using ((selectWinners_eq_ok hash).1 hresult).1
      | error error =>
        refine iff_of_true ⟨error, rfl⟩ fun hselectable => ?_
        have hok := (selectWinners_eq_ok hash).2 ⟨hselectable, rfl⟩
        simp [hresult] at hok
    rw [hfails]
    constructor
    · intro h
      by_contra hnot
      simp only [not_or, not_and, not_not, not_lt] at hnot
      exact h ⟨hnot.1, hnot.2.1, hnot.2.2.1, hnot.2.2.2⟩
    · rintro (h | h | h | ⟨hrequired, hnone⟩) hselectable
      · exact h hselectable.valid
      · exact h hselectable.nodup
      · exact hselectable.enough.not_gt h
      · exact hselectable.seeded hrequired hnone

end Selection

/-- Of two winners among three slots the first alone wins where one is asked for. -/
theorem selectWinners_canonical_three :
    selectWinners id (.firstN 1) [⟨"slot_3", by decide⟩, ⟨"slot_1", by decide⟩, ⟨"slot_2", by decide⟩] none =
      .ok [⟨"slot_1", by decide⟩] :=
  ((selectWinners_canonical id (.firstN 2) _ none).1 [⟨"slot_1", by decide⟩, ⟨"slot_2", by decide⟩]
    (by decide +kernel)).2.2.2 1 (by decide) (by decide)

end Fmarch.Platform.AutoSelection
