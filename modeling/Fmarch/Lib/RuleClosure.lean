import Mathlib.Data.List.Perm.Subperm
import Mathlib.Data.Set.Basic
import Std.Data.TreeSet
import Fmarch.Lib.Saturation

/-!
# Rules that add keys until nothing new comes

Rules over a growing set of keys: an enabled rule adds its keys, and what the set gains enables no fewer
rules. A pass fires the rules of a list one after the other, each in the set its predecessors left.

**`Rules.closure_fires`** and **`Rules.closure_within`**: passes until one adds nothing end in the least
set that every rule enabled in it has fired into, so the order of the list and the sets met on the way do
not matter.
-/

namespace Saturation

open Std (TreeSet)

/-- Rules that a larger set enables no less. -/
structure Rules (K R : Type) [Ord K] where
  enabled : R → TreeSet K → Bool
  adds : R → List K
  mono : ∀ rule {small large : TreeSet K}, (∀ key ∈ small, key ∈ large) →
    enabled rule small = true → enabled rule large = true

namespace Rules

variable {K R : Type} [Ord K]

/-- One rule. -/
def fire (rules : Rules K R) (keys : TreeSet K) (rule : R) : TreeSet K :=
  if rules.enabled rule keys then keys.insertMany (rules.adds rule) else keys

/-- One pass over a list of rules. -/
def pass (rules : Rules K R) (list : List R) (keys : TreeSet K) : TreeSet K :=
  list.foldl rules.fire keys

/-- Passes until one adds nothing. -/
def closure (rules : Rules K R) (list : List R) (fuel : Nat) : TreeSet K :=
  saturate (rules.pass list) (·.size) fuel ∅

variable [Std.TransOrd K] [Std.LawfulEqOrd K] {rules : Rules K R} {list : List R} {keys : TreeSet K}

theorem mem_insertMany {xs : List K} {key : K} : key ∈ keys.insertMany xs ↔ key ∈ keys ∨ key ∈ xs := by
  classical
  rw [TreeSet.mem_insertMany_list]
  simp

theorem mem_fire {rule : R} {key : K} : key ∈ rules.fire keys rule ↔
      key ∈ keys ∨ rules.enabled rule keys = true ∧ key ∈ rules.adds rule := by
  unfold fire
  split
  · rename_i henabled
    rw [mem_insertMany]
    simp [henabled]
  · rename_i hdisabled
    simp [hdisabled]

theorem mem_pass_of_mem {key : K} (h : key ∈ keys) : key ∈ rules.pass list keys := by
  unfold pass
  exact Steps.foldl_inv (fun next : TreeSet K => key ∈ next)
    (fun _ _ _ hnext => mem_fire.2 (.inl hnext)) h

/-- A rule that is enabled before a pass has fired after it. -/
theorem pass_fires {rule : R} (hrule : rule ∈ list) (henabled : rules.enabled rule keys = true) :
    ∀ key ∈ rules.adds rule, key ∈ rules.pass list keys := by
  intro key hkey
  unfold pass
  induction list generalizing keys with
  | nil => exact absurd hrule List.not_mem_nil
  | cons first list ih =>
    rcases List.mem_cons.1 hrule with rfl | hlater
    · have hfired : key ∈ rules.pass list (rules.fire keys rule) :=
        mem_pass_of_mem (mem_fire.2 (.inr ⟨henabled, hkey⟩))
      exact hfired
    · exact ih hlater (rules.mono rule (fun _ hold => mem_fire.2 (.inl hold)) henabled)

/-- A set of keys that no rule enabled within it leaves. -/
def Within (rules : Rules K R) (list : List R) (bound : Set K) : Prop :=
  ∀ rule ∈ list, ∀ small : TreeSet K, (∀ key ∈ small, key ∈ bound) →
    rules.enabled rule small = true → ∀ key ∈ rules.adds rule, key ∈ bound

theorem pass_within {bound : Set K} (hbound : rules.Within list bound)
    (h : ∀ key ∈ keys, key ∈ bound) : ∀ key ∈ rules.pass list keys, key ∈ bound := by
  refine Steps.foldl_inv (fun next : TreeSet K => ∀ key ∈ next, key ∈ bound)
    (fun next rule hrule hnext key hkey => ?_) h
  rcases mem_fire.1 hkey with hold | ⟨henabled, hadded⟩
  · exact hnext key hold
  · exact hbound rule hrule next hnext henabled key hadded

/-! ## The end of the loop -/

/-- The keys the rules of a list can add. -/
def space (rules : Rules K R) (list : List R) : List K := list.flatMap rules.adds

omit [Std.TransOrd K] [Std.LawfulEqOrd K] in
theorem within_space : rules.Within list {key | key ∈ rules.space list} :=
  fun rule hrule _ _ _ _ hkey => List.mem_flatMap.2 ⟨rule, hrule, hkey⟩

theorem nodup_toList (keys : TreeSet K) : keys.toList.Nodup := by
  refine (TreeSet.distinct_toList (t := keys)).imp fun {first second} hne heq => ?_
  rw [heq] at hne
  exact hne Std.ReflCmp.compare_self

theorem size_le_of_subset {xs : List K} (h : ∀ key ∈ keys, key ∈ xs) : keys.size ≤ xs.length := by
  rw [← TreeSet.length_toList]
  refine ((nodup_toList keys).subperm fun key hkey => ?_).length_le
  exact h key (TreeSet.mem_toList.1 hkey)

/-- Two sets of one size, one of them in the other, have the same keys. -/
theorem mem_of_size_eq {large : TreeSet K} (hsub : ∀ key ∈ keys, key ∈ large)
    (hsize : large.size = keys.size) {key : K} (h : key ∈ large) : key ∈ keys := by
  have hsubperm : keys.toList.Subperm large.toList :=
    (nodup_toList keys).subperm fun key hkey =>
      TreeSet.mem_toList.2 (hsub key (TreeSet.mem_toList.1 hkey))
  have hlength : large.toList.length ≤ keys.toList.length := by
    rw [TreeSet.length_toList, TreeSet.length_toList, hsize]
  have hperm := hsubperm.perm_of_length_le hlength
  exact TreeSet.mem_toList.1 (hperm.mem_iff.2 (TreeSet.mem_toList.2 h))

theorem pass_bounded (rules : Rules K R) (list : List R) : Bounded (rules.pass list) (·.size)
    (fun keys => ∀ key ∈ keys, key ∈ rules.space list) (rules.space list).length where
  keeps _ hkeys := pass_within within_space hkeys
  grows keys _ := by
    rw [← TreeSet.length_toList, ← TreeSet.length_toList]
    refine ((nodup_toList keys).subperm fun key hkey => ?_).length_le
    exact TreeSet.mem_toList.2 (mem_pass_of_mem (TreeSet.mem_toList.1 hkey))
  below _ hkeys := size_le_of_subset hkeys

section Closure

variable {fuel : Nat} (enough : (rules.space list).length < fuel)
include enough

theorem closure_settled : ∃ last : TreeSet K, rules.closure list fuel = rules.pass list last ∧
    ∀ key, key ∈ rules.closure list fuel ↔ key ∈ last := by
  have hempty : ∀ key ∈ (∅ : TreeSet K), key ∈ rules.space list :=
    fun key hkey => absurd hkey TreeSet.not_mem_emptyc
  have hfuel : (rules.space list).length < fuel + (∅ : TreeSet K).size := by omega
  obtain ⟨last, -, hsame, hlast⟩ := saturate_settles (pass_bounded rules list) hempty hfuel
  refine ⟨last, hlast, fun key => ?_⟩
  unfold closure
  rw [hlast]
  exact ⟨mem_of_size_eq (fun _ => mem_pass_of_mem) hsame, mem_pass_of_mem⟩

theorem closure_fires {rule : R} (hrule : rule ∈ list)
    (henabled : rules.enabled rule (rules.closure list fuel) = true) :
    ∀ key ∈ rules.adds rule, key ∈ rules.closure list fuel := by
  obtain ⟨last, hlast, hmem⟩ := closure_settled enough
  intro key hkey
  rw [hlast]
  exact pass_fires hrule (rules.mono rule (fun key h => (hmem key).1 h) henabled) key hkey

theorem closure_enough (extra : Nat) : rules.closure list (fuel + extra) = rules.closure list fuel :=
  saturate_enough (pass_bounded rules list) extra
    (fun key hkey => absurd hkey TreeSet.not_mem_emptyc) (by omega)

end Closure

/-- The end of the loop is in every set that no rule enabled within it leaves. -/
theorem closure_within {bound : Set K} (hbound : rules.Within list bound) (fuel : Nat) :
    ∀ key ∈ rules.closure list fuel, key ∈ bound := by
  have hloop : ∀ (fuel : Nat) (keys : TreeSet K), (∀ key ∈ keys, key ∈ bound) →
      ∀ key ∈ saturate (rules.pass list) (·.size) fuel keys, key ∈ bound := by
    intro fuel
    induction fuel with
    | zero => exact fun _ hkeys => hkeys
    | succ fuel ih =>
      intro keys hkeys
      have hnext := pass_within hbound hkeys
      unfold saturate
      split
      · exact hnext
      · exact ih _ hnext
  exact hloop fuel ∅ fun key hkey => absurd hkey TreeSet.not_mem_emptyc

/-- A key is in the end where a rule that is enabled in the end adds it. -/
theorem mem_closure {fuel : Nat} (enough : (rules.space list).length < fuel) {key : K} :
    key ∈ rules.closure list fuel ↔ ∃ rule ∈ list, rules.enabled rule (rules.closure list fuel) = true ∧
        key ∈ rules.adds rule := by
  constructor
  · have hbound : rules.Within list {key | ∃ rule ∈ list,
        rules.enabled rule (rules.closure list fuel) = true ∧ key ∈ rules.adds rule} := by
      intro rule hrule small hsmall henabled key hkey
      refine ⟨rule, hrule, rules.mono rule (fun other hother => ?_) henabled, hkey⟩
      obtain ⟨added, hadded, hfires, hmem⟩ := hsmall other hother
      exact closure_fires enough hadded hfires other hmem
    exact closure_within hbound fuel key
  · rintro ⟨rule, hrule, henabled, hkey⟩
    exact closure_fires enough hrule henabled key hkey

theorem closure_subset {other : List R} (hsub : ∀ rule ∈ list, rule ∈ other) (fuel : Nat)
    {otherFuel : Nat} (enough : (rules.space other).length < otherFuel) :
    ∀ key ∈ rules.closure list fuel, key ∈ rules.closure other otherFuel := by
  have hbound : rules.Within list {key | key ∈ rules.closure other otherFuel} := by
    intro rule hrule small hsmall henabled
    exact closure_fires enough (hsub rule hrule) (rules.mono rule hsmall henabled)
  exact closure_within hbound fuel

end Rules

end Saturation
