import Mathlib.Data.List.Induction
import Std.Data.TreeMap.Lemmas

/-!
# Grouping a list by a key

`collect key xs` gathers the elements of a list in a map, each under its key and in the order of the list,
as a program does that pushes into `map.entry(key).or_default()`.

**`mem_toList_collect`**: the entries of the map are the keys that occur, each with its elements.
-/

namespace Grouping

variable {κ α : Type} [Ord κ]

theorem values_eq_map_toList {β : Type} (map : Std.TreeMap κ β) : map.values = map.toList.map (·.2) := by
  show map.inner.inner.values = (Std.DTreeMap.Internal.Impl.Const.toList map.inner.inner).map (·.2)
  rw [Std.DTreeMap.Internal.Impl.values_eq_map_snd,
    Std.DTreeMap.Internal.Impl.Const.toList_eq_toListModel_map, List.map_map]
  rfl

/-- The elements under their keys; an element without a key is left out. -/
def collect (key : α → Option κ) (xs : List α) : Std.TreeMap κ (List α) :=
  xs.foldl
    (fun map x =>
      match key x with
      | none => map
      | some k => map.insert k (map.getD k [] ++ [x]))
    ∅

section Collect

variable {key : α → Option κ} {xs : List α} {k : κ}

theorem collect_concat (xs : List α) (x : α) : collect key (xs ++ [x]) = match key x with
      | none => collect key xs
      | some k => (collect key xs).insert k ((collect key xs).getD k [] ++ [x]) := by
  unfold collect
  rw [List.foldl_append]
  rfl

variable [DecidableEq κ] [Std.TransOrd κ] [Std.LawfulEqOrd κ]

theorem getElem?_collect : (collect key xs)[k]? =
    if xs.filter (key · = some k) = [] then none else some (xs.filter (key · = some k)) := by
  induction xs using List.reverseRecOn with
  | nil => simp [collect]
  | append_singleton xs x ih =>
    rw [collect_concat, List.filter_append]
    cases hkey : key x with
    | none => simp [hkey, ih]
    | some other =>
      dsimp only
      rw [Std.TreeMap.getElem?_insert, Std.TreeMap.getD_eq_getD_getElem?]
      by_cases hsame : other = k
      · subst hsame
        rw [ih]
        by_cases hempty : xs.filter (key · = some other) = [] <;> simp [hkey, hempty]
      · simp [hkey, hsame, ih, Std.LawfulEqCmp.compare_eq_iff_eq]

/-- The entries are the keys that occur, each with its elements. -/
theorem mem_toList_collect {ys : List α} : (k, ys) ∈ (collect key xs).toList ↔
    ys = xs.filter (key · = some k) ∧ ys ≠ [] := by
  rw [Std.TreeMap.mem_toList_iff_getElem?_eq_some, getElem?_collect]
  split
  · rename_i hempty
    rw [hempty]
    exact iff_of_false (by simp) fun h => h.2 h.1
  · rename_i hsome
    rw [Option.some.injEq]
    constructor
    · rintro rfl
      exact ⟨rfl, hsome⟩
    · exact fun h => h.1.symm

theorem mem_values_collect {ys : List α} : ys ∈ (collect key xs).values ↔
    ∃ k, ys = xs.filter (key · = some k) ∧ ys ≠ [] := by
  rw [values_eq_map_toList]
  constructor
  · intro h
    obtain ⟨⟨k, ys'⟩, hmem, rfl⟩ := List.mem_map.1 h
    exact ⟨k, mem_toList_collect.1 hmem⟩
  · rintro ⟨k, h⟩
    exact List.mem_map.2 ⟨(k, ys), mem_toList_collect.2 h, rfl⟩

/-- Every element with a key is somewhere in the map. -/
theorem mem_flatten_collect {x : α} : x ∈ (collect key xs).values.flatten ↔
    x ∈ xs ∧ (key x).isSome = true := by
  rw [List.mem_flatten]
  constructor
  · rintro ⟨ys, hys, hx⟩
    obtain ⟨k, rfl, -⟩ := mem_values_collect.1 hys
    obtain ⟨hmem, hkey⟩ := List.mem_filter.1 hx
    exact ⟨hmem, by simp [of_decide_eq_true hkey]⟩
  · rintro ⟨hmem, hkey⟩
    obtain ⟨k, hk⟩ := Option.isSome_iff_exists.1 hkey
    have hx : x ∈ xs.filter (key · = some k) := List.mem_filter.2 ⟨hmem, by simp [hk]⟩
    exact ⟨_, mem_values_collect.2 ⟨k, rfl, List.ne_nil_of_mem hx⟩, hx⟩

end Collect

end Grouping
