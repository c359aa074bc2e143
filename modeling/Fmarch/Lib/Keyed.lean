import Mathlib.Data.List.Nodup

/-!
# Lists used as keyed collections

A list is used as a table by looking an entry up with a predicate and rewriting the first match,
or by removing every entry under a key and appending the new one. The lemmas here say what such
an edit leaves unchanged: `Nodup` of the keys, the other entries, the result of every other
lookup. They hold over any entry and key type.

**`map_upsert_nodup`**, **`map_pushNew_nodup`**: both ways to insert keep the keys distinct.
**`find?_updateFirst`**: an update of the first match is invisible to a lookup under another key.
**`perm_upserts_iff`**: everything that was upserted is there exactly if no two keys are the same.
-/

namespace Keyed

variable {α κ : Type}

/-! ## Edits -/

/-- Rewrite the first entry satisfying `p`. -/
def updateFirst (p : α → Bool) (f : α → α) : List α → List α
  | [] => []
  | x :: xs => if p x then f x :: xs else x :: updateFirst p f xs

/-- Remove every entry satisfying `same`, then append `x`. -/
def upsert (same : α → Bool) (x : α) (xs : List α) : List α :=
  xs.filter (fun y => !same y) ++ [x]

/-- Append `x` unless some entry satisfies `same`. -/
def pushNew (same : α → Bool) (x : α) (xs : List α) : List α :=
  if xs.any same then xs else xs ++ [x]

/-! ## Keys stay distinct -/

variable {xs : List α} {same p : α → Bool} {x : α} {f : α → α}

theorem map_filter_nodup (key : α → κ) (p : α → Bool) (h : (xs.map key).Nodup) :
    ((xs.filter p).map key).Nodup :=
  h.sublist (List.filter_sublist.map key)

theorem filterMap_sublist_map {key : α → κ} {f : α → Option κ} (h : ∀ x k, f x = some k → key x = k) : (xs.filterMap f).Sublist (xs.map key) := by
  induction xs with
  | nil => exact List.Sublist.slnil
  | cons x xs ih =>
    rw [List.filterMap_cons, List.map_cons]
    cases hx : f x with
    | none => exact ih.cons _
    | some k => exact h x k hx ▸ ih.cons_cons _

theorem map_upsert_nodup (key : α → κ) (hsame : ∀ y, key y = key x → same y = true) (h : (xs.map key).Nodup) :
    ((upsert same x xs).map key).Nodup := by
  unfold upsert
  rw [List.map_append, List.nodup_append]
  refine ⟨map_filter_nodup key _ h, by simp, ?_⟩
  intro k hk k' hk' heq
  obtain ⟨y, hy, rfl⟩ := List.mem_map.1 hk
  have hkx : k' = key x := by simpa using hk'
  have hsy := hsame y (heq.trans hkx)
  simp [hsy] at hy

theorem map_pushNew_nodup (key : α → κ) (hsame : ∀ y, key y = key x → same y = true)
    (h : (xs.map key).Nodup) :
    ((pushNew same x xs).map key).Nodup := by
  unfold pushNew
  split
  · exact h
  · rename_i hany
    rw [List.map_append, List.nodup_append]
    refine ⟨h, by simp, ?_⟩
    intro k hk k' hk' heq
    obtain ⟨y, hy, rfl⟩ := List.mem_map.1 hk
    have hkx : k' = key x := by simpa using hk'
    exact hany (List.any_eq_true.2 ⟨y, hy, hsame y (heq.trans hkx)⟩)

theorem prefix_pushNew (same : α → Bool) (x : α) (xs : List α) : xs <+: pushNew same x xs := by
  unfold pushNew
  split
  · exact List.prefix_refl xs
  · exact List.prefix_append xs [x]

theorem mem_upsert {y : α} : y ∈ upsert same x xs ↔ (y ∈ xs ∧ same y = false) ∨ y = x := by
  simp [upsert]

/-! ## Many upserts -/

section Upserts

variable [DecidableEq κ] {key : α → κ} {rows ws expected : List α} {x y : α}

/-- Upsert each of a list under its key. -/
def upserts (key : α → κ) (rows ws : List α) : List α :=
  ws.foldl (fun rows x => upsert (fun y => decide (key y = key x)) x rows) rows

theorem upserts_append (ws' : List α) :
    upserts key rows (ws ++ ws') = upserts key (upserts key rows ws) ws' := List.foldl_append

theorem foldl_upserts {σ ε : Type} (part : σ → List α) {f : σ → ε → σ} {written : ε → List α}
    (h : ∀ s e, part (f s e) = upserts key (part s) (written e)) (es : List ε) (s : σ) :
    part (es.foldl f s) = upserts key (part s) (es.flatMap written) := by
  induction es generalizing s with
  | nil => rfl
  | cons e es ih => rw [List.foldl_cons, ih, h, List.flatMap_cons, upserts_append]

/-- A fold that can fail, whose body upserts into a part of its state. -/
theorem foldlM_upserts {σ ε : Type} (part : σ → List α) {f : σ → ε → Option σ} {written : ε → List α}
    (h : ∀ {s e s'}, f s e = some s' → part s' = upserts key (part s) (written e)) {es : List ε}
    {s s' : σ} (hfold : es.foldlM f s = some s') :
    part s' = upserts key (part s) (es.flatMap written) := by
  induction es generalizing s with
  | nil =>
    obtain rfl := Option.some.inj hfold
    rfl
  | cons e es ih =>
    obtain ⟨next, hnext, hrest⟩ := Option.bind_eq_some_iff.1 hfold
    rw [ih hrest, h hnext, List.flatMap_cons, upserts_append]

theorem map_upserts_nodup (h : (rows.map key).Nodup) : ((upserts key rows ws).map key).Nodup := by
  induction ws generalizing rows with
  | nil => exact h
  | cons x ws ih => exact ih (map_upsert_nodup key (fun y hy => by simpa using hy) h)

theorem mem_of_mem_upserts (h : x ∈ upserts key rows ws) : x ∈ rows ∨ x ∈ ws := by
  induction ws generalizing rows with
  | nil => exact .inl h
  | cons y ws ih =>
    rcases ih h with hupsert | hrest
    · rcases mem_upsert.1 hupsert with ⟨hbefore, -⟩ | rfl
      · exact .inl hbefore
      · exact .inr List.mem_cons_self
    · exact .inr (List.mem_cons_of_mem y hrest)

theorem exists_mem_upserts (h : x ∈ rows ∨ x ∈ ws) : ∃ y ∈ upserts key rows ws, key y = key x := by
  induction ws generalizing rows x with
  | nil => exact ⟨x, h.resolve_right List.not_mem_nil, rfl⟩
  | cons z ws ih =>
    have hlast : z ∈ upsert (fun y => key y == key z) z rows := mem_upsert.2 (.inr rfl)
    rcases h with hrow | hnew
    · by_cases hkey : key x = key z
      · rw [hkey]
        exact ih (.inl hlast)
      · exact ih (.inl (mem_upsert.2 (.inl ⟨hrow, by simpa using hkey⟩)))
    · rcases List.mem_cons.1 hnew with rfl | hrest
      · exact ih (.inl hlast)
      · exact ih (.inr hrest)

/-- What is upserted into an empty table is all there, where a key is always written alike. -/
theorem mem_upserts_nil (h : ∀ x ∈ ws, ∀ y ∈ ws, key x = key y → x = y) : x ∈ upserts key [] ws ↔ x ∈ ws := by
  refine ⟨fun hx => (mem_of_mem_upserts hx).resolve_left List.not_mem_nil, fun hx => ?_⟩
  obtain ⟨y, hy, hkey⟩ : ∃ y ∈ upserts key [] ws, key y = key x := exists_mem_upserts (.inr hx)
  rwa [← h y ((mem_of_mem_upserts hy).resolve_left List.not_mem_nil) x hx hkey]

/-- What is upserted into an empty table is all there, each on its own, exactly if the keys are
distinct. -/
theorem perm_upserts_iff (h : ∀ x, x ∈ ws ↔ x ∈ expected) :
    (upserts key [] ws).Perm expected ↔ (expected.map key).Nodup := by
  have hnodup : ((upserts key [] ws).map key).Nodup := map_upserts_nodup List.nodup_nil
  refine ⟨fun hperm => (hperm.map key).nodup_iff.1 hnodup, fun hdistinct => ?_⟩
  refine (List.perm_ext_iff_of_nodup hnodup.of_map hdistinct.of_map).2 fun x => ?_
  exact (mem_upserts_nil fun x hx y hy =>
    List.inj_on_of_nodup_map hdistinct ((h x).1 hx) ((h y).1 hy)).trans (h x)

end Upserts

/-! ## Lookups across an update of the first match -/

theorem map_updateFirst (key : α → κ) (hf : ∀ x, key (f x) = key x) (xs : List α) : (updateFirst p f xs).map key = xs.map key := by
  induction xs with
  | nil => rfl
  | cons x xs ih =>
    unfold updateFirst
    split
    · simp [hf x]
    · simp [ih]

theorem mem_updateFirst {y : α} (h : y ∈ updateFirst p f xs) : y ∈ xs ∨ ∃ x ∈ xs, y = f x := by
  induction xs with
  | nil => exact absurd h List.not_mem_nil
  | cons x xs ih =>
    unfold updateFirst at h
    split at h
    · rcases List.mem_cons.1 h with rfl | htail
      · exact .inr ⟨x, List.mem_cons_self, rfl⟩
      · exact .inl (List.mem_cons_of_mem x htail)
    · rcases List.mem_cons.1 h with rfl | htail
      · exact .inl List.mem_cons_self
      · rcases ih htail with hmem | ⟨z, hz, rfl⟩
        · exact .inl (List.mem_cons_of_mem x hmem)
        · exact .inr ⟨z, List.mem_cons_of_mem x hz, rfl⟩

/-- An entry stays, as it was or rewritten. -/
theorem updateFirst_keeps (h : x ∈ xs) : x ∈ updateFirst p f xs ∨ f x ∈ updateFirst p f xs := by
  induction xs with
  | nil => exact absurd h List.not_mem_nil
  | cons y ys ih =>
    unfold updateFirst
    rcases List.mem_cons.1 h with rfl | htail
    · split
      · exact .inr List.mem_cons_self
      · exact .inl List.mem_cons_self
    · split
      · exact .inl (List.mem_cons_of_mem _ htail)
      · exact (ih htail).imp (List.mem_cons_of_mem _) (List.mem_cons_of_mem _)

/-- Where the keys are distinct, the first match is the only one. -/
theorem updateFirst_eq_map [DecidableEq κ] (key : α → κ) (f : α → α) (k : κ) (h : (xs.map key).Nodup) :
    updateFirst (fun x => key x == k) f xs = xs.map fun x => if key x = k then f x else x := by
  induction xs with
  | nil => rfl
  | cons x xs ih =>
    obtain ⟨hfresh, hrest⟩ := List.nodup_cons.1 h
    unfold updateFirst
    rw [List.map_cons]
    by_cases hx : key x = k
    · have hothers : (xs.map fun y => if key y = k then f y else y) = xs := by
        refine (List.map_congr_left fun y hy => ?_).trans (List.map_id xs)
        have hkey : key y ≠ k := by
          intro hkey
          rw [hx, ← hkey] at hfresh
          exact hfresh (List.mem_map_of_mem hy)
        simp [hkey]
      rw [if_pos hx, hothers]
      simp [hx]
    · rw [if_neg hx, ih hrest]
      simp [hx]

/-- An edit of one match is one of all matches if there is only one. -/
theorem modify_eq_map (f : α → α) {i : Nat} (hi : xs[i]? = some x) (hx : p x = true) (h : xs.countP p ≤ 1) :
    xs.modify i f = xs.map fun y => if p y then f y else y := by
  induction xs generalizing i with
  | nil => simp at hi
  | cons y ys ih =>
    rw [List.countP_cons] at h
    cases i with
    | zero =>
      obtain rfl : y = x := by simpa using hi
      rw [if_pos hx] at h
      have hnone : ∀ z ∈ ys, ¬ p z = true := List.countP_eq_zero.1 (by omega)
      have hothers : (ys.map fun z => if p z then f z else z) = ys :=
        (List.map_congr_left fun z hz => by simp [hnone z hz]).trans (List.map_id ys)
      rw [List.map_cons, hothers]
      simp [hx]
    | succ i =>
      have hmem : x ∈ ys := List.mem_of_getElem? (by simpa using hi)
      have hone : 0 < ys.countP p := List.countP_pos_iff.2 ⟨x, hmem, hx⟩
      have hy : ¬ p y = true := by
        intro hy
        rw [if_pos hy] at h
        omega
      rw [List.map_cons, if_neg hy]
      simp only [List.modify_succ_cons]
      rw [ih (by simpa using hi) (by omega)]

/-- Looking up a key after an update of the first match: the match is rewritten if its key is the
one looked up, and every other lookup is unchanged. -/
theorem find?_updateFirst [DecidableEq κ] (key : α → κ) (hf : ∀ x, key (f x) = key x) (k k' : κ)
    (xs : List α) :
    (updateFirst (fun x => key x == k) f xs).find? (fun x => key x == k') =
      if k = k' then (xs.find? fun x => key x == k').map f else xs.find? fun x => key x == k' := by
  induction xs with
  | nil => simp [updateFirst]
  | cons x xs ih =>
    unfold updateFirst
    by_cases hx : key x = k
    · subst hx
      by_cases hk : key x = k'
      · simp [hf x, hk]
      · simp [hf x, hk]
    · by_cases hk : key x = k'
      · subst hk
        simp [hx, Ne.symm hx]
      · simp [hx, hk, ih]

theorem find?_map_of_key [DecidableEq κ] (key : α → κ) (hf : ∀ x, key (f x) = key x) (k : κ) (xs : List α) :
    (xs.map f).find? (fun x => key x == k) = (xs.find? fun x => key x == k).map f := by
  rw [List.find?_map]
  simp only [Function.comp_def, hf]

theorem find?_key_of_nodup [DecidableEq κ] (key : α → κ) (h : (xs.map key).Nodup) (hx : x ∈ xs) : xs.find? (fun y => key y == key x) = some x := by
  obtain ⟨y, hy⟩ : ∃ y, xs.find? (fun y => key y == key x) = some y :=
    Option.isSome_iff_exists.1 (List.find?_isSome.2 ⟨x, hx, by simp⟩)
  have hkey : key y = key x := by simpa using List.find?_some hy
  rw [hy, List.inj_on_of_nodup_map h (List.mem_of_find?_eq_some hy) hx hkey]

/-- A key that occurs once picks its element alone. -/
theorem filter_key_of_nodup [DecidableEq κ] (key : α → κ) {before after : List α}
    (h : ((before ++ x :: after).map key).Nodup) :
    (before ++ x :: after).filter (key · = key x) = [x] := by
  rw [List.map_append, List.map_cons, List.nodup_middle, List.nodup_cons] at h
  have hnone : ∀ y ∈ before ++ after, ¬ decide (key y = key x) = true := by
    intro y hy hsame
    refine h.1 ?_
    rw [← List.map_append, ← of_decide_eq_true hsame]
    exact List.mem_map_of_mem hy
  rw [List.filter_append, List.filter_cons_of_pos (by simp),
    List.filter_eq_nil_iff.2 fun y hy => hnone y (List.mem_append_left after hy),
    List.filter_eq_nil_iff.2 fun y hy => hnone y (List.mem_append_right before hy),
    List.nil_append]

theorem perm_of_filter_perm [DecidableEq κ] (key : α → κ) {ys : List α}
    (h : ∀ k, (xs.filter (key · = k)).Perm (ys.filter (key · = k))) : xs.Perm ys := by
  classical
  refine List.perm_iff_count.2 fun x => ?_
  have hcount : ∀ zs : List α, (zs.filter (key · = key x)).count x = zs.count x :=
    fun zs => List.count_filter (by simp)
  rw [← hcount xs, ← hcount ys]
  exact (h (key x)).count_eq x

/-- Where the keys are distinct, a lookup does not depend on the order. -/
theorem find?_perm [DecidableEq κ] (key : α → κ) {ys : List α} (h : xs.Perm ys)
    (hnodup : (xs.map key).Nodup) (k : κ) :
    xs.find? (fun x => key x == k) = ys.find? fun x => key x == k := by
  by_cases hany : ∃ x ∈ xs, key x = k
  · obtain ⟨x, hx, rfl⟩ := hany
    rw [find?_key_of_nodup key hnodup hx,
      find?_key_of_nodup key ((h.map key).nodup_iff.1 hnodup) (h.subset hx)]
  · have hnone : ∀ x ∈ xs, ¬ key x = k := fun x hx hkey => hany ⟨x, hx, hkey⟩
    rw [List.find?_eq_none.2 fun x hx => by simpa using hnone x hx,
      List.find?_eq_none.2 fun x hx => by simpa using hnone x (h.symm.subset hx)]

end Keyed
