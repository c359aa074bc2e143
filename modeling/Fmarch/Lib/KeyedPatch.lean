import Fmarch.Lib.Keyed

/-!
# Patching a list with keys

Of two lists with distinct keys the sender works out what has changed and what is gone, and the receiver
puts it into the list it has: an item that is there stays where it is, and a new one goes to the end. The
receiver may hold a view of the items, as long as their keys can be read off it.

**`upsertKeyedList_eq_iff`**: this gives the sender's list exactly if the items that were there before come
first in it, in the order they had (`InOrder`).
-/

namespace KeyedPatch

variable {α β κ : Type} [DecidableEq κ]

/-! ## The sender -/

section Diff

variable (key : α → κ) (previous current : List α)

/-- The items that are new or otherwise than before. -/
def changed [DecidableEq α] : List α :=
  current.filter fun item => previous.reverse.find? (key · = key item) ≠ some item

/-- The keys that are gone. -/
def removed : List κ := (previous.filter (key · ∉ current.map key)).map key

/-- The items that were there come first, in the order they had. -/
def InOrder : Prop :=
  (previous.map key).filter (· ∈ current.map key) ++ (current.map key).filter (· ∉ previous.map key) =
    current.map key

instance : Decidable (InOrder key previous current) := inferInstanceAs (Decidable (_ = _))

end Diff

/-! ## The receiver -/

/-- A map's entries, with one more: the last value of a key, where its first one was. -/
def setEntry (entries : List (κ × β)) (entry : κ × β) : List (κ × β) :=
  if entry.1 ∈ entries.map (·.1) then entries.map fun old => if old.1 = entry.1 then entry else old
  else entries ++ [entry]

/-- A map of entries. -/
def entriesMap (entries : List (κ × β)) : List (κ × β) := entries.foldl setEntry []

/-- Changed items are put where they were, removed ones left out, and new ones added. -/
def upsertKeyedList (key : β → κ) (previous : List β) (upserts : List (κ × β)) (removed : List κ) : List β :=
  let kept := previous.filter (key · ∉ removed)
  kept.map (fun item => ((upserts.find? (·.1 = key item)).map (·.2)).getD item) ++
    (upserts.filter fun entry => entry.1 ∉ kept.map key ∧ entry.1 ∉ removed).map (·.2)

theorem foldl_setEntry {done entries : List (κ × β)} (h : ((done ++ entries).map (·.1)).Nodup) :
    entries.foldl setEntry done = done ++ entries := by
  induction entries generalizing done with
  | nil => exact (List.append_nil done).symm
  | cons entry entries ih =>
    have hnew : entry.1 ∉ done.map (·.1) := by
      rw [List.map_append, List.nodup_append] at h
      exact fun hmem => h.2.2 _ hmem _ List.mem_cons_self rfl
    have happend : done ++ entry :: entries = done ++ [entry] ++ entries := by simp
    rw [List.foldl_cons, show setEntry done entry = done ++ [entry] from if_neg hnew, happend]
    exact ih (happend ▸ h)

theorem entriesMap_eq {entries : List (κ × β)} (h : (entries.map (·.1)).Nodup) :
    entriesMap entries = entries := foldl_setEntry h

/-! ## Both together -/

section Patch

variable {key : α → κ} {previous current : List α}

theorem mem_removed {k : κ} :
    k ∈ removed key previous current ↔ k ∈ previous.map key ∧ k ∉ current.map key := by
  unfold removed
  constructor
  · intro h
    obtain ⟨item, hitem, rfl⟩ := List.mem_map.1 h
    obtain ⟨hmem, hgone⟩ := List.mem_filter.1 hitem
    exact ⟨List.mem_map_of_mem hmem, of_decide_eq_true hgone⟩
  · rintro ⟨h, hgone⟩
    obtain ⟨item, hitem, rfl⟩ := List.mem_map.1 h
    exact List.mem_map_of_mem (List.mem_filter.2 ⟨hitem, decide_eq_true hgone⟩)

theorem find?_key {items : List α} (h : (items.map key).Nodup) {item : α} (hitem : item ∈ items) :
    items.find? (key · = key item) = some item :=
  Keyed.find?_key_of_nodup key h hitem

omit [DecidableEq κ] in
theorem eq_of_map_key {items : List α} (h : (current.map key).Nodup) (hmem : ∀ item ∈ items, item ∈ current)
    (hkeys : items.map key = current.map key) : items = current := by
  have hlength : items.length = current.length := by
    simpa using congrArg List.length hkeys
  refine List.ext_getElem hlength fun i hi hi' => ?_
  refine List.inj_on_of_nodup_map h (hmem _ (List.getElem_mem hi)) (List.getElem_mem hi') ?_
  simpa [hi, hi'] using congrArg (·[i]?) hkeys

variable (key previous current) in
/-- The list a patch makes, of the sender's items. -/
def patched : List α :=
  (previous.filter (key · ∈ current.map key)).map (fun item =>
    (current.find? (key · = key item)).getD item) ++ current.filter (key · ∉ previous.map key)

theorem patched_mem : ∀ item ∈ patched key previous current, item ∈ current := by
  intro item hitem
  rcases List.mem_append.1 hitem with hold | hnew
  · obtain ⟨before, hbefore, rfl⟩ := List.mem_map.1 hold
    obtain ⟨there, hthere, hkey⟩ := List.mem_map.1 (of_decide_eq_true (List.mem_filter.1 hbefore).2)
    have hsome : (current.find? (key · = key before)).isSome :=
      List.find?_isSome.2 ⟨there, hthere, decide_eq_true hkey⟩
    obtain ⟨found, hfound⟩ := Option.isSome_iff_exists.1 hsome
    rw [hfound]
    exact List.mem_of_find?_eq_some hfound
  · exact (List.mem_filter.1 hnew).1

theorem patched_keys : (patched key previous current).map key =
    (previous.map key).filter (· ∈ current.map key) ++ (current.map key).filter (· ∉ previous.map key) := by
  unfold patched
  rw [List.map_append, List.map_map, List.filter_map, List.filter_map]
  congr 1
  refine List.map_congr_left fun item _ => ?_
  rw [Function.comp_apply]
  cases hfind : current.find? (key · = key item) with
  | none => rfl
  | some found => simpa using List.find?_some hfind

theorem patched_eq_iff (hcurrent : (current.map key).Nodup) :
    patched key previous current = current ↔ InOrder key previous current := by
  unfold InOrder
  rw [← patched_keys]
  exact ⟨congrArg (List.map key), eq_of_map_key hcurrent patched_mem⟩

/-! ### Through a view -/

section Changed

variable [DecidableEq α]

/-- Where the keys are distinct, an item has changed unless it was there. -/
theorem mem_changed (hprevious : (previous.map key).Nodup) {item : α} :
    item ∈ changed key previous current ↔ item ∈ current ∧ item ∉ previous := by
  unfold changed
  rw [List.mem_filter, decide_eq_true_iff]
  refine and_congr_right fun _ => not_congr ?_
  have hreverse : (previous.reverse.map key).Nodup := by
    rw [List.map_reverse]
    exact List.nodup_reverse.2 hprevious
  constructor
  · intro hfound
    exact List.mem_reverse.1 (List.mem_of_find?_eq_some hfound)
  · intro hmem
    exact find?_key hreverse (List.mem_reverse.2 hmem)

variable {view : α → β} {viewKey : β → κ}

theorem entries_nodup (hcurrent : (current.map key).Nodup) :
    (((changed key previous current).map fun item => (key item, view item)).map (·.1)).Nodup := by
  rw [List.map_map]
  exact hcurrent.sublist (List.filter_sublist.map key)

/-- What the receiver makes of the changes is the view of `patched`. -/
theorem upsertKeyedList_eq (hprevious : (previous.map key).Nodup) (hcurrent : (current.map key).Nodup)
    (hview : ∀ item ∈ previous, viewKey (view item) = key item) :
    upsertKeyedList viewKey (previous.map view)
        ((changed key previous current).map fun item => (key item, view item))
        (removed key previous current) =
      (patched key previous current).map view := by
  have hkept : (previous.map view).filter (viewKey · ∉ removed key previous current) =
      (previous.filter (key · ∈ current.map key)).map view := by
    rw [List.filter_map]
    congr 1
    refine List.filter_congr fun item hitem => ?_
    rw [Function.comp_apply, hview item hitem, decide_eq_decide, mem_removed, not_and, not_not]
    exact imp_iff_right (List.mem_map_of_mem hitem)
  have hkeptKeys : ((previous.filter (key · ∈ current.map key)).map view).map viewKey =
      (previous.filter (key · ∈ current.map key)).map key := by
    rw [List.map_map]
    exact List.map_congr_left fun item hitem => hview item (List.mem_filter.1 hitem).1
  unfold upsertKeyedList patched
  dsimp only
  rw [hkept, hkeptKeys, List.map_append, List.map_map, List.map_map]
  congr 1
  · refine List.map_congr_left fun item hitem => ?_
    obtain ⟨hmem, hthere⟩ := List.mem_filter.1 hitem
    obtain ⟨now, hnow, hkey⟩ := List.mem_map.1 (of_decide_eq_true hthere)
    rw [Function.comp_apply, Function.comp_apply, hview item hmem, ← hkey, find?_key hcurrent hnow]
    by_cases hchanged : now ∈ changed key previous current
    · have hkeys : ((changed key previous current).map key).Nodup :=
        hcurrent.sublist (List.filter_sublist.map key)
      rw [List.find?_map]
      simp only [Function.comp_def]
      rw [find?_key hkeys hchanged]
      rfl
    · have hsame : now = item := by
        have hbefore : now ∈ previous := by
          by_contra hnot
          exact hchanged ((mem_changed hprevious).2 ⟨hnow, hnot⟩)
        exact List.inj_on_of_nodup_map hprevious hbefore hmem hkey
      have hnone : ((changed key previous current).map fun item => (key item, view item)).find?
          (·.1 = key now) = none := by
        refine List.find?_eq_none.2 fun entry hentry hentryKey => hchanged ?_
        obtain ⟨change, hchange, rfl⟩ := List.mem_map.1 hentry
        have hchangeKey : key change = key now := of_decide_eq_true hentryKey
        exact List.inj_on_of_nodup_map hcurrent ((mem_changed hprevious).1 hchange).1 hnow hchangeKey ▸
          hchange
      rw [hnone, hsame]
      rfl
  · rw [List.filter_map, List.map_map]
    congr 1
    unfold changed
    rw [List.filter_filter]
    refine List.filter_congr fun item hitem => ?_
    rw [Function.comp_apply, ← Bool.decide_and, decide_eq_decide]
    have hthere : key item ∈ current.map key := List.mem_map_of_mem hitem
    constructor
    · rintro ⟨⟨hnotKept, -⟩, -⟩ hmem
      obtain ⟨before, hbefore, hkey⟩ := List.mem_map.1 hmem
      refine hnotKept (List.mem_map.2 ⟨before, List.mem_filter.2 ⟨hbefore, ?_⟩, hkey⟩)
      exact decide_eq_true (hkey ▸ hthere)
    · intro hnew
      refine ⟨⟨fun hmem => hnew ?_, fun hgone => (mem_removed.1 hgone).2 hthere⟩, fun hfound => hnew ?_⟩
      · obtain ⟨before, hbefore, hkey⟩ := List.mem_map.1 hmem
        exact List.mem_map.2 ⟨before, (List.mem_filter.1 hbefore).1, hkey⟩
      · exact List.mem_map_of_mem (List.mem_reverse.1 (List.mem_of_find?_eq_some hfound))

/-- **A patch gives the view of the sender's list** exactly if the order is kept. -/
theorem upsertKeyedList_eq_iff (hprevious : (previous.map key).Nodup) (hcurrent : (current.map key).Nodup)
    (hview : ∀ item ∈ previous ++ current, viewKey (view item) = key item) :
    upsertKeyedList viewKey (previous.map view)
        ((changed key previous current).map fun item => (key item, view item))
        (removed key previous current) = current.map view ↔ InOrder key previous current := by
  rw [upsertKeyedList_eq hprevious hcurrent fun item h => hview item (List.mem_append_left _ h),
    ← patched_eq_iff hcurrent]
  constructor
  · intro h
    have hkeys (items : List α) (hitems : ∀ item ∈ items, item ∈ current) :
        (items.map view).map viewKey = items.map key := by
      rw [List.map_map]
      exact List.map_congr_left fun item hitem => hview item (List.mem_append_right _ (hitems item hitem))
    refine eq_of_map_key hcurrent patched_mem ?_
    rw [← hkeys _ patched_mem, h, hkeys current fun _ h => h]
  · exact congrArg (List.map view)

end Changed

end Patch

/-! ## Removals after the changes -/

section Removals

variable {key : β → κ} {previous : List β} {upserts : List (κ × β)}

theorem upsertKeyedList_nil : upsertKeyedList key previous [] [] = previous := by
  simp [upsertKeyedList]

/-- Items may be left out after the changes as well, if no change has their key. -/
theorem filter_upsertKeyedList (removed : List κ) (hkeys : ∀ entry ∈ upserts, key entry.2 = entry.1)
    (hkept : ∀ entry ∈ upserts, entry.1 ∉ removed) :
    (upsertKeyedList key previous upserts []).filter (key · ∉ removed) =
      upsertKeyedList key previous upserts removed := by
  have hput (item : β) : key (((upserts.find? (·.1 = key item)).map (·.2)).getD item) = key item := by
    cases hfind : upserts.find? (·.1 = key item) with
    | none => rfl
    | some entry =>
      have hentry : entry.1 = key item := by simpa using List.find?_some hfind
      exact (hkeys entry (List.mem_of_find?_eq_some hfind)).trans hentry
  unfold upsertKeyedList
  dsimp only
  simp only [List.not_mem_nil, not_false_eq_true, decide_true, List.filter_true, and_true]
  rw [List.filter_append, List.filter_map, List.filter_map, List.filter_filter]
  congr 2
  · refine List.filter_congr fun item _ => ?_
    rw [Function.comp_apply, hput]
  · refine List.filter_congr fun entry hentry => ?_
    rw [Function.comp_apply, hkeys entry hentry, ← Bool.decide_and, decide_eq_decide]
    have hnot := hkept entry hentry
    constructor
    · rintro ⟨-, hnew⟩
      refine ⟨fun hmem => hnew ?_, hnot⟩
      obtain ⟨item, hitem, hkey⟩ := List.mem_map.1 hmem
      exact List.mem_map.2 ⟨item, (List.mem_filter.1 hitem).1, hkey⟩
    · rintro ⟨hnew, -⟩
      refine ⟨hnot, fun hmem => hnew ?_⟩
      obtain ⟨item, hitem, hkey⟩ := List.mem_map.1 hmem
      exact List.mem_map.2 ⟨item, List.mem_filter.2 ⟨hitem, decide_eq_true (hkey ▸ hnot)⟩, hkey⟩

end Removals

end KeyedPatch
