import Fmarch.Client.StoreInvariant

/-!
# What a refresh does to the projection store

From one cut to the next a refresh changes what is its own: its owner, the health of its keys, and the
values it publishes (`Inv.transition`). Each stage of the code keeps the invariant.
-/

namespace Fmarch.Client

open Function (update update_self update_of_ne update_eq_self)

variable {J V : Type} {config : Config J V}

section Refreshes

variable {store next : Store V} {attempt : Nat} {refresh refresh' : Refresh V}

theorem Inv.refreshOk (inv : Inv config [] store) (hrefresh : store.refreshes attempt = some refresh) :
    RefreshOk config store attempt refresh :=
  (inv.refreshes attempt refresh hrefresh).2.2

/-- What one refresh does to the store. -/
theorem Inv.transition {owner : Owner} (inv : Inv config [] store)
    (hrefresh : store.refreshes attempt = some refresh) (frame : Frame attempt store next)
    (hnext : next.refreshes attempt = some refresh') (hsame : refresh'.epoch = refresh.epoch)
    (hattempt : next.refreshAttempt = store.refreshAttempt)
    (hepoch : next.authorityEpoch = store.authorityEpoch)
    (hlatest : next.latestOwnerByKey = store.latestOwnerByKey)
    (hcontinuations : next.continuations = store.continuations)
    (howners : next.owners = update store.owners attempt owner)
    (herror : owner.error ≠ some [])
    (hresolved : owner = {} → ∀ key ∈ config.registeredKeys,
      store.latestOwnerByKey key = attempt → next.writer key = attempt)
    (hready : ∀ key ∈ config.registeredKeys, (next.health key).state = .ready →
      (store.health key).state = .ready ∨ next.writer key = store.latestOwnerByKey key)
    (hordered : ∀ key ∈ config.registeredKeys, next.writer key ≤ store.latestOwnerByKey key)
    (hok : RefreshOk config next attempt refresh') : Inv config [] next := by
  obtain ⟨hpos, hle, -⟩ := inv.refreshes attempt refresh hrefresh
  refine ⟨fun key => ?_, fun key => ?_, fun key hkey => ?_, fun other found hfound => ?_,
    fun other => ?_, fun key hkey _ => ?_, fun key hkey _ hstate => ?_,
    fun keys epoch other hmem key hkey => ?_⟩
  · rw [hlatest, hattempt]
    exact inv.latest key
  · rw [hattempt]
    rcases frame.written key with ⟨hkept, -⟩ | hwrote
    · exact hkept.le.trans (inv.writer key)
    · exact hwrote.le.trans hle
  · rw [hlatest]
    exact hordered key hkey
  · by_cases hother : other = attempt
    · subst hother
      obtain rfl := Option.some.inj (hnext.symm.trans hfound)
      exact ⟨hpos, hle.trans hattempt.ge, hok⟩
    · exact frame.others inv hother hfound
  · rw [howners]
    by_cases hother : other = attempt
    · subst hother
      rw [update_self]
      exact herror
    · rw [update_of_ne hother]
      exact inv.errors other
  · rw [hlatest, howners, hepoch]
    by_cases hkeyOwner : store.latestOwnerByKey key = attempt
    · rw [hkeyOwner, update_self]
      by_cases hclean : owner = {}
      · exact .inl (hresolved hclean key hkey hkeyOwner)
      · exact .inr (.inl hclean)
    · rw [update_of_ne hkeyOwner]
      rcases inv.current key hkey List.not_mem_nil with hwrote | hunsettled | hold
      · refine .inl (le_antisymm (hordered key hkey) ?_)
        exact hwrote.ge.trans (frame.writer key)
      · exact .inr (.inl hunsettled)
      · refine .inr (.inr fun other found hfound hcurrent => ?_)
        by_cases hother : other = attempt
        · subst hother
          obtain rfl := Option.some.inj (hnext.symm.trans hfound)
          exact hold other refresh hrefresh (hsame.symm.trans hcurrent)
        · exact hold other found ((frame.refreshes other hother).symm.trans hfound) hcurrent
  · rw [hlatest]
    rcases hready key hkey hstate with hold | hwrote
    · have hwrote := inv.ready key hkey List.not_mem_nil hold
      exact le_antisymm (hordered key hkey) (hwrote.ge.trans (frame.writer key))
    · exact hwrote
  · rw [hcontinuations] at hmem
    exact (inv.applied keys epoch other hmem key hkey).trans (frame.writer key)

/-- The refresh has not ended. -/
def Live (store : Store V) (attempt : Nat) : Prop := store.owners attempt = { settled := false }

theorem StageOk.live (h : StageOk store attempt refresh)
    (hstage : refresh.stage ∉ [.failing, .resolved, .rejected]) : Live store attempt := by
  unfold StageOk at h
  cases hcases : refresh.stage with
  | failing | resolved | rejected => exact absurd hstage (by simp [hcases])
  | started | reading | looping | waiting | committed | published =>
    rw [hcases] at h
    exact h.1

theorem Frame.put (store : Store V) (refresh' : Refresh V) :
    Frame attempt store (store.put attempt refresh') :=
  ⟨le_rfl, le_rfl, fun _ => le_rfl, fun _ => .inl rfl, fun _ => le_rfl, fun _ => .inl ⟨rfl, rfl⟩,
    fun _ _ _ => rfl, fun _ hother => update_of_ne hother ..⟩

/-- A refresh that goes on without touching the store. -/
theorem Inv.put (inv : Inv config [] store) (hrefresh : store.refreshes attempt = some refresh)
    (hsame : refresh'.epoch = refresh.epoch)
    (hclean : store.owners attempt = {} → refresh.stage = .resolved)
    (hok : RefreshOk config (store.put attempt refresh') attempt refresh') :
    Inv config [] (store.put attempt refresh') := by
  have hbefore := inv.refreshOk hrefresh
  refine inv.transition hrefresh (.put store refresh') (update_self ..) hsame rfl rfl rfl rfl
    (update_eq_self attempt store.owners).symm (inv.errors attempt) ?_
    (fun key hkey hready => .inl hready) inv.ordered hok
  intro howner key hkey hlatest
  have hresolved := hclean howner
  have hstage := hbefore.stage
  unfold StageOk at hstage
  rw [hresolved] at hstage
  exact le_antisymm (hlatest ▸ inv.ordered key hkey) (hstage.2 key (hbefore.owns key hlatest))

/-- A live refresh goes to another stage, with the same keys. -/
theorem Inv.put_live (inv : Inv config [] store) (hrefresh : store.refreshes attempt = some refresh)
    (hlive : Live store attempt) (hkeys : refresh'.keys = refresh.keys)
    (hsame : refresh'.epoch = refresh.epoch) (hpublished : refresh'.publishedKeys = refresh.publishedKeys)
    (hresults : refresh'.results = refresh.results ∨ refresh.publishedKeys = [])
    (hstage : StageOk (store.put attempt refresh') attempt refresh') :
    Inv config [] (store.put attempt refresh') := by
  have hbefore := inv.refreshOk hrefresh
  refine inv.put hrefresh hsame (fun hclean => absurd (hlive.symm.trans hclean) (by simp))
    ⟨?_, ?_, ?_, ?_, ?_, ?_, ?_, hstage⟩
  · rw [hkeys]
    exact hbefore.registered
  · rw [hkeys]
    exact hbefore.nodup
  · rw [hsame]
    exact hbefore.epoch
  · rw [hkeys]
    exact hbefore.owned
  · rw [hkeys]
    exact hbefore.owns
  · rw [hpublished, hkeys]
    exact hbefore.published
  · intro key hkey
    obtain ⟨hmem, value, hvalue, hsnapshot⟩ := hbefore.own key hkey
    rcases hresults with hresults | hnone
    · rw [hpublished, hresults]
      exact ⟨hmem, value, hvalue, hsnapshot⟩
    · exact absurd (hnone ▸ hmem) List.not_mem_nil

/-- An owner that has not settled may change, and the health and the refresh with it. -/
theorem Frame.unsettled (h : (store.owners attempt).settled = false) {owner : Owner}
    {health : String → KeyHealth} {refresh' : Refresh V} :
    Frame attempt store { store with
      owners := update store.owners attempt owner
      health
      refreshes := update store.refreshes attempt (some refresh') } := by
  refine ⟨le_rfl, le_rfl, fun _ => le_rfl, fun _ => .inl rfl, fun _ => le_rfl,
    fun _ => .inl ⟨rfl, rfl⟩, fun owner _ hkept => update_of_ne ?_ _ _,
    fun _ hother => update_of_ne hother _ _⟩
  rintro rfl
  rcases hkept with hother | hsettled
  · exact hother rfl
  · cases h.symm.trans hsettled

/-- A refresh that fails. -/
theorem Inv.fail (inv : Inv config [] store) (hrefresh : store.refreshes attempt = some refresh)
    (hlive : Live store attempt) {failures : List Failure} (hfailures : failures ≠ []) :
    Inv config [] (store.fail attempt refresh failures) := by
  have hbefore := inv.refreshOk hrefresh
  have frame : Frame attempt store (store.fail attempt refresh failures) := .unsettled (by rw [hlive])
  refine inv.transition hrefresh frame (update_self ..) rfl rfl rfl rfl rfl rfl
    (by simpa using hfailures) (by simp) (fun key hkey hready => .inl ?_) inv.ordered
    ⟨hbefore.registered, hbefore.nodup, hbefore.epoch, hbefore.owned, hbefore.owns, hbefore.published,
      hbefore.own, ?_⟩
  · have hhealth : ((store.fail attempt refresh failures).health key) =
        if key ∈ store.ownedKeys attempt refresh then ⟨.unavailable, attempt⟩ else store.health key := rfl
    rw [hhealth] at hready
    split at hready
    · exact absurd hready (by simp)
    · exact hready
  · have howner : (store.fail attempt refresh failures).owners attempt =
        { store.owners attempt with error := some failures } := update_self ..
    unfold StageOk
    dsimp only
    rw [howner, hlive]
    exact ⟨rfl, by simp⟩

/-- A refresh that resolves leaves each of its keys written by it, or by somebody newer. -/
theorem Inv.resolve (inv : Inv config [] store) (hrefresh : store.refreshes attempt = some refresh)
    (hlive : Live store attempt) (hwritten : ∀ key ∈ refresh.keys, attempt ≤ store.writer key) :
    Inv config [] (store.resolve attempt refresh) := by
  have hbefore := inv.refreshOk hrefresh
  have frame : Frame attempt store (store.resolve attempt refresh) := .unsettled (by rw [hlive])
  refine inv.transition hrefresh frame (update_self ..) rfl rfl rfl rfl rfl rfl ?_
    (fun _ key hkey hlatest => ?_) (fun key hkey hready => .inl hready) inv.ordered
    ⟨hbefore.registered, hbefore.nodup, hbefore.epoch, hbefore.owned, hbefore.owns, hbefore.published,
      hbefore.own, ?_⟩
  · rw [hlive]
    simp
  · exact le_antisymm (hlatest ▸ inv.ordered key hkey) (hwritten key (hbefore.owns key hlatest))
  · have howner : (store.resolve attempt refresh).owners attempt =
        { store.owners attempt with settled := true } := update_self ..
    unfold StageOk
    dsimp only
    rw [howner, hlive]
    exact ⟨rfl, hwritten⟩

theorem Inv.reject (inv : Inv config [] store) (hrefresh : store.refreshes attempt = some refresh)
    (hstage : refresh.stage = .failing) : Inv config [] (store.reject attempt refresh) := by
  have hbefore := inv.refreshOk hrefresh
  have hfailing := hbefore.stage
  unfold StageOk at hfailing
  rw [hstage] at hfailing
  obtain ⟨hunsettled, herror⟩ := hfailing
  have frame : Frame attempt store (store.reject attempt refresh) := .unsettled hunsettled
  refine inv.transition hrefresh frame (update_self ..) rfl rfl rfl rfl rfl rfl
    (inv.errors attempt) (fun hclean => absurd (congrArg Owner.error hclean) herror)
    (fun key hkey hready => .inl hready) inv.ordered
    ⟨hbefore.registered, hbefore.nodup, hbefore.epoch, hbefore.owned, hbefore.owns, hbefore.published,
      hbefore.own, ?_⟩
  have howner : (store.reject attempt refresh).owners attempt =
      { store.owners attempt with settled := true } := update_self ..
  unfold StageOk
  dsimp only
  rw [howner]
  exact ⟨rfl, herror⟩

theorem epochFailure_ne (store : Store V) (refresh : Refresh V) : store.epochFailure refresh ≠ [] := by
  simp [Store.epochFailure]

/-! ### The loop -/

variable {key : String} {results : List (String × ReadResult V)} {observed : List Nat}

theorem success_of_no_failures (h : Store.resultFailures results = []) {result : ReadResult V}
    (hmem : (key, result) ∈ results) : ∃ value, result = .success value := by
  cases result with
  | success value => exact ⟨value, rfl⟩
  | failure reason =>
    have hfailure : (⟨key, reason⟩ : Failure) ∈ Store.resultFailures results :=
      List.mem_filterMap.2 ⟨_, hmem, rfl⟩
    exact absurd (h ▸ hfailure) List.not_mem_nil

theorem mem_resultPatch {entry : String × Option V} : entry ∈ Store.resultPatch results ↔
      ∃ value, (entry.1, .success value) ∈ results ∧ entry.2 = some value := by
  unfold Store.resultPatch
  rw [List.mem_filterMap]
  constructor
  · rintro ⟨⟨key, result⟩, hmem, hentry⟩
    cases result with
    | failure => exact absurd hentry (by simp)
    | success value =>
      obtain rfl := Option.some.inj hentry
      exact ⟨value, hmem, rfl⟩
  · rintro ⟨value, hmem, hvalue⟩
    exact ⟨_, hmem, congrArg some (Prod.ext rfl hvalue.symm)⟩

/-- What a round finds out before it publishes. -/
structure Round (store : Store V) (attempt : Nat) (refresh : Refresh V) : Prop where
  inEpoch : refresh.epoch = store.authorityEpoch
  /-- Every result whose key it still owns is a value. -/
  values : ∀ key result, (key, result) ∈ refresh.results → store.latestOwnerByKey key = attempt →
    ∃ value, result = .success value
  /-- Every owner that overtook it has settled well. -/
  replaced : ∀ key ∈ refresh.keys, store.latestOwnerByKey key ≠ attempt →
    store.owners (store.latestOwnerByKey key) = {}

/-- Every key of a round is still owned, or was written by whoever overtook it. -/
theorem Round.written (inv : Inv config [] store)
    (hrefresh : store.refreshes attempt = some refresh) (round : Round store attempt refresh)
    (hkey : key ∈ refresh.keys) (hother : store.latestOwnerByKey key ≠ attempt) : attempt ≤ store.writer key := by
  have hbefore := inv.refreshOk hrefresh
  have howned := hbefore.owned key hkey
  rcases inv.current key (hbefore.registered key hkey) List.not_mem_nil with hwrote | hdirty | hold
  · exact howned.trans hwrote.ge
  · exact absurd (round.replaced key hkey hother) hdirty
  · have := hold attempt refresh hrefresh round.inEpoch
    omega

theorem mem_unpublishedResults {result : ReadResult V} :
    (key, result) ∈ store.unpublishedResults attempt refresh ↔
      (key, result) ∈ refresh.results ∧ store.latestOwnerByKey key = attempt ∧
        key ∉ refresh.publishedKeys := by
  unfold Store.unpublishedResults Store.currentResults
  rw [List.mem_filter, List.mem_filter, and_assoc, decide_eq_true_iff, decide_eq_true_iff]

/-- The keys a round publishes are those of its unpublished results. -/
theorem Round.keys (round : Round store attempt refresh) :
    key ∈ (Store.resultPatch (store.unpublishedResults attempt refresh)).map (·.1) ↔
      key ∈ (store.unpublishedResults attempt refresh).map (·.1) := by
  constructor
  · intro h
    obtain ⟨entry, hentry, rfl⟩ := List.mem_map.1 h
    obtain ⟨value, hvalue, -⟩ := mem_resultPatch.1 hentry
    exact List.mem_map.2 ⟨_, hvalue, rfl⟩
  · intro h
    obtain ⟨⟨key, result⟩, hresult, rfl⟩ := List.mem_map.1 h
    obtain ⟨hresults, howned, -⟩ := mem_unpublishedResults.1 hresult
    obtain ⟨value, rfl⟩ := round.values key result hresults howned
    exact List.mem_map.2 ⟨(key, some value), mem_resultPatch.2 ⟨value, hresult, rfl⟩, rfl⟩

/-- What a round writes is what it read. -/
theorem publish_snapshot
    (h : key ∈ (Store.resultPatch (store.unpublishedResults attempt refresh)).map (·.1)) :
    ∃ value, (key, .success value) ∈ refresh.results ∧
      (store.publishRound attempt refresh).snapshot key = some value := by
  obtain ⟨written, hwritten, hkey⟩ := List.mem_map.1 h
  have hsome : ((Store.resultPatch (store.unpublishedResults attempt refresh)).find?
      (·.1 = key)).isSome := List.find?_isSome.2 ⟨written, hwritten, decide_eq_true hkey⟩
  obtain ⟨entry, hentry⟩ := Option.isSome_iff_exists.1 hsome
  have hentryKey : entry.1 = key := by simpa using List.find?_some hentry
  obtain ⟨value, hvalue, hsnapshot⟩ := mem_resultPatch.1 (List.mem_of_find?_eq_some hentry)
  refine ⟨value, (mem_unpublishedResults.1 (hentryKey ▸ hvalue)).1, ?_⟩
  unfold Store.publishRound Store.put Store.commitSnapshot
  dsimp only
  rw [hentry]
  exact hsnapshot

theorem publish_writer (store : Store V) (attempt : Nat) (refresh : Refresh V) (key : String) :
    (store.publishRound attempt refresh).writer key =
      if key ∈ (Store.resultPatch (store.unpublishedResults attempt refresh)).map (·.1) then attempt
      else store.writer key := rfl

theorem publish_snapshot_other
    (h : key ∉ (Store.resultPatch (store.unpublishedResults attempt refresh)).map (·.1)) :
    (store.publishRound attempt refresh).snapshot key = store.snapshot key :=
  @commit_snapshot_other V store key attempt _ h

theorem published_owned (h : key ∈ (store.unpublishedResults attempt refresh).map (·.1)) :
    store.latestOwnerByKey key = attempt ∧ key ∈ refresh.results.map (·.1) := by
  obtain ⟨⟨key, result⟩, hresult, rfl⟩ := List.mem_map.1 h
  obtain ⟨hresults, howned, -⟩ := mem_unpublishedResults.1 hresult
  exact ⟨howned, List.mem_map.2 ⟨_, hresults, rfl⟩⟩

/-- A round publishes what it still owns and has not published. -/
theorem Inv.publishRound (inv : Inv config [] store) (hrefresh : store.refreshes attempt = some refresh)
    (hlive : Live store attempt) (hread : refresh.results.map (·.1) = refresh.keys)
    (round : Round store attempt refresh) : Inv config [] (store.publishRound attempt refresh) := by
  obtain ⟨-, hle, hbefore⟩ := inv.refreshes attempt refresh hrefresh
  have hwrites {key : String}
      (h : key ∈ (Store.resultPatch (store.unpublishedResults attempt refresh)).map (·.1)) :
      store.latestOwnerByKey key = attempt ∧ key ∈ refresh.keys := by
    obtain ⟨howned, hmem⟩ := published_owned (round.keys.1 h)
    exact ⟨howned, hread ▸ hmem⟩
  have frame : Frame attempt store (store.publishRound attempt refresh) := by
    refine ⟨le_rfl, le_rfl, fun _ => le_rfl, fun _ => .inl rfl, fun key => ?_, fun key => ?_,
      fun _ _ _ => rfl, fun _ hother => update_of_ne hother _ _⟩
    · rw [publish_writer]
      split
      case isTrue h =>
        obtain ⟨howned, hkey⟩ := hwrites h
        exact (inv.ordered key (hbefore.registered key hkey)).trans howned.le
      case isFalse => exact le_rfl
    · rw [publish_writer]
      by_cases h : key ∈ (Store.resultPatch (store.unpublishedResults attempt refresh)).map (·.1)
      · exact .inr (if_pos h)
      · exact .inl ⟨if_neg h, publish_snapshot_other h⟩
  refine inv.transition hrefresh frame (update_self ..) rfl rfl rfl rfl rfl
    (update_eq_self attempt store.owners).symm (inv.errors attempt)
    (fun hclean => absurd (hlive.symm.trans hclean) (by simp))
    (fun key hkey hready => .inl hready) (fun key hkey => ?_)
    ⟨hbefore.registered, hbefore.nodup, hbefore.epoch, hbefore.owned, hbefore.owns, fun key hkey => ?_,
      fun key hkey => ?_, hlive, hread, store.latestOwnerByKey, rfl, fun key hkey => ?_⟩
  · rw [publish_writer]
    split
    case isTrue h => exact (hwrites h).1.ge
    case isFalse => exact inv.ordered key hkey
  · rw [publish_writer]
    rcases List.mem_append.1 hkey with hold | hnew
    · obtain ⟨hmem, hwrote⟩ := hbefore.published key hold
      refine ⟨hmem, ?_⟩
      split
      · exact le_rfl
      · exact hwrote
    · rw [if_pos (round.keys.2 hnew)]
      exact ⟨(hwrites (round.keys.2 hnew)).2, le_rfl⟩
  · rw [publish_writer] at hkey
    by_cases h : key ∈ (Store.resultPatch (store.unpublishedResults attempt refresh)).map (·.1)
    · exact ⟨List.mem_append_right _ (round.keys.1 h), publish_snapshot h⟩
    · rw [if_neg h] at hkey
      obtain ⟨hmem, value, hvalue, hsnapshot⟩ := hbefore.own key hkey
      exact ⟨List.mem_append_left _ hmem, value, hvalue, (publish_snapshot_other h).trans hsnapshot⟩
  · refine ⟨inv.latest key, ?_⟩
    by_cases howned : store.latestOwnerByKey key = attempt
    · refine .inl ⟨?_, howned⟩
      by_cases hpublished : key ∈ refresh.publishedKeys
      · exact List.mem_append_left _ hpublished
      · obtain ⟨⟨_, result⟩, hresult, rfl⟩ := List.mem_map.1 (hread.symm ▸ hkey)
        exact List.mem_append_right _ (List.mem_map.2
          ⟨_, mem_unpublishedResults.2 ⟨hresult, howned, hpublished⟩, rfl⟩)
    · have hnewer := Nat.lt_of_le_of_ne (hbefore.owned key hkey) (Ne.symm howned)
      exact .inr ⟨⟨hnewer, le_rfl⟩, round.replaced key hkey howned⟩

theorem inEpoch_eq (h : store.inEpoch refresh = true) : refresh.epoch = store.authorityEpoch := by
  unfold Store.inEpoch at h
  simpa using (Bool.and_eq_true_iff.1 h).1

theorem mem_replacements (hkey : key ∈ refresh.keys) (hother : store.latestOwnerByKey key ≠ attempt) :
    store.latestOwnerByKey key ∈ store.replacements attempt refresh := by
  unfold Store.replacements
  rw [List.mem_dedup, List.mem_filter]
  exact ⟨List.mem_map_of_mem hkey, decide_eq_true hother⟩

section

variable (inv : Inv config [] store)
include inv

/-- A round that neither fails nor waits has found everything in order. -/
theorem Round.of_iterate (hepoch : store.inEpoch refresh = true)
    (hfailures : store.roundFailures attempt refresh = [])
    (hsettled : ¬ (store.replacements attempt refresh).any fun owner => !(store.owners owner).settled) :
    Round store attempt refresh := by
  obtain ⟨hresults, hreplaced⟩ := List.append_eq_nil_iff.1 hfailures
  refine ⟨inEpoch_eq hepoch, fun key result hmem howned => ?_, fun key hkey hother => ?_⟩
  · have hcurrent : (key, result) ∈ store.currentResults attempt refresh :=
      List.mem_filter.2 ⟨hmem, decide_eq_true howned⟩
    exact success_of_no_failures hresults hcurrent
  · have hmem := mem_replacements hkey hother
    have hsettledOwner : (store.owners (store.latestOwnerByKey key)).settled = true := by
      by_contra hunsettled
      exact hsettled (List.any_eq_true.2 ⟨_, hmem, by simpa using hunsettled⟩)
    have hnone : (store.owners (store.latestOwnerByKey key)).error.getD [] = [] :=
      List.flatMap_eq_nil_iff.1 hreplaced _ (List.mem_filter.2 ⟨hmem, hsettledOwner⟩)
    have herror : (store.owners (store.latestOwnerByKey key)).error = none := by
      cases herror : (store.owners (store.latestOwnerByKey key)).error with
      | none => rfl
      | some failures =>
        rw [herror] at hnone
        exact absurd (herror.trans (congrArg some hnone)) (inv.errors _)
    calc store.owners (store.latestOwnerByKey key)
        = ⟨(store.owners (store.latestOwnerByKey key)).settled,
            (store.owners (store.latestOwnerByKey key)).error⟩ := rfl
      _ = {} := by rw [hsettledOwner, herror]

section

variable (hrefresh : store.refreshes attempt = some refresh)
include hrefresh

theorem Inv.iterate (hlive : Live store attempt) (hread : refresh.results.map (·.1) = refresh.keys) :
    Inv config [] (store.iterate attempt refresh) := by
  have hbefore := inv.refreshOk hrefresh
  unfold Store.iterate
  split
  · exact inv.fail hrefresh hlive (epochFailure_ne store refresh)
  case isFalse hepoch =>
    split
    case isTrue hfailures => exact inv.fail hrefresh hlive hfailures
    case isFalse hfailures =>
      split
      · exact inv.put_live hrefresh hlive rfl rfl rfl (.inl rfl) ⟨hlive, hread⟩
      case isFalse hsettled =>
        have round := Round.of_iterate inv (by simpa using hepoch) (not_not.1 hfailures) hsettled
        split
        case isTrue hnone =>
          refine inv.resolve hrefresh hlive fun key hkey => ?_
          by_cases howned : store.latestOwnerByKey key = attempt
          · obtain ⟨⟨_, result⟩, hresult, rfl⟩ := List.mem_map.1 (hread.symm ▸ hkey)
            refine (hbefore.published _ ?_).2
            by_contra hunpublished
            have hmem := mem_unpublishedResults.2 ⟨hresult, howned, hunpublished⟩
            exact absurd (hnone ▸ hmem) List.not_mem_nil
          · exact round.written inv hrefresh hkey howned
        case isFalse => exact inv.publishRound hrefresh hlive hread round

/-- The keys that a refresh still owns once it has published them are written by it. -/
theorem owned_written (hstage : refresh.stage = .committed observed) :
    ∀ key ∈ store.ownedKeys attempt refresh, store.writer key = store.latestOwnerByKey key := by
  have hbefore := inv.refreshOk hrefresh
  have hobserved := hbefore.stage
  unfold StageOk at hobserved
  rw [hstage] at hobserved
  obtain ⟨-, -, owner, -, hkeys⟩ := hobserved
  intro key hkey
  obtain ⟨hmem, howned⟩ := List.mem_filter.1 hkey
  have howned := of_decide_eq_true howned
  have hordered := inv.ordered key (hbefore.registered key hmem)
  rcases (hkeys key hmem).2 with ⟨hpublished, -⟩ | ⟨⟨hnewer, hlatest⟩, -⟩
  · have := (hbefore.published key hpublished).2
    omega
  · omega

/-- The health is published for the keys that are still owned. -/
theorem Inv.publishResults (hstage : refresh.stage = .committed observed) :
    Inv config [] (store.publishResults attempt refresh observed) := by
  have hbefore := inv.refreshOk hrefresh
  have hlive : Live store attempt := hbefore.stage.live (by simp [hstage])
  have hobserved := hbefore.stage
  unfold StageOk at hobserved
  rw [hstage] at hobserved
  unfold Store.publishResults
  split
  · exact inv.fail hrefresh hlive (epochFailure_ne store refresh)
  · have hhealth : Inv config [] (store.publishHealth (store.ownedKeys attempt refresh)
        (if refresh.restoreReadiness then .ready else .unavailable) attempt) :=
      inv.publishHealth fun _ => owned_written inv hrefresh hstage
    exact hhealth.put_live hrefresh hlive rfl rfl rfl (.inl rfl) hobserved

/-- The round ends: a refresh whose keys have the owners it observed has had them all written. -/
theorem Inv.finishRound (hstage : refresh.stage = .published observed) :
    Inv config [] (store.finishRound attempt refresh observed) := by
  have hbefore := inv.refreshOk hrefresh
  have hlive : Live store attempt := hbefore.stage.live (by simp [hstage])
  have hobserved := hbefore.stage
  unfold StageOk at hobserved
  rw [hstage] at hobserved
  obtain ⟨-, hread, owner, rfl, hkeys⟩ := hobserved
  unfold Store.finishRound
  split
  · exact inv.fail hrefresh hlive (epochFailure_ne store refresh)
  case isFalse hepoch =>
    split
    · exact inv.put_live hrefresh hlive rfl rfl rfl (.inl rfl) ⟨hlive, hread⟩
    case isFalse hsame =>
      refine inv.resolve hrefresh hlive fun key hkey => ?_
      have howner : store.latestOwnerByKey key = owner key :=
        List.map_inj_left.1 (not_not.1 hsame) key hkey
      rcases (hkeys key hkey).2 with ⟨hpublished, -⟩ | ⟨⟨hnewer, -⟩, hclean⟩
      · exact (hbefore.published key hpublished).2
      · rcases inv.current key (hbefore.registered key hkey) List.not_mem_nil with
          hwrote | hdirty | hold
        · omega
        · exact absurd (howner ▸ hclean) hdirty
        · have := hold attempt refresh hrefresh (inEpoch_eq (by simpa using hepoch))
          omega

/-- Every stage of a refresh keeps the invariant. -/
theorem Inv.advance (h : store.advance attempt refresh results = some next) : Inv config [] next := by
  have hbefore := inv.refreshOk hrefresh
  have hok := hbefore.stage
  unfold StageOk at hok
  unfold Store.advance at h
  cases hstage : refresh.stage with
  | started =>
    rw [hstage] at h hok
    obtain ⟨hlive, hnone⟩ := hok
    obtain rfl := Option.some.inj h
    split
    · exact inv.put_live hrefresh hlive rfl rfl rfl (.inl rfl) ⟨hlive, hnone⟩
    · exact inv.fail hrefresh hlive (epochFailure_ne store refresh)
  | reading =>
    rw [hstage] at h hok
    obtain ⟨hlive, hnone⟩ := hok
    dsimp only at h
    by_cases hkeys : results.map (·.1) = refresh.keys
    · rw [if_pos hkeys] at h
      obtain rfl := Option.some.inj h
      exact inv.put_live hrefresh hlive rfl rfl rfl (.inr hnone) ⟨hlive, hkeys⟩
    · rw [if_neg hkeys] at h
      exact absurd h (by simp)
  | looping =>
    rw [hstage] at h hok
    obtain rfl := Option.some.inj h
    exact inv.iterate hrefresh hok.1 hok.2
  | waiting =>
    rw [hstage] at h hok
    obtain rfl := Option.some.inj h
    exact inv.put_live hrefresh hok.1 rfl rfl rfl (.inl rfl) hok
  | committed observed =>
    rw [hstage] at h
    obtain rfl := Option.some.inj h
    exact inv.publishResults hrefresh hstage
  | published observed =>
    rw [hstage] at h
    obtain rfl := Option.some.inj h
    exact inv.finishRound hrefresh hstage
  | failing =>
    rw [hstage] at h
    obtain rfl := Option.some.inj h
    exact inv.reject hrefresh hstage
  | resolved | rejected =>
    rw [hstage] at h
    exact absurd h (by simp)

theorem Inv.interrupt (h : store.interrupt attempt refresh = some next) : Inv config [] next := by
  have hbefore := inv.refreshOk hrefresh
  unfold Store.interrupt at h
  split at h
  case isTrue hstage =>
    obtain rfl := Option.some.inj h
    refine inv.fail hrefresh (hbefore.stage.live ?_) (epochFailure_ne store refresh)
    rcases hstage.1 with hreading | hwaiting
    · simp [hreading]
    · simp [hwaiting]
  case isFalse => exact absurd h (by simp)

/-- An abort is only noticed later. -/
theorem Inv.abort : Inv config [] (store.put attempt { refresh with aborted := true }) := by
  have hbefore := inv.refreshOk hrefresh
  refine inv.put hrefresh rfl (fun hclean => ?_)
    ⟨hbefore.registered, hbefore.nodup, hbefore.epoch, hbefore.owned, hbefore.owns, hbefore.published,
      hbefore.own, hbefore.stage⟩
  have hok := hbefore.stage
  unfold StageOk at hok
  rw [hclean] at hok
  cases hstage : refresh.stage with
  | resolved => rfl
  | started | reading | looping | waiting | committed | published | failing | rejected =>
    rw [hstage] at hok
    exact absurd hok (by simp)

end

/-- A refresh begins: it takes its keys over, and reports them. -/
theorem Inv.start {keys : List String} (hnodup : keys.Nodup)
    (hkeys : ∀ key ∈ keys, key ∈ config.registeredKeys) (restoreReadiness : Bool) :
    Inv config [] (store.refresh keys restoreReadiness) := by
  have hlatest (key : String) : (store.refresh keys restoreReadiness).latestOwnerByKey key =
      if key ∈ keys then store.refreshAttempt + 1 else store.latestOwnerByKey key := rfl
  have howners {owner : Nat} (h : owner ≤ store.refreshAttempt) :
      (store.refresh keys restoreReadiness).owners owner = store.owners owner :=
    update_of_ne (Nat.ne_of_lt (Nat.lt_succ_of_le h)) ..
  have hstarted : Live (store.refresh keys restoreReadiness) (store.refreshAttempt + 1) :=
    update_self ..
  have hfound : (store.refresh keys restoreReadiness).refreshes (store.refreshAttempt + 1) =
      some { keys, epoch := store.authorityEpoch, restoreReadiness } := update_self ..
  have hle (key : String) : store.latestOwnerByKey key ≤
      (store.refresh keys restoreReadiness).latestOwnerByKey key := by
    rw [hlatest]
    split
    · exact (inv.latest key).trans (Nat.le_succ _)
    · exact le_rfl
  have frame : Frame (store.refreshAttempt + 1) store (store.refresh keys restoreReadiness) := by
    refine ⟨Nat.le_succ _, le_rfl, hle, fun key => ?_, fun _ => le_rfl, fun _ => .inl ⟨rfl, rfl⟩,
      fun owner h _ => howners h, fun _ hother => update_of_ne hother _ _⟩
    rw [hlatest]
    split
    · exact .inr rfl
    · exact .inl rfl
  refine ⟨fun key => ?_, fun key => (inv.writer key).trans (Nat.le_succ _), fun key hkey =>
    (inv.ordered key hkey).trans (hle key), fun attempt found h => ?_, fun owner => ?_,
    fun key hkey _ => ?_, fun key hkey _ hready => ?_, inv.applied⟩
  · rw [hlatest]
    split
    · exact le_rfl
    · exact (inv.latest key).trans (Nat.le_succ _)
  · by_cases hnew : attempt = store.refreshAttempt + 1
    · subst hnew
      obtain rfl := Option.some.inj (hfound.symm.trans h)
      refine ⟨Nat.succ_pos _, le_rfl, hkeys, hnodup, le_rfl, fun key hkey => ?_, fun key hkey => ?_,
        by simp, fun key hkey => ?_, hstarted, rfl⟩
      · rw [hlatest, if_pos hkey]
      · by_contra hnot
        rw [hlatest, if_neg hnot] at hkey
        have := inv.latest key
        omega
      · have hwriter : store.writer key = store.refreshAttempt + 1 := hkey
        have := inv.writer key
        omega
    · exact frame.others inv hnew h
  · by_cases hnew : owner = store.refreshAttempt + 1
    · subst hnew
      rw [hstarted]
      simp
    · rw [show (store.refresh keys restoreReadiness).owners owner = store.owners owner from
        update_of_ne hnew ..]
      exact inv.errors owner
  · rw [hlatest]
    split
    · rw [hstarted]
      simp
    · rw [howners (inv.latest key)]
      rcases inv.current key hkey List.not_mem_nil with hwrote | hunsettled | hold
      · exact .inl hwrote
      · exact .inr (.inl hunsettled)
      · refine .inr (.inr fun attempt found h hcurrent => ?_)
        by_cases hnew : attempt = store.refreshAttempt + 1
        · exact hnew ▸ Nat.lt_succ_of_le (inv.latest key)
        · exact hold attempt found ((frame.refreshes attempt hnew).symm.trans h) hcurrent
  · have hhealth : (store.refresh keys restoreReadiness).health key =
        if key ∈ keys then ⟨.refreshing, store.refreshAttempt + 1⟩ else store.health key := rfl
    rw [hhealth] at hready
    rw [hlatest]
    by_cases hmem : key ∈ keys
    · rw [if_pos hmem] at hready
      exact absurd hready (by simp)
    · rw [if_neg hmem] at hready ⊢
      exact inv.ready key hkey List.not_mem_nil hready

/-- A call that goes on reports only what it has written, or what is not ready. -/
theorem Inv.resume {continuation : Continuation}
    (h : continuation ∈ store.continuations) : Inv config [] (store.resume config continuation) := by
  cases continuation with
  | applied keys epoch attempt =>
    unfold Store.resume
    dsimp only
    split
    · exact inv
    · refine inv.publishHealth fun _ key hkey => ?_
      obtain ⟨hmem, howned⟩ := List.mem_filter.1 hkey
      obtain ⟨hregistered, hlatest⟩ := of_decide_eq_true howned
      have hwrote := inv.applied keys epoch attempt h key hmem
      exact le_antisymm (inv.ordered key hregistered) (hlatest.le.trans hwrote)
  | revoked attempt =>
    exact inv.publishHealth (by simp)

end

end Refreshes

end Fmarch.Client
