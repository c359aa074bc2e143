import Fmarch.Client.ProjectionStore
import Fmarch.Lib.Fallible
import Mathlib.Order.Nat

/-!
# What every step of the projection store keeps

Two things a run can do leave a key with an owner that never writes it, or ready without having been
written (`Action.Safe`). But for these, the latest owner of a key wrote it, or has still to end well, or is
older than every refresh that can still publish (`Inv`). This module is about the steps that take keys
over and write them; what refreshes do is in the next.
-/

namespace Fmarch.Client

variable {J V : Type} {config : Config J V}

/-! ## The condition -/

/-- A live delta that takes a key over can be applied. -/
def Applicable (config : Config J V) (store : Store V) (hasScope : Bool) (delta : LiveDelta J) : Prop :=
  if delta.kind ∈ hostConsoleLiveDeltaKinds then
    delta.kind = .hostConsoleStateChanged ∨ "host" ∉ config.registeredKeys ∨
      store.liveDeltaValid config "host" delta hasScope = false ∨
      (config.applyHostConsoleLiveDelta (store.snapshot "host") delta).isSome
  else
    ∀ key ∈ projectionKeyForLiveDelta delta.kind,
      key ∉ config.registeredKeys ∨ store.liveDeltaValid config key delta hasScope = false ∨
        (config.livePatch delta (store.snapshot key)).isSome

/-- The step leaves no key with an owner that does not write it, nor one that is not written ready. -/
def Action.Safe (config : Config J V) (store : Store V) : Action J V → Prop
  | .applyLiveEnvelope scope (some (.delta delta)) =>
    scope.any (fun inScope => !inScope delta) ∨ Applicable config store scope.isSome delta
  | .revokeAuthority =>
    ∀ patch ∈ store.revocationPatch config, patch = [] ∨
      ∀ key ∈ config.registeredKeys, (store.health key).state = .ready → key ∈ patch.map (·.1)
  | _ => True

/-! ## The invariant -/

/-- What a refresh's stage says. -/
def StageOk (store : Store V) (attempt : Nat) (refresh : Refresh V) : Prop :=
  match refresh.stage with
  | .started | .reading =>
    store.owners attempt = { settled := false } ∧ refresh.publishedKeys = []
  | .looping | .waiting =>
    store.owners attempt = { settled := false } ∧ refresh.results.map (·.1) = refresh.keys
  | .committed observed | .published observed =>
    store.owners attempt = { settled := false } ∧ refresh.results.map (·.1) = refresh.keys ∧
      ∃ owner : String → Nat, observed = refresh.keys.map owner ∧ ∀ key ∈ refresh.keys,
        owner key ≤ store.refreshAttempt ∧ (key ∈ refresh.publishedKeys ∧ owner key = attempt ∨
            (attempt < owner key ∧ owner key ≤ store.latestOwnerByKey key) ∧ store.owners (owner key) = {})
  | .failing => (store.owners attempt).settled = false ∧ (store.owners attempt).error ≠ none
  | .resolved => store.owners attempt = {} ∧ ∀ key ∈ refresh.keys, attempt ≤ store.writer key
  | .rejected => (store.owners attempt).settled = true ∧ (store.owners attempt).error ≠ none

/-- What holds of a refresh. -/
structure RefreshOk (config : Config J V) (store : Store V) (attempt : Nat) (refresh : Refresh V) :
    Prop where
  registered : ∀ key ∈ refresh.keys, key ∈ config.registeredKeys
  nodup : refresh.keys.Nodup
  epoch : refresh.epoch ≤ store.authorityEpoch
  owned : ∀ key ∈ refresh.keys, attempt ≤ store.latestOwnerByKey key
  owns : ∀ key, store.latestOwnerByKey key = attempt → key ∈ refresh.keys
  published : ∀ key ∈ refresh.publishedKeys, key ∈ refresh.keys ∧ attempt ≤ store.writer key
  own : ∀ key, store.writer key = attempt → key ∈ refresh.publishedKeys ∧
    ∃ value, (key, .success value) ∈ refresh.results ∧ store.snapshot key = some value
  stage : StageOk store attempt refresh

/-- What every step keeps, but for some keys whose owner has still to write them. -/
structure Inv (config : Config J V) (except : List String) (store : Store V) : Prop where
  latest : ∀ key, store.latestOwnerByKey key ≤ store.refreshAttempt
  writer : ∀ key, store.writer key ≤ store.refreshAttempt
  ordered : ∀ key ∈ config.registeredKeys, store.writer key ≤ store.latestOwnerByKey key
  refreshes : ∀ attempt refresh, store.refreshes attempt = some refresh →
    0 < attempt ∧ attempt ≤ store.refreshAttempt ∧ RefreshOk config store attempt refresh
  errors : ∀ owner, (store.owners owner).error ≠ some []
  /-- The latest owner wrote the key, or has still to end well, or is older than every refresh that can
  still publish. -/
  current : ∀ key ∈ config.registeredKeys, key ∉ except →
    store.writer key = store.latestOwnerByKey key ∨ store.owners (store.latestOwnerByKey key) ≠ {} ∨
      ∀ attempt refresh, store.refreshes attempt = some refresh →
        refresh.epoch = store.authorityEpoch → store.latestOwnerByKey key < attempt
  ready : ∀ key ∈ config.registeredKeys, key ∉ except →
    (store.health key).state = .ready → store.writer key = store.latestOwnerByKey key
  applied : ∀ keys epoch attempt, .applied keys epoch attempt ∈ store.continuations →
    ∀ key ∈ keys, attempt ≤ store.writer key

/-- What an actor leaves of the refreshes of others. -/
structure Frame (actor : Nat) (store next : Store V) : Prop where
  attempt : store.refreshAttempt ≤ next.refreshAttempt
  epoch : store.authorityEpoch ≤ next.authorityEpoch
  latest : ∀ key, store.latestOwnerByKey key ≤ next.latestOwnerByKey key
  taken : ∀ key, next.latestOwnerByKey key = store.latestOwnerByKey key ∨ next.latestOwnerByKey key = actor
  writer : ∀ key, store.writer key ≤ next.writer key
  written : ∀ key, next.writer key = store.writer key ∧ next.snapshot key = store.snapshot key ∨
    next.writer key = actor
  owners : ∀ owner ≤ store.refreshAttempt, owner ≠ actor ∨ (store.owners owner).settled = true →
    next.owners owner = store.owners owner
  refreshes : ∀ attempt, attempt ≠ actor → next.refreshes attempt = store.refreshes attempt

namespace Frame

variable {actor attempt : Nat} {store next : Store V} {refresh : Refresh V}

theorem stageOk (frame : Frame actor store next) (hattempt : attempt ≤ store.refreshAttempt)
    (hother : attempt ≠ actor) (h : StageOk store attempt refresh) : StageOk next attempt refresh := by
  have howner := frame.owners attempt hattempt (.inl hother)
  have hobserved {owner : Nat} (hle : owner ≤ store.refreshAttempt) (h : store.owners owner = {}) :
      next.owners owner = {} := by
    rw [frame.owners owner hle (.inr (by rw [h])), h]
  unfold StageOk at h ⊢
  rw [howner]
  cases hstage : refresh.stage with
  | started | reading | looping | waiting | failing | rejected =>
    rw [hstage] at h
    exact h
  | resolved =>
    rw [hstage] at h
    exact ⟨h.1, fun key hkey => (h.2 key hkey).trans (frame.writer key)⟩
  | committed observed | published observed =>
    rw [hstage] at h
    obtain ⟨hunsettled, hread, owner, hmap, hkeys⟩ := h
    refine ⟨hunsettled, hread, owner, hmap, fun key hkey => ?_⟩
    obtain ⟨hle, hkey⟩ := hkeys key hkey
    refine ⟨hle.trans frame.attempt, hkey.imp id fun ⟨⟨hnewer, hlatest⟩, hclean⟩ => ?_⟩
    exact ⟨⟨hnewer, hlatest.trans (frame.latest key)⟩, hobserved hle hclean⟩

theorem refreshOk (frame : Frame actor store next) (hattempt : attempt ≤ store.refreshAttempt)
    (hother : attempt ≠ actor) (h : RefreshOk config store attempt refresh) :
    RefreshOk config next attempt refresh where
  registered := h.registered
  nodup := h.nodup
  epoch := h.epoch.trans frame.epoch
  owned key hkey := (h.owned key hkey).trans (frame.latest key)
  owns key hkey := by
    rcases frame.taken key with hkept | htaken
    · exact h.owns key (hkept.symm.trans hkey)
    · exact absurd (hkey.symm.trans htaken) hother
  published key hkey := ⟨(h.published key hkey).1, (h.published key hkey).2.trans (frame.writer key)⟩
  own key hkey := by
    rcases frame.written key with ⟨hwriter, hsnapshot⟩ | hactor
    · rw [hsnapshot]
      exact h.own key (hwriter.symm.trans hkey)
    · exact absurd (hkey.symm.trans hactor) hother
  stage := frame.stageOk hattempt hother h.stage

theorem others {except : List String} (frame : Frame actor store next) (inv : Inv config except store)
    (hother : attempt ≠ actor) (h : next.refreshes attempt = some refresh) :
    0 < attempt ∧ attempt ≤ next.refreshAttempt ∧ RefreshOk config next attempt refresh := by
  rw [frame.refreshes attempt hother] at h
  obtain ⟨hpos, hattempt, hok⟩ := inv.refreshes attempt refresh h
  exact ⟨hpos, hattempt.trans frame.attempt, frame.refreshOk hattempt hother hok⟩

end Frame

/-! ## Superseding and writing -/

section Writes

variable {except keys : List String} {store : Store V} {key : String}

theorem supersede_latest (store : Store V) (keys : List String) (key : String) :
    (store.supersedeProjectionKeys config keys).latestOwnerByKey key =
      if key ∈ keys ∧ key ∈ config.registeredKeys then store.refreshAttempt + 1
      else store.latestOwnerByKey key := rfl

theorem Inv.fresh (inv : Inv config except store) : store.refreshes (store.refreshAttempt + 1) = none := by
  cases h : store.refreshes (store.refreshAttempt + 1) with
  | none => rfl
  | some refresh =>
    have := (inv.refreshes _ _ h).2.1
    omega

variable {epoch attempt : Nat}

/-- Taking keys over leaves the refreshes as they should be; the epoch may advance with it. -/
theorem Frame.supersede (inv : Inv config except store) (hepoch : store.authorityEpoch ≤ epoch) :
    Frame (store.refreshAttempt + 1) store
      ({ store with authorityEpoch := epoch }.supersedeProjectionKeys config keys) where
  attempt := Nat.le_succ _
  epoch := hepoch
  latest key := by
    rw [supersede_latest]
    split
    · exact (inv.latest key).trans (Nat.le_succ _)
    · exact le_rfl
  taken key := by
    rw [supersede_latest]
    split
    · exact .inr rfl
    · exact .inl rfl
  writer _ := le_rfl
  written _ := .inl ⟨rfl, rfl⟩
  owners owner hle _ := Function.update_of_ne (Nat.ne_of_lt (Nat.lt_succ_of_le hle)) _ _
  refreshes _ _ := rfl

/-- Keys that are taken over have an owner that has still to write them. -/
theorem Inv.supersede (inv : Inv config except store) (hexcept : ∀ key ∈ except, key ∈ keys)
    (hepoch : store.authorityEpoch ≤ epoch) :
    Inv config keys ({ store with authorityEpoch := epoch }.supersedeProjectionKeys config keys) := by
  have frame : Frame (store.refreshAttempt + 1) store
      ({ store with authorityEpoch := epoch }.supersedeProjectionKeys config keys) :=
    Frame.supersede inv hepoch
  have hkept {key : String} (hkey : key ∉ keys) :
      ({ store with authorityEpoch := epoch }.supersedeProjectionKeys config keys).latestOwnerByKey key =
        store.latestOwnerByKey key := by
    rw [supersede_latest, if_neg fun h => hkey h.1]
  refine ⟨fun key => ?_, fun key => (inv.writer key).trans (Nat.le_succ _), fun key hkey =>
    (inv.ordered key hkey).trans (frame.latest key), fun attempt refresh hrefresh => ?_, fun owner => ?_,
    fun key hkey hnot => ?_, fun key hkey hnot hready => ?_, inv.applied⟩
  · rw [supersede_latest]
    split
    · exact le_rfl
    · exact (inv.latest key).trans (Nat.le_succ _)
  · refine frame.others inv ?_ hrefresh
    rintro rfl
    cases inv.fresh.symm.trans hrefresh
  · by_cases howner : owner = store.refreshAttempt + 1
    · subst howner
      rw [show (Store.supersedeProjectionKeys config { store with authorityEpoch := epoch } keys).owners
        (store.refreshAttempt + 1) = {} from Function.update_self ..]
      simp
    · rw [show (Store.supersedeProjectionKeys config { store with authorityEpoch := epoch } keys).owners
        owner = store.owners owner from Function.update_of_ne howner ..]
      exact inv.errors owner
  · have hlatest := inv.latest key
    rw [hkept hnot]
    rcases inv.current key hkey fun h => hnot (hexcept key h) with hwrote | hunsettled | hold
    · exact .inl hwrote
    · refine .inr (.inl ?_)
      rwa [frame.owners _ hlatest (.inl (by omega))]
    · refine .inr (.inr fun attempt refresh hrefresh hcurrent => hold attempt refresh hrefresh ?_)
      have hle := (inv.refreshes attempt refresh hrefresh).2.2.epoch
      exact le_antisymm hle (hepoch.trans hcurrent.ge)
  · rw [hkept hnot]
    exact inv.ready key hkey (fun h => hnot (hexcept key h)) hready

theorem Frame.publishHealth (actor : Nat) {state : KeyState} :
    Frame actor store (store.publishHealth keys state attempt) where
  attempt := le_rfl
  epoch := le_rfl
  latest _ := le_rfl
  taken _ := .inl rfl
  writer _ := le_rfl
  written _ := .inl ⟨rfl, rfl⟩
  owners _ _ _ := rfl
  refreshes _ _ := rfl

/-- If keys become ready, it is keys that their latest owner wrote. -/
theorem Inv.publishHealth (inv : Inv config except store) {state : KeyState}
    (hwrote : state = .ready → ∀ key ∈ keys, store.writer key = store.latestOwnerByKey key) :
    Inv config except (store.publishHealth keys state attempt) :=
  { inv with
    refreshes other _ := (Frame.publishHealth (other + 1)).others inv (Nat.ne_of_lt (Nat.lt_succ_self _))
    ready key hkey hnot hready := by
      unfold Store.publishHealth at hready
      dsimp only at hready
      split at hready
      case isTrue hmem => exact hwrote hready key hmem
      case isFalse => exact inv.ready key hkey hnot hready }

/-- In a new epoch, keys that are not ready may have an owner that does not write them. -/
theorem Inv.new_epoch (inv : Inv config except store)
    (hepoch : ∀ attempt refresh, store.refreshes attempt = some refresh →
      refresh.epoch ≠ store.authorityEpoch)
    (hready : ∀ key ∈ config.registeredKeys, key ∈ except → (store.health key).state ≠ .ready) :
    Inv config [] store :=
  { inv with
    current key hkey _ := by
      by_cases hmem : key ∈ except
      · exact .inr (.inr fun attempt refresh hrefresh hsame =>
          absurd hsame (hepoch attempt refresh hrefresh))
      · exact inv.current key hkey hmem
    ready key hkey _ hstate := by
      by_cases hmem : key ∈ except
      · exact absurd hstate (hready key hkey hmem)
      · exact inv.ready key hkey hmem hstate }

theorem Inv.unavailable (inv : Inv config keys store)
    (hepoch : ∀ attempt refresh, store.refreshes attempt = some refresh → refresh.epoch ≠ store.authorityEpoch) :
    Inv config [] (store.publishHealth keys .unavailable attempt) := by
  refine (inv.publishHealth (by simp)).new_epoch hepoch fun key _ hmem => ?_
  unfold Store.publishHealth
  dsimp only
  rw [if_pos hmem]
  simp

theorem Inv.past_epoch (inv : Inv config except store) {refresh : Refresh V}
    (h : store.refreshes attempt = some refresh) : refresh.epoch ≠ store.authorityEpoch + 1 := by
  have := (inv.refreshes attempt refresh h).2.2.epoch
  omega

theorem Inv.invalidate (inv : Inv config except store) (hexcept : ∀ key ∈ except, key ∈ keys) :
    Inv config [] (store.invalidate config keys) := by
  unfold Store.invalidate
  exact (inv.supersede hexcept (Nat.le_succ _)).unavailable fun _ _ h => inv.past_epoch h

theorem commit_writer (store : Store V) (attempt : Nat) (patch : List (String × Option V)) (key : String) :
    (store.commitSnapshot attempt patch).writer key =
      if key ∈ patch.map (·.1) then attempt else store.writer key := rfl

theorem commit_snapshot_other {patch : List (String × Option V)} (h : key ∉ patch.map (·.1)) :
    (store.commitSnapshot attempt patch).snapshot key = store.snapshot key := by
  unfold Store.commitSnapshot
  have hnone : patch.find? (·.1 = key) = none := by
    refine List.find?_eq_none.2 fun entry hentry hkey => h ?_
    exact List.mem_map.2 ⟨entry, hentry, of_decide_eq_true hkey⟩
  dsimp only
  rw [hnone]

/-- A write of keys by an owner that is their latest, or of keys that are not registered. -/
theorem Frame.commit {patch : List (String × Option V)}
    (howner : ∀ key ∈ patch.map (·.1), store.writer key ≤ attempt) :
    Frame attempt store (store.commitSnapshot attempt patch) where
  attempt := le_rfl
  epoch := le_rfl
  latest _ := le_rfl
  taken _ := .inl rfl
  writer key := by
    rw [commit_writer]
    split
    case isTrue hmem => exact howner key hmem
    case isFalse => exact le_rfl
  written key := by
    rw [commit_writer]
    by_cases hmem : key ∈ patch.map (·.1)
    · exact .inr (if_pos hmem)
    · exact .inl ⟨if_neg hmem, commit_snapshot_other hmem⟩
  owners _ _ _ := rfl
  refreshes _ _ := rfl

/-- Writing keys that were just taken over. -/
theorem Inv.write (inv : Inv config except store) (hexcept : ∀ key ∈ except, key ∈ keys)
    {patch : List (String × Option V)} {except' : List String}
    (hpatch : ∀ key ∈ patch.map (·.1), key ∈ keys)
    (hall : ∀ key ∈ keys, key ∉ except' → key ∈ patch.map (·.1))
    (hepoch : store.authorityEpoch ≤ epoch) :
    Inv config except' (({ store with authorityEpoch := epoch }.supersedeProjectionKeys config
      keys).commitSnapshot (store.refreshAttempt + 1) patch) := by
  have hbefore := inv.supersede hexcept hepoch
  have hfresh : ({ store with authorityEpoch := epoch }.supersedeProjectionKeys config keys).refreshes
      (store.refreshAttempt + 1) = none := inv.fresh
  have frame : Frame (store.refreshAttempt + 1)
      ({ store with authorityEpoch := epoch }.supersedeProjectionKeys config keys)
      (({ store with authorityEpoch := epoch }.supersedeProjectionKeys config keys).commitSnapshot
        (store.refreshAttempt + 1) patch) := Frame.commit fun key _ => hbefore.writer key
  have howned {key : String} (hkey : key ∈ keys) (hregistered : key ∈ config.registeredKeys) :
      ({ store with authorityEpoch := epoch }.supersedeProjectionKeys config keys).latestOwnerByKey key =
        store.refreshAttempt + 1 := by
    rw [supersede_latest, if_pos ⟨hkey, hregistered⟩]
  have hwrote {key : String} (hregistered : key ∈ config.registeredKeys) (hnot : key ∉ except') :
      key ∈ keys → (({ store with authorityEpoch := epoch }.supersedeProjectionKeys config
        keys).commitSnapshot (store.refreshAttempt + 1) patch).writer key =
          (({ store with authorityEpoch := epoch }.supersedeProjectionKeys config
            keys).commitSnapshot (store.refreshAttempt + 1) patch).latestOwnerByKey key := by
    intro hkey
    rw [commit_writer, if_pos (hall key hkey hnot)]
    exact (howned hkey hregistered).symm
  refine ⟨hbefore.latest, fun key => ?_, fun key hkey => ?_, fun attempt refresh hrefresh => ?_,
    hbefore.errors, fun key hkey hnot => ?_, fun key hkey hnot hready => ?_,
    fun keys' epoch' attempt hmem key hkey => (hbefore.applied keys' epoch' attempt hmem key hkey).trans
      (frame.writer key)⟩
  · rw [commit_writer]
    split
    · exact le_rfl
    · exact hbefore.writer key
  · rw [commit_writer]
    split
    case isTrue hmem => exact (howned (hpatch key hmem) hkey).ge
    case isFalse => exact hbefore.ordered key hkey
  · refine frame.others hbefore ?_ hrefresh
    rintro rfl
    cases hfresh.symm.trans hrefresh
  · by_cases hmem : key ∈ keys
    · exact .inl (hwrote hkey hnot hmem)
    · rcases hbefore.current key hkey hmem with hold | hrest
      · refine .inl ?_
        rw [commit_writer, if_neg fun h => hmem (hpatch key h)]
        exact hold
      · exact .inr hrest
  · by_cases hmem : key ∈ keys
    · exact hwrote hkey hnot hmem
    · rw [commit_writer, if_neg fun h => hmem (hpatch key h)]
      exact hbefore.ready key hkey hmem hready

/-- A call goes on later, with keys it has written. -/
theorem Inv.continuing (inv : Inv config except store) {continuations : List Continuation}
    (h : ∀ keys epoch attempt, .applied keys epoch attempt ∈ continuations →
      ∀ key ∈ keys, attempt ≤ store.writer key) :
    Inv config except { store with continuations } :=
  { inv with
    refreshes attempt refresh hrefresh := by
      have frame : Frame (attempt + 1) store { store with continuations } :=
        ⟨le_rfl, le_rfl, fun _ => le_rfl, fun _ => .inl rfl, fun _ => le_rfl, fun _ => .inl ⟨rfl, rfl⟩,
          fun _ _ _ => rfl, fun _ _ => rfl⟩
      exact frame.others inv (Nat.ne_of_lt (Nat.lt_succ_self _)) hrefresh
    applied := h }

theorem Inv.apply (inv : Inv config except store) {patch : List (String × Option V)}
    (hexcept : ∀ key ∈ except, key ∈ patch.map (·.1)) :
    Inv config [] ((store.supersedeProjectionKeys config (patch.map (·.1))).apply (patch.map (·.1))
      patch) := by
  have hwrite : Inv config [] ((store.supersedeProjectionKeys config (patch.map (·.1))).commitSnapshot
      (store.refreshAttempt + 1) patch) :=
    inv.write hexcept (fun _ h => h) (fun _ h _ => h) le_rfl
  refine hwrite.continuing fun keys epoch attempt hmem key hkey => ?_
  rcases List.mem_cons.1 hmem with hnew | hold
  · obtain ⟨rfl, -, rfl⟩ := Continuation.applied.inj hnew
    rw [commit_writer, if_pos hkey]
    exact le_rfl
  · exact hwrite.applied keys epoch attempt hold key hkey

theorem coldLoad?_missing (h : config.coldLoad? key = none) : key ∉ config.registeredKeys := by
  intro hregistered
  obtain ⟨entry, hentry, rfl⟩ := List.mem_map.1 hregistered
  have hsome : (config.coldLoads.find? (·.1 = entry.1)).isSome :=
    List.find?_isSome.2 ⟨entry, hentry, by simp⟩
  obtain ⟨found, hfound⟩ := Option.isSome_iff_exists.1 hsome
  unfold Config.coldLoad? at h
  rw [hfound] at h
  cases h

/-- Keys that are not registered have no owner. -/
theorem Inv.unregistered (inv : Inv config except store)
    (h : ∀ key ∈ except, key ∉ config.registeredKeys) : Inv config [] store :=
  { inv with
    current key hkey _ := inv.current key hkey fun hmem => h key hmem hkey
    ready key hkey _ := inv.ready key hkey fun hmem => h key hmem hkey }

/-- A payload for a key, whether or not its owner has written it. -/
theorem Inv.applyPayload (inv : Inv config except store) (hexcept : ∀ other ∈ except, other = key)
    (payload : J) : Inv config [] (store.applyPayload config key payload) := by
  have hmem : ∀ other ∈ except, other ∈ [key] := fun other hother =>
    List.mem_singleton.2 (hexcept other hother)
  unfold Store.applyPayload
  split
  case h_1 hnone =>
    exact inv.unregistered fun other hother => hexcept other hother ▸ coldLoad?_missing hnone
  case h_2 coldLoad _ =>
    dsimp only
    split
    case h_1 value _ => exact @Inv.apply J V config except store inv [(key, some value)] hmem
    case h_2 => exact (inv.supersede hmem le_rfl).invalidate fun _ h => h

theorem Inv.applyNormalizedPayload (inv : Inv config except store)
    (hexcept : ∀ other ∈ except, other = key) (value : V) :
    Inv config [] (store.applyNormalizedPayload config key value) := by
  have hmem : ∀ other ∈ except, other ∈ [key] := fun other hother =>
    List.mem_singleton.2 (hexcept other hother)
  unfold Store.applyNormalizedPayload
  split
  case h_1 hnone =>
    exact inv.unregistered fun other hother => hexcept other hother ▸ coldLoad?_missing hnone
  case h_2 coldLoad _ =>
    dsimp only
    split
    case isTrue => exact @Inv.apply J V config except store inv [(key, some value)] hmem
    case isFalse => exact (inv.supersede hmem le_rfl).invalidate fun _ h => h

theorem Inv.validateLiveProjectionDelta (inv : Inv config [] store) {delta : LiveDelta J}
    {hasScope : Bool} {rest : Store V → Store V}
    (hrest : store.liveDeltaValid config key delta hasScope = true →
      Inv config [key] (store.supersedeProjectionKeys config [key]) →
      Inv config [] (rest (store.supersedeProjectionKeys config [key]))) :
    Inv config [] (store.validateLiveProjectionDelta config key delta hasScope rest) := by
  unfold Store.validateLiveProjectionDelta
  split
  case isTrue hvalid => exact hrest hvalid (inv.supersede (by simp) le_rfl)
  case isFalse =>
    split
    · exact inv.invalidate (by simp)
    · exact inv

theorem Inv.applyLiveEnvelope (inv : Inv config [] store) {scope : Option (LiveDelta J → Bool)}
    {envelope : Option (Message J)} (hsafe : (Action.applyLiveEnvelope scope envelope).Safe config store) :
    Inv config [] (store.applyLiveEnvelope config scope envelope) := by
  cases envelope with
  | none => exact inv.invalidate (by simp)
  | some message =>
    cases message with
    | hello => exact inv
    | resyncRequired => exact inv
    | delta delta =>
      have hone : ∀ key : String, ∀ other ∈ [key], other = key := fun key other h =>
        List.mem_singleton.1 h
      simp only [Store.applyLiveEnvelope]
      by_cases hscope : scope.any (fun inScope => !inScope delta)
      · rw [if_pos hscope]
        exact inv
      rw [if_neg hscope]
      have happlicable := hsafe.resolve_left hscope
      unfold Applicable at happlicable
      by_cases hhost : delta.kind ∈ hostConsoleLiveDeltaKinds
      · rw [if_pos hhost] at happlicable ⊢
        refine inv.validateLiveProjectionDelta fun hvalid htaken => ?_
        split
        · exact htaken.applyPayload (hone _) _
        case isFalse hkind =>
          split
          case h_1 value _ => exact htaken.applyNormalizedPayload (hone _) value
          case h_2 hfails =>
            rcases happlicable with hstate | hunregistered | hinvalid | happlies
            · exact absurd hstate hkind
            · exact htaken.unregistered fun key hkey => List.mem_singleton.1 hkey ▸ hunregistered
            · cases hvalid.symm.trans hinvalid
            · exact absurd happlies (by simp [show (config.applyHostConsoleLiveDelta
                (store.snapshot "host") delta) = none from hfails])
      · rw [if_neg hhost] at happlicable ⊢
        split
        case h_1 key field _ =>
          exact inv.validateLiveProjectionDelta fun _ htaken => htaken.applyPayload (hone _) _
        case h_2 =>
          split
          case h_1 => exact inv
          case h_2 key hkey =>
            refine inv.validateLiveProjectionDelta fun hvalid htaken => ?_
            split
            case h_1 value _ =>
              exact @Inv.apply J V config [key] _ htaken [(key, value)] (by simp)
            case h_2 hfails =>
              rcases happlicable key hkey with hunregistered | hinvalid | happlies
              · exact htaken.unregistered fun other hother =>
                  List.mem_singleton.1 hother ▸ hunregistered
              · cases hvalid.symm.trans hinvalid
              · exact absurd happlies (by simp [show (config.livePatch delta
                  (store.snapshot key)) = none from hfails])

theorem Inv.revokeAuthority (inv : Inv config [] store)
    (hsafe : (Action.revokeAuthority : Action J V).Safe config store) :
    Inv config [] (store.revokeAuthority config) := by
  unfold Store.revokeAuthority
  split
  case h_1 => exact inv
  case h_2 patch hpatch =>
    dsimp only
    split
    case isTrue =>
      exact (inv.supersede (by simp) (Nat.le_succ _)).unavailable fun _ _ h => inv.past_epoch h
    case isFalse hnonempty =>
      have hpatched := (hsafe patch hpatch).resolve_left hnonempty
      have hkeys : ∀ key ∈ patch.map (·.1), key ∈ config.registeredKeys := by
        intro key hkey
        obtain ⟨written, hwritten, rfl⟩ := List.mem_map.1 hkey
        obtain ⟨entry, hentry, hvalue⟩ := Fallible.exists_of_mem_mapM hpatch written hwritten
        obtain ⟨value, -, rfl⟩ := Option.map_eq_some_iff.1 hvalue
        exact List.mem_map.2 ⟨entry, (List.mem_filter.1 hentry).1, rfl⟩
      have hwrite : Inv config (config.registeredKeys.filter (· ∉ patch.map (·.1)))
          (({ store with authorityEpoch := store.authorityEpoch + 1 }.supersedeProjectionKeys config
            config.registeredKeys).commitSnapshot (store.refreshAttempt + 1) patch) := by
        refine inv.write (by simp) hkeys (fun key hkey hnot => ?_) (Nat.le_succ _)
        by_contra hmissing
        exact hnot (List.mem_filter.2 ⟨hkey, decide_eq_true hmissing⟩)
      have hepoch : Inv config [] (({ store with authorityEpoch := store.authorityEpoch + 1
          }.supersedeProjectionKeys config config.registeredKeys).commitSnapshot
            (store.refreshAttempt + 1) patch) := by
        refine hwrite.new_epoch (fun _ _ h => inv.past_epoch h) fun key hkey hmem hready => ?_
        exact of_decide_eq_true (List.mem_filter.1 hmem).2 (hpatched key hkey hready)
      refine hepoch.continuing fun keys epoch attempt hmem => ?_
      exact hepoch.applied keys epoch attempt ((List.mem_cons.1 hmem).resolve_left (by simp))

end Writes

end Fmarch.Client
