import Fmarch.Client.StoreRefreshes
import Fmarch.Lib.Steps

/-!
# Runs of the projection store

**`store_lawful`**: in every run of refreshes, applied payloads, live envelopes, invalidations, revocations
and aborts whose steps are safe, a refresh writes a key only as its latest owner and in its own epoch, and
nothing is ever replaced by what an older owner brings; a refresh that resolves leaves each of its keys
with what it read or with what a newer owner wrote, one that rejects without having published has never
written anything; and a key is ready only if its latest owner wrote it.

Two things are not safe (`Action.Safe`). A live delta takes its key over before it is applied; when it then
cannot be applied, the key is left with an owner that never writes it, and a refresh that it overtook
resolves empty-handed (`orphan_starves`). And the subscribers who are told of a revocation find the keys
that have no revoked value still ready.
-/

namespace Fmarch.Client

variable {J V : Type} {config : Config J V} {store next later : Store V} {attempt : Nat}
  {refresh refresh' : Refresh V}

/-! ## The invariant of a step -/

theorem Inv.step (inv : Inv config [] store) {action : Action J V} (hsafe : action.Safe config store)
    (h : step config store action = some next) : Inv config [] next := by
  cases action with
  | refresh keys restoreReadiness =>
    by_cases hkeys : ∀ key ∈ keys, key ∈ config.registeredKeys
    · obtain rfl := Option.some.inj ((if_pos hkeys).symm.trans h)
      exact inv.start keys.nodup_dedup (fun key hkey => hkeys key (List.mem_dedup.1 hkey)) _
    · exact absurd ((if_neg hkeys).symm.trans h) (by simp)
  | advance attempt results =>
    obtain ⟨refresh, hrefresh, hadvance⟩ := Option.bind_eq_some_iff.1 h
    exact inv.advance hrefresh hadvance
  | interrupt attempt =>
    obtain ⟨refresh, hrefresh, hinterrupt⟩ := Option.bind_eq_some_iff.1 h
    exact inv.interrupt hrefresh hinterrupt
  | abort attempt =>
    obtain ⟨refresh, hrefresh, rfl⟩ := Option.map_eq_some_iff.1 h
    exact inv.abort hrefresh
  | invalidate keys =>
    by_cases hkeys : ∀ key ∈ keys, key ∈ config.registeredKeys
    · obtain rfl := Option.some.inj ((if_pos hkeys).symm.trans h)
      exact inv.invalidate (by simp)
    · exact absurd ((if_neg hkeys).symm.trans h) (by simp)
  | revokeAuthority =>
    obtain rfl := Option.some.inj h
    exact inv.revokeAuthority hsafe
  | applyPayload key payload =>
    obtain rfl := Option.some.inj h
    exact inv.applyPayload (by simp) payload
  | applySnapshot patch =>
    obtain rfl := Option.some.inj h
    exact inv.apply (by simp)
  | applyLiveEnvelope scope envelope =>
    obtain rfl := Option.some.inj h
    exact inv.applyLiveEnvelope hsafe
  | resume continuation =>
    by_cases hmem : continuation ∈ store.continuations
    · obtain rfl := Option.some.inj ((if_pos hmem).symm.trans h)
      have hresumed := inv.resume hmem
      have hkept : (store.resume config continuation).continuations = store.continuations := by
        cases continuation with
        | revoked => rfl
        | applied keys epoch attempt =>
          unfold Store.resume
          dsimp only
          split <;> rfl
      refine hresumed.continuing fun keys epoch attempt hleft => ?_
      exact hresumed.applied keys epoch attempt (hkept ▸ List.mem_of_mem_erase hleft)
    · exact absurd ((if_neg hmem).symm.trans h) (by simp)

/-- A store that has just been created. -/
def Store.initial (snapshot : String → Option V) : Store V := { snapshot }

theorem Inv.initial (config : Config J V) (snapshot : String → Option V) :
    Inv config [] (Store.initial snapshot) where
  latest _ := le_rfl
  writer _ := le_rfl
  ordered _ _ := le_rfl
  refreshes attempt refresh h := absurd h (by simp [Store.initial])
  errors _ := by simp [Store.initial]
  current _ _ _ := .inl rfl
  ready _ _ _ _ := rfl
  applied keys epoch attempt h := absurd h (by simp [Store.initial])

/-! ## What a step leaves -/

/-- Epochs and writers only advance, and refreshes keep what they are about. -/
structure Later (store next : Store V) : Prop where
  epoch : store.authorityEpoch ≤ next.authorityEpoch
  written : ∀ key, next.snapshot key = store.snapshot key ∧ next.writer key = store.writer key ∨
    store.writer key < next.writer key
  refreshes : ∀ attempt refresh, store.refreshes attempt = some refresh →
    ∃ refresh', next.refreshes attempt = some refresh' ∧ refresh'.epoch = refresh.epoch ∧
      refresh'.keys = refresh.keys ∧ refresh.publishedKeys ⊆ refresh'.publishedKeys

namespace Later

theorem refl (store : Store V) : Later store store :=
  ⟨le_rfl, fun _ => .inl ⟨rfl, rfl⟩, fun _ refresh h => ⟨refresh, h, rfl, rfl, List.Subset.refl _⟩⟩

theorem trans (h : Later store next) (h' : Later next later) : Later store later where
  epoch := h.epoch.trans h'.epoch
  written key := by
    rcases h.written key with ⟨hsnapshot, hwriter⟩ | hgrows <;>
      rcases h'.written key with ⟨hsnapshot', hwriter'⟩ | hgrows'
    · exact .inl ⟨hsnapshot'.trans hsnapshot, hwriter'.trans hwriter⟩
    · exact .inr (hwriter ▸ hgrows')
    · exact .inr (hwriter' ▸ hgrows)
    · exact .inr (hgrows.trans hgrows')
  refreshes attempt refresh hrefresh := by
    obtain ⟨refresh', hrefresh', hepoch, hkeys, hpublished⟩ := h.refreshes attempt refresh hrefresh
    obtain ⟨last, hlast, hepoch', hkeys', hpublished'⟩ := h'.refreshes attempt refresh' hrefresh'
    exact ⟨last, hlast, hepoch'.trans hepoch, hkeys'.trans hkeys,
      fun key hkey => hpublished' (hpublished hkey)⟩

theorem quiet (hepoch : store.authorityEpoch ≤ next.authorityEpoch)
    (hsnapshot : next.snapshot = store.snapshot) (hwriter : next.writer = store.writer)
    (hrefreshes : next.refreshes = store.refreshes) : Later store next :=
  ⟨hepoch, fun _ => .inl ⟨by rw [hsnapshot], by rw [hwriter]⟩,
    fun _ refresh h => ⟨refresh, hrefreshes ▸ h, rfl, rfl, List.Subset.refl _⟩⟩

/-- A refresh that goes on. -/
theorem put (hrefresh : store.refreshes attempt = some refresh)
    (hepoch : store.authorityEpoch ≤ next.authorityEpoch)
    (hwritten : ∀ key, next.snapshot key = store.snapshot key ∧ next.writer key = store.writer key ∨
      store.writer key < next.writer key)
    (hrefreshes : next.refreshes = Function.update store.refreshes attempt (some refresh'))
    (hsame : refresh'.epoch = refresh.epoch) (hkeys : refresh'.keys = refresh.keys)
    (hpublished : refresh.publishedKeys ⊆ refresh'.publishedKeys) : Later store next := by
  refine ⟨hepoch, hwritten, fun other found hfound => ?_⟩
  by_cases hother : other = attempt
  · subst hother
    obtain rfl := Option.some.inj (hrefresh.symm.trans hfound)
    refine ⟨refresh', ?_, hsame, hkeys, hpublished⟩
    rw [hrefreshes, Function.update_self]
  · refine ⟨found, ?_, rfl, rfl, List.Subset.refl _⟩
    rw [hrefreshes, Function.update_of_ne hother]
    exact hfound

theorem commit {patch : List (String × Option V)} (h : ∀ key ∈ patch.map (·.1), store.writer key < attempt) :
    Later store (store.commitSnapshot attempt patch) := by
  refine ⟨le_rfl, fun key => ?_, fun _ refresh h => ⟨refresh, h, rfl, rfl, List.Subset.refl _⟩⟩
  rw [commit_writer]
  by_cases hkey : key ∈ patch.map (·.1)
  · exact .inr (by rw [if_pos hkey]; exact h key hkey)
  · exact .inl ⟨commit_snapshot_other hkey, if_neg hkey⟩

/-! ### Of the functions that take keys over -/

theorem supersede (store : Store V) (keys : List String) :
    Later store (store.supersedeProjectionKeys config keys) := .quiet le_rfl rfl rfl rfl

theorem invalidate (store : Store V) (keys : List String) :
    Later store (store.invalidate config keys) := .quiet (Nat.le_succ _) rfl rfl rfl

theorem apply (hwriter : ∀ key, store.writer key ≤ store.refreshAttempt) (keys : List String)
    (patch : List (String × Option V)) :
    Later store ((store.supersedeProjectionKeys config keys).apply keys patch) := by
  have hcommit : Later (store.supersedeProjectionKeys config keys)
      ((store.supersedeProjectionKeys config keys).commitSnapshot (store.refreshAttempt + 1) patch) :=
    commit fun key _ => Nat.lt_succ_of_le (hwriter key)
  exact ((supersede store keys).trans hcommit).trans (.quiet le_rfl rfl rfl rfl)

theorem applyPayload (hwriter : ∀ key, store.writer key ≤ store.refreshAttempt) (key : String)
    (payload : J) : Later store (store.applyPayload config key payload) := by
  unfold Store.applyPayload
  split
  · exact refl store
  · dsimp only
    split
    · exact apply hwriter _ _
    · exact (supersede store _).trans (invalidate _ _)

theorem applyNormalizedPayload (hwriter : ∀ key, store.writer key ≤ store.refreshAttempt) (key : String)
    (value : V) : Later store (store.applyNormalizedPayload config key value) := by
  unfold Store.applyNormalizedPayload
  split
  · exact refl store
  · dsimp only
    split
    · exact apply hwriter _ _
    · exact (supersede store _).trans (invalidate _ _)

theorem validateLiveProjectionDelta {key : String} {delta : LiveDelta J} {hasScope : Bool}
    {rest : Store V → Store V}
    (hrest : Later (store.supersedeProjectionKeys config [key])
      (rest (store.supersedeProjectionKeys config [key]))) :
    Later store (store.validateLiveProjectionDelta config key delta hasScope rest) := by
  unfold Store.validateLiveProjectionDelta
  split
  · exact (supersede store _).trans hrest
  · split
    · exact invalidate store _
    · exact refl store

theorem applyLiveEnvelope (hwriter : ∀ key, store.writer key ≤ store.refreshAttempt)
    (scope : Option (LiveDelta J → Bool)) (envelope : Option (Message J)) :
    Later store (store.applyLiveEnvelope config scope envelope) := by
  have htaken (key other : String) : (store.supersedeProjectionKeys config [key]).writer other ≤
      (store.supersedeProjectionKeys config [key]).refreshAttempt :=
    (hwriter other).trans (Nat.le_succ _)
  cases envelope with
  | none => exact invalidate store _
  | some message =>
    cases message with
    | hello => exact refl store
    | resyncRequired => exact refl store
    | delta delta =>
      simp only [Store.applyLiveEnvelope]
      split
      · exact refl store
      · split
        · refine validateLiveProjectionDelta ?_
          split
          · exact applyPayload (htaken _) _ _
          · split
            · exact applyNormalizedPayload (htaken _) _ _
            · exact refl _
        · split
          · exact validateLiveProjectionDelta (applyPayload (htaken _) _ _)
          · split
            · exact refl store
            · refine validateLiveProjectionDelta ?_
              split
              · exact apply (htaken _) _ _
              · exact refl _

theorem revokeAuthority (hwriter : ∀ key, store.writer key ≤ store.refreshAttempt) :
    Later store (store.revokeAuthority config) := by
  unfold Store.revokeAuthority
  split
  · exact refl store
  case h_2 patch _ =>
    have hsupersede : Later store ({ store with authorityEpoch := store.authorityEpoch + 1
        }.supersedeProjectionKeys config config.registeredKeys) := .quiet (Nat.le_succ _) rfl rfl rfl
    dsimp only
    split
    · exact hsupersede.trans (.quiet le_rfl rfl rfl rfl)
    · have hcommit : Later ({ store with authorityEpoch := store.authorityEpoch + 1
          }.supersedeProjectionKeys config config.registeredKeys)
          (({ store with authorityEpoch := store.authorityEpoch + 1 }.supersedeProjectionKeys config
            config.registeredKeys).commitSnapshot (store.refreshAttempt + 1) patch) :=
        commit fun key _ => Nat.lt_succ_of_le (hwriter key)
      exact (hsupersede.trans hcommit).trans (.quiet le_rfl rfl rfl rfl)

theorem resume (store : Store V) (continuation : Continuation) :
    Later store (store.resume config continuation) := by
  cases continuation with
  | revoked => exact .quiet le_rfl rfl rfl rfl
  | applied keys epoch attempt =>
    unfold Store.resume
    dsimp only
    split
    · exact refl store
    · exact .quiet le_rfl rfl rfl rfl

end Later

/-! ## What a refresh writes -/

/-- A refresh writes a key only as its latest owner and in its own epoch, and it writes what it read. -/
structure Commits (store : Store V) (attempt : Nat) (refresh : Refresh V) (next : Store V)
    (key : String) : Prop where
  owner : store.latestOwnerByKey key = attempt
  epoch : refresh.epoch = store.authorityEpoch
  older : store.writer key < attempt
  writer : next.writer key = attempt
  value : ∃ value, (key, .success value) ∈ refresh.results ∧ next.snapshot key = some value
  published : ∃ refresh', next.refreshes attempt = some refresh' ∧ key ∈ refresh'.publishedKeys

/-- The refresh goes on, and nothing is written. -/
structure Rests (store : Store V) (attempt : Nat) (refresh : Refresh V) (next : Store V) : Prop where
  snapshot : next.snapshot = store.snapshot
  writer : next.writer = store.writer
  epoch : next.authorityEpoch = store.authorityEpoch
  refreshes : ∃ refresh', next.refreshes = Function.update store.refreshes attempt (some refresh') ∧
    refresh'.epoch = refresh.epoch ∧ refresh'.keys = refresh.keys ∧
      refresh'.publishedKeys = refresh.publishedKeys

variable {results : List (String × ReadResult V)}

/-- A refresh publishes at the head of its loop, or nothing is written. -/
theorem advance_cases (h : store.advance attempt refresh results = some next) :
    Rests store attempt refresh next ∨ refresh.stage = .looping ∧ store.inEpoch refresh = true ∧
        store.roundFailures attempt refresh = [] ∧
        (¬ (store.replacements attempt refresh).any fun owner => !(store.owners owner).settled) ∧
        next = store.publishRound attempt refresh := by
  have hfail (failures : List Failure) : Rests store attempt refresh (store.fail attempt refresh failures) :=
    ⟨rfl, rfl, rfl, _, rfl, rfl, rfl, rfl⟩
  have hresolve : Rests store attempt refresh (store.resolve attempt refresh) :=
    ⟨rfl, rfl, rfl, _, rfl, rfl, rfl, rfl⟩
  have hput {refresh' : Refresh V} (hepoch : refresh'.epoch = refresh.epoch)
      (hkeys : refresh'.keys = refresh.keys)
      (hpublished : refresh'.publishedKeys = refresh.publishedKeys) :
      Rests store attempt refresh (store.put attempt refresh') :=
    ⟨rfl, rfl, rfl, _, rfl, hepoch, hkeys, hpublished⟩
  unfold Store.advance at h
  split at h
  case h_1 =>
    obtain rfl := Option.some.inj h
    refine .inl ?_
    split
    · exact hput rfl rfl rfl
    · exact hfail _
  case h_2 =>
    split at h
    · obtain rfl := Option.some.inj h
      exact .inl (hput rfl rfl rfl)
    · cases h
  case h_3 hstage =>
    obtain rfl := Option.some.inj h
    unfold Store.iterate
    split
    · exact .inl (hfail _)
    case isFalse hepoch =>
      split
      · exact .inl (hfail _)
      case isFalse hfailures =>
        split
        · exact .inl (hput rfl rfl rfl)
        case isFalse hsettled =>
          split
          · exact .inl hresolve
          · exact .inr ⟨hstage, by simpa using hepoch, not_not.1 hfailures, hsettled, rfl⟩
  case h_4 =>
    obtain rfl := Option.some.inj h
    exact .inl (hput rfl rfl rfl)
  case h_5 =>
    obtain rfl := Option.some.inj h
    refine .inl ?_
    unfold Store.publishResults
    split
    · exact hfail _
    · exact ⟨rfl, rfl, rfl, _, rfl, rfl, rfl, rfl⟩
  case h_6 =>
    obtain rfl := Option.some.inj h
    refine .inl ?_
    unfold Store.finishRound
    split
    · exact hfail _
    · split
      · exact hput rfl rfl rfl
      · exact hresolve
  case h_7 =>
    obtain rfl := Option.some.inj h
    exact .inl ⟨rfl, rfl, rfl, _, rfl, rfl, rfl, rfl⟩
  case h_8 => cases h
  case h_9 => cases h

/-- What a step of a refresh writes. -/
theorem Inv.commits (inv : Inv config [] store) (hrefresh : store.refreshes attempt = some refresh)
    (h : store.advance attempt refresh results = some next) (key : String) :
    next.snapshot key = store.snapshot key ∧ next.writer key = store.writer key ∨
      Commits store attempt refresh next key := by
  have hbefore := inv.refreshOk hrefresh
  rcases advance_cases h with rests | ⟨hstage, hepoch, hfailures, hsettled, rfl⟩
  · exact .inl ⟨by rw [rests.snapshot], by rw [rests.writer]⟩
  have round := Round.of_iterate inv hepoch hfailures hsettled
  by_cases hkey : key ∈ (Store.resultPatch (store.unpublishedResults attempt refresh)).map (·.1)
  · obtain ⟨⟨_, result⟩, hresult, rfl⟩ := List.mem_map.1 (round.keys.1 hkey)
    obtain ⟨hresults, howner, hunpublished⟩ := mem_unpublishedResults.1 hresult
    have hstageOk := hbefore.stage
    unfold StageOk at hstageOk
    rw [hstage] at hstageOk
    have hregistered := hbefore.registered _ (hstageOk.2 ▸ List.mem_map_of_mem hresults)
    have hle := inv.ordered _ hregistered
    refine .inr ⟨howner, round.inEpoch, Nat.lt_of_le_of_ne (hle.trans howner.le) fun hown => ?_,
      if_pos hkey, publish_snapshot hkey, _, Function.update_self .., ?_⟩
    · exact hunpublished (hbefore.own _ hown).1
    · exact List.mem_append_right _ (round.keys.1 hkey)
  · exact .inl ⟨publish_snapshot_other hkey, if_neg hkey⟩

theorem Later.advance (inv : Inv config [] store) (hrefresh : store.refreshes attempt = some refresh)
    (h : store.advance attempt refresh results = some next) :
    Later store next := by
  have hwritten (key : String) : next.snapshot key = store.snapshot key ∧ next.writer key = store.writer key ∨
        store.writer key < next.writer key := by
    rcases inv.commits hrefresh h key with hkept | hcommits
    · exact .inl hkept
    · exact .inr (hcommits.writer.symm ▸ hcommits.older)
  rcases advance_cases h with rests | ⟨-, -, -, -, rfl⟩
  · obtain ⟨refresh', hrefreshes, hepoch, hkeys, hpublished⟩ := rests.refreshes
    exact .put hrefresh rests.epoch.ge hwritten hrefreshes hepoch hkeys (hpublished ▸ List.Subset.refl _)
  · exact .put hrefresh le_rfl hwritten rfl rfl rfl (List.subset_append_left _ _)

theorem Later.interrupt (hrefresh : store.refreshes attempt = some refresh)
    (h : store.interrupt attempt refresh = some next) : Later store next := by
  unfold Store.interrupt at h
  split at h
  · obtain rfl := Option.some.inj h
    exact .put hrefresh le_rfl (fun _ => .inl ⟨rfl, rfl⟩) rfl rfl rfl (List.Subset.refl _)
  · cases h

/-- A new refresh is not one that there was. -/
theorem Later.start (hfresh : store.refreshes (store.refreshAttempt + 1) = none) (keys : List String)
    (restoreReadiness : Bool) : Later store (store.refresh keys restoreReadiness) := by
  refine ⟨le_rfl, fun _ => .inl ⟨rfl, rfl⟩, fun attempt refresh h => ⟨refresh, ?_, rfl, rfl,
    List.Subset.refl _⟩⟩
  have hother : attempt ≠ store.refreshAttempt + 1 := by
    rintro rfl
    cases hfresh.symm.trans h
  calc (store.refresh keys restoreReadiness).refreshes attempt
      = store.refreshes attempt := Function.update_of_ne hother ..
    _ = some refresh := h

theorem step_later (inv : Inv config [] store) {action : Action J V}
    (h : step config store action = some next) : Later store next := by
  cases action with
  | refresh keys restoreReadiness =>
    by_cases hkeys : ∀ key ∈ keys, key ∈ config.registeredKeys
    · obtain rfl := Option.some.inj ((if_pos hkeys).symm.trans h)
      exact .start inv.fresh _ _
    · exact absurd ((if_neg hkeys).symm.trans h) (by simp)
  | advance attempt results =>
    obtain ⟨refresh, hrefresh, hadvance⟩ := Option.bind_eq_some_iff.1 h
    exact .advance inv hrefresh hadvance
  | interrupt attempt =>
    obtain ⟨refresh, hrefresh, hinterrupt⟩ := Option.bind_eq_some_iff.1 h
    exact .interrupt hrefresh hinterrupt
  | abort attempt =>
    obtain ⟨refresh, hrefresh, rfl⟩ := Option.map_eq_some_iff.1 h
    exact .put hrefresh le_rfl (fun _ => .inl ⟨rfl, rfl⟩) rfl rfl rfl (List.Subset.refl _)
  | invalidate keys =>
    by_cases hkeys : ∀ key ∈ keys, key ∈ config.registeredKeys
    · obtain rfl := Option.some.inj ((if_pos hkeys).symm.trans h)
      exact .invalidate store keys
    · exact absurd ((if_neg hkeys).symm.trans h) (by simp)
  | revokeAuthority =>
    obtain rfl := Option.some.inj h
    exact .revokeAuthority inv.writer
  | applyPayload key payload =>
    obtain rfl := Option.some.inj h
    exact .applyPayload inv.writer key payload
  | applySnapshot patch =>
    obtain rfl := Option.some.inj h
    exact .apply inv.writer _ patch
  | applyLiveEnvelope scope envelope =>
    obtain rfl := Option.some.inj h
    exact .applyLiveEnvelope inv.writer scope envelope
  | resume continuation =>
    by_cases hmem : continuation ∈ store.continuations
    · obtain rfl := Option.some.inj ((if_pos hmem).symm.trans h)
      exact (Later.resume store continuation).trans (.quiet le_rfl rfl rfl rfl)
    · exact absurd ((if_neg hmem).symm.trans h) (by simp)

/-! ## Runs -/

/-- One safe step. -/
def SafeStep (config : Config J V) (store next : Store V) : Prop :=
  ∃ action, action.Safe config store ∧ step config store action = some next

open Relation (ReflTransGen)

theorem Inv.run (inv : Inv config [] store) (h : ReflTransGen (SafeStep config) store later) :
    Inv config [] later :=
  Steps.preserved (Inv config []) (fun _ _ ⟨_, hsafe, hstep⟩ before => before.step hsafe hstep) h inv

theorem Inv.run_later (inv : Inv config [] store) (h : ReflTransGen (SafeStep config) store later) :
    Later store later := by
  induction h with
  | refl => exact .refl store
  | tail hrun hstep ih =>
    obtain ⟨action, -, hstep⟩ := hstep
    exact ih.trans (step_later (inv.run hrun) hstep)

/-- The steps of a list are a run, if they are safe wherever they are taken. -/
theorem run_of_foldlM {actions : List (Action J V)} (hsafe : ∀ action ∈ actions, ∀ store : Store V,
    action.Safe config store) (h : actions.foldlM (step config) store = some next) :
    ReflTransGen (SafeStep config) store next := by
  induction actions generalizing store with
  | nil => exact Option.some.inj h ▸ .refl
  | cons action actions ih =>
    obtain ⟨middle, hstep, hrest⟩ := Option.bind_eq_some_iff.1 h
    refine .head ⟨action, hsafe action List.mem_cons_self store, hstep⟩ (ih ?_ hrest)
    exact fun other hother => hsafe other (List.mem_cons_of_mem action hother)

/-- What holds of the refreshes and of the keys, in a state of a run and from there on. -/
structure Lawful (config : Config J V) (store : Store V) : Prop where
  /-- Whatever is written, it is by somebody newer. -/
  newer : ∀ action next, action.Safe config store → step config store action = some next → ∀ key,
    next.snapshot key = store.snapshot key ∧ next.writer key = store.writer key ∨
      store.writer key < next.writer key
  /-- A refresh writes as the latest owner, in its own epoch, and what it read. -/
  commits : ∀ attempt refresh results next, store.refreshes attempt = some refresh →
    step config store (.advance attempt results) = some next → ∀ key,
      next.snapshot key = store.snapshot key ∧ next.writer key = store.writer key ∨
        Commits store attempt refresh next key
  /-- A revocation begins an epoch. -/
  revokes : ∀ patch ∈ store.revocationPatch config, ∀ next,
    step config store .revokeAuthority = some next → store.authorityEpoch < next.authorityEpoch
  /-- After a step that begins an epoch, the refreshes that there were write nothing any more. -/
  revoked : ∀ action next later after attempt refresh results, action.Safe config store →
    step config store action = some next → store.authorityEpoch < next.authorityEpoch →
    ReflTransGen (SafeStep config) next later → store.refreshes attempt = some refresh →
    step config later (.advance attempt results) = some after →
      after.snapshot = later.snapshot ∧ after.writer = later.writer
  /-- A refresh that resolves leaves its keys with what it read, or with what somebody newer wrote. -/
  resolved : ∀ attempt refresh, store.refreshes attempt = some refresh → refresh.stage = .resolved →
    ∀ key ∈ refresh.keys, attempt < store.writer key ∨ store.writer key = attempt ∧
      ∃ value, (key, .success value) ∈ refresh.results ∧ store.snapshot key = some value
  /-- A refresh that rejects without having published has never written anything. -/
  rejected : ∀ attempt results next later refresh, step config store (.advance attempt results) =
    some next → ReflTransGen (SafeStep config) next later → later.refreshes attempt = some refresh →
    refresh.stage = .rejected → refresh.publishedKeys = [] →
      next.snapshot = store.snapshot ∧ next.writer = store.writer
  ready : ∀ key ∈ config.registeredKeys, (store.health key).state = .ready →
    store.writer key = store.latestOwnerByKey key

/-- A refresh of an earlier epoch writes nothing. -/
theorem Inv.stale (inv : Inv config [] store) (hrefresh : store.refreshes attempt = some refresh)
    (hstale : refresh.epoch < store.authorityEpoch)
    (h : store.advance attempt refresh results = some next) :
    next.snapshot = store.snapshot ∧ next.writer = store.writer := by
  have hkey (key : String) : next.snapshot key = store.snapshot key ∧ next.writer key = store.writer key := by
    rcases inv.commits hrefresh h key with hkept | hcommits
    · exact hkept
    · exact absurd hcommits.epoch (Nat.ne_of_lt hstale)
  exact ⟨funext fun key => (hkey key).1, funext fun key => (hkey key).2⟩

theorem Inv.lawful (inv : Inv config [] store) : Lawful config store where
  newer action next _ hstep := (step_later inv hstep).written
  commits attempt refresh results next hrefresh h := by
    obtain ⟨found, hfound, hadvance⟩ := Option.bind_eq_some_iff.1 h
    obtain rfl := Option.some.inj (hrefresh.symm.trans hfound)
    exact inv.commits hrefresh hadvance
  revokes patch hpatch next h := by
    obtain rfl := Option.some.inj h
    unfold Store.revokeAuthority
    rw [show store.revocationPatch config = some patch from hpatch]
    dsimp only
    split <;> exact Nat.lt_succ_self _
  revoked action next later after attempt refresh results hsafe hstep hepoch hrun hrefresh h := by
    have hnext := inv.step hsafe hstep
    obtain ⟨refresh', hrefresh', hsame, -⟩ :=
      ((step_later inv hstep).trans (hnext.run_later hrun)).refreshes attempt refresh hrefresh
    obtain ⟨found, hfound, hadvance⟩ := Option.bind_eq_some_iff.1 h
    obtain rfl := Option.some.inj (hrefresh'.symm.trans hfound)
    refine (hnext.run hrun).stale hfound ?_ hadvance
    have hbefore := (inv.refreshOk hrefresh).epoch
    have hafter := (hnext.run_later hrun).epoch
    omega
  resolved attempt refresh hrefresh hstage key hkey := by
    have hok := inv.refreshOk hrefresh
    have hresolved := hok.stage
    unfold StageOk at hresolved
    rw [hstage] at hresolved
    rcases Nat.lt_or_eq_of_le (hresolved.2 key hkey) with hnewer | hown
    · exact .inl hnewer
    · exact .inr ⟨hown.symm, (hok.own key hown.symm).2⟩
  rejected attempt results next later refresh h hrun hrefresh _ hnone := by
    have hsafe : (Action.advance attempt results : Action J V).Safe config store := trivial
    have hnext := inv.step hsafe h
    obtain ⟨before, hbefore, hadvance⟩ := Option.bind_eq_some_iff.1 h
    have hkey (key : String) :
        next.snapshot key = store.snapshot key ∧ next.writer key = store.writer key := by
      rcases inv.commits hbefore hadvance key with hkept | hcommits
      · exact hkept
      · obtain ⟨after, hafter, hmem⟩ := hcommits.published
        obtain ⟨last, hlast, -, -, hpublished⟩ := (hnext.run_later hrun).refreshes attempt after hafter
        obtain rfl := Option.some.inj (hlast.symm.trans hrefresh)
        exact absurd (hnone ▸ hpublished hmem) List.not_mem_nil
    exact ⟨funext fun key => (hkey key).1, funext fun key => (hkey key).2⟩
  ready key hkey hready := inv.ready key hkey List.not_mem_nil hready

/-- **The projection store is lawful**, in every state that safe steps lead to. -/
theorem store_lawful (config : Config J V) (snapshot : String → Option V)
    (h : ReflTransGen (SafeStep config) (Store.initial snapshot) store) : Lawful config store :=
  ((Inv.initial config snapshot).run h).lawful

/-! ## A host's page -/

/-- The console is revoked to one without authority, to which no live delta applies. -/
def hostPage : Config Nat (Option Nat) where
  coldLoads := [("host", {
    normalize := fun payload _ => some (some payload)
    revoke := some fun _ _ => some none })]
  field _ _ := none
  applyHostConsoleLiveDelta previous delta := (previous.bind id).map fun _ => some delta.body
  livePatch _ _ := none

/-- The page refreshes its console. -/
def refreshesHost : List (Action Nat (Option Nat)) :=
  [.refresh ["host"] true, .advance 1 [], .advance 1 [("host", .success (some 7))], .advance 1 [],
    .advance 1 [], .advance 1 []]

theorem hostPage_lawful : ∃ store, refreshesHost.foldlM (step hostPage) (.initial fun _ => some none) =
    some store ∧ store.snapshot "host" = some (some 7) ∧ store.isReady hostPage = true ∧
      Lawful hostPage store := by
  have hrun : (refreshesHost.foldlM (step hostPage) (.initial fun _ => some none)).isSome := by decide
  obtain ⟨store, hstore⟩ := Option.isSome_iff_exists.1 hrun
  have hlast : (refreshesHost.foldlM (step hostPage) (.initial fun _ => some none)).all fun store =>
      store.snapshot "host" = some (some 7) ∧ store.isReady hostPage := by decide
  rw [hstore] at hlast
  obtain ⟨hsnapshot, hready⟩ := of_decide_eq_true hlast
  refine ⟨store, hstore, hsnapshot, hready, store_lawful hostPage _ (run_of_foldlM ?_ hstore)⟩
  simp [refreshesHost, Action.Safe]

/-- A delta overtakes the refresh after a revocation, and cannot be applied to the revoked console. -/
def overtakesHost : List (Action Nat (Option Nat)) :=
  [.revokeAuthority, .resume (.revoked 1), .refresh ["host"] true, .advance 2 [],
    .applyLiveEnvelope (some fun _ => true) (some (.delta ⟨.hostConsoleSlotsChanged, 5⟩)),
    .advance 2 [("host", .success (some 9))], .advance 2 []]

/-- The refresh resolves, and the console is the revoked one. -/
theorem orphan_starves : ∃ store refresh,
    overtakesHost.foldlM (step hostPage) (.initial fun _ => some (some 0)) = some store ∧
      store.refreshes 2 = some refresh ∧ refresh.stage = .resolved ∧ "host" ∈ refresh.keys ∧
        store.writer "host" < 2 ∧ store.snapshot "host" = some none :=
  ⟨_, _, rfl, rfl, rfl, by decide, by decide, rfl⟩

/-- The subscribers who are told of a revocation find a key that has no revoked value ready. -/
example : ∃ store, [Action.revokeAuthority].foldlM (step { hostPage with coldLoads :=
    hostPage.coldLoads ++ [("thread", { normalize := fun payload _ => some (some payload) })] })
      (.initial fun _ => some (some 0)) = some store ∧
    (store.health "thread").state = .ready ∧ store.writer "thread" < store.latestOwnerByKey "thread" :=
  ⟨_, rfl, rfl, by decide⟩

end Fmarch.Client
