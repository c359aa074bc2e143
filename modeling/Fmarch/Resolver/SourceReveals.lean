import Fmarch.Resolver.PendingPoison
import Fmarch.Resolver.Reveals
import Fmarch.Resolver.Treestumps

/-!
# Reveals by the death of an effect source

When the source of an effect dies, `apply_effect_source_death_reveals` reveals a fact about its target. It
looks at the reveals the phase already made and at the state behind its deaths, so it reveals nothing that is
public. A later death of the target may keep the fact private, and then it is revealed again.

**`sourceReveals_afresh`**: over any game, a fact is revealed by the death of a source only while it is not
public, and again only behind a death of its slot that took it back. `lanternNights_again` is a game in which
it is.
-/

namespace Fmarch.Resolver

open Fmarch.Domain Keyed

variable {F : Type} [Float64 F]

/-- The fact a policy reveals. -/
def revealedFact : EffectSourceDeathRevealKind → Fact
  | .alignment => .alignment
  | .role => .role

/-- The slot and the kind of fact an event reveals. -/
def revealed? : InnerEvent F → Option (SlotId × EffectSourceDeathRevealKind)
  | .alignmentRevealed slotId .. => some (slotId, .alignment)
  | .roleRevealed slotId .. => some (slotId, .role)
  | _ => none

/-- The reveals that the deaths of effect sources bring about in a phase. -/
def sourceReveals (input : ResolutionInput F) : List (InnerEvent F) :=
  match input.state.phaseId.kind with
  | .day =>
    let (d, _) := voteCascades input
      (voteLynch input (resolveBadgeActions input).1 (dayBeforeVote input)).2
    effectSourceDeathReveals input d.killed d.events
  | .twilight => []
  | .night =>
    let (d, _) := nightDeaths input (nightStages input)
    effectSourceDeathReveals input d.killed (d.events ++ backupInheritance input d.killed d.events)

/-! ## One pass -/

section Pass

variable {input : ResolutionInput F} {state : StateSnapshot F} {record : EffectRecord}
  {policy : EffectSourceDeathRevealPolicy} {event : InnerEvent F}
  {revealed : List (SlotId × EffectSourceDeathRevealKind)}

/-- The event reveals a fact that none of the earlier reveals is about, of a slot of the state that hides
it. -/
def RevealsHidden (state : StateSnapshot F) (earlier : List (SlotId × EffectSourceDeathRevealKind))
    (event : InnerEvent F) : Prop :=
  ∃ slot kind, revealed? event = some (slot, kind) ∧ (slot, kind) ∉ earlier ∧ Known state slot ∧
    ¬ Shown (revealedFact kind) state slot

theorem sourceDeathReveal_spec (h : sourceDeathReveal input state record policy = some event) :
    revealed? event = some (record.target, policy.reveal) ∧ Known state record.target ∧
      ¬ Shown (revealedFact policy.reveal) state record.target := by
  unfold sourceDeathReveal at h
  obtain ⟨target, htarget, h⟩ := Option.bind_eq_some_iff.1 h
  have hknown : Known state record.target := by rw [Known, htarget]; rfl
  dsimp only at h
  cases hkind : policy.reveal with
  | alignment =>
    rw [hkind] at h
    dsimp only at h
    split at h
    · cases h
    · rename_i hhidden
      obtain ⟨alignment, -, h⟩ := Option.bind_eq_some_iff.1 h
      obtain rfl := Option.some.inj h
      refine ⟨rfl, hknown, fun hshown => hhidden ?_⟩
      rw [Shown, htarget] at hshown
      exact Option.some.inj hshown
  | role =>
    rw [hkind] at h
    dsimp only at h
    split at h
    · cases h
    · rename_i hhidden
      obtain rfl := Option.some.inj h
      refine ⟨rfl, hknown, fun hshown => hhidden ?_⟩
      rw [Shown, htarget] at hshown
      exact Option.some.inj hshown

/-- The loop reveals each fact once, and none it started from. -/
theorem sourceDeathReveals_hidden {found : List (EffectRecord × EffectSourceDeathRevealPolicy)}
    {before after : List (InnerEvent F)}
    (h : sourceDeathReveals input state revealed found = before ++ event :: after) :
    RevealsHidden state (revealed ++ before.filterMap revealed?) event := by
  induction found generalizing revealed before with
  | nil => exact absurd h.symm (by simp [sourceDeathReveals])
  | cons entry found ih =>
    obtain ⟨record, policy⟩ := entry
    unfold sourceDeathReveals at h
    split at h
    · exact ih h
    · rename_i hnew
      have hlater : ∀ {before}, sourceDeathReveals input state ((record.target, policy.reveal) :: revealed)
          found = before ++ event :: after →
          RevealsHidden state ((record.target, policy.reveal) :: (revealed ++ before.filterMap revealed?))
            event := fun hrest => ih hrest
      cases hreveal : sourceDeathReveal input state record policy with
      | none =>
        rw [hreveal] at h
        obtain ⟨slot, kind, hevent, hfresh, hhidden⟩ := hlater h
        exact ⟨slot, kind, hevent, fun hold => hfresh (List.mem_cons_of_mem _ hold), hhidden⟩
      | some first =>
        obtain ⟨hfirst, hknown, hhidden⟩ := sourceDeathReveal_spec hreveal
        rw [hreveal] at h
        cases before with
        | nil =>
          obtain ⟨rfl, -⟩ := List.cons.inj h
          exact ⟨_, _, hfirst, by simpa using hnew, hknown, hhidden⟩
        | cons head before =>
          obtain ⟨rfl, hrest⟩ := List.cons.inj h
          obtain ⟨slot, kind, hevent, hfresh, hhidden⟩ := hlater hrest
          refine ⟨slot, kind, hevent, fun hold => hfresh ?_, hhidden⟩
          rw [List.filterMap_cons, hfirst] at hold
          simpa [or_left_comm] using hold

omit [Float64 F] in
theorem revealsMade_eq (events : List (InnerEvent F)) : revealsMade events = events.filterMap revealed? := rfl

/-- The pass reveals each fact once, and none that its events revealed. -/
theorem effectSourceDeathReveals_hidden {killed : List SlotId} {events before after : List (InnerEvent F)}
    (h : effectSourceDeathReveals input killed events = before ++ event :: after) :
    RevealsHidden (applyEvents input.state events) ((events ++ before).filterMap revealed?) event := by
  unfold effectSourceDeathReveals at h
  dsimp only at h
  split at h
  · exact absurd h.symm (by simp)
  · rw [List.filterMap_append, ← revealsMade_eq]
    exact sourceDeathReveals_hidden h

end Pass

/-! ## One resolution -/

section Resolution

variable {input : ResolutionInput F} {out : ResolutionOutput F} {event : InnerEvent F}
  {events : List (InnerEvent F)}

section

omit [Float64 F]

theorem revealed?_unattributed (event : InnerEvent F) : revealed? (unattributed event) = revealed? event := by
  cases event <;> rfl

theorem revealMark?_unattributed (event : InnerEvent F) :
    revealMark? (unattributed event) = revealMark? event := by
  cases event <;> rfl

theorem unattributed_reveal (h : revealed? event ≠ none) : unattributed event = event := by
  cases event <;> first | rfl | exact absurd rfl h

theorem filterMap_unattributed {α : Type} {f : InnerEvent F → Option α}
    (h : ∀ event, f (unattributed event) = f event) (events : List (InnerEvent F)) :
    (events.map unattributed).filterMap f = events.filterMap f := by
  rw [List.filterMap_map]
  exact congrArg (fun g => List.filterMap g events) (funext h)

theorem Late.unrevealing (h : Late event) : revealed? event = none := by
  cases event with
  | alignmentRevealed | roleRevealed => exact h.elim nofun fun hquiet => absurd hquiet id
  | _ => rfl

end

/-- Up to attributions, the finished events are those of the body with others behind them that reveal
nothing. -/
theorem finished_unrevealing (input : ResolutionInput F) {parts : Parts F} (hsorted : parts.Sorted) :
    ∃ later, ((parts.finished input).events input).map unattributed = parts.body.map unattributed ++ later ∧
      ∀ event ∈ later, revealed? event = none := by
  have hclosing : ∀ {deaths : List Death} {wins : List (InnerEvent F)},
      (∀ event ∈ wins, event.isWinReached = true) →
      ∀ event ∈ (InnerEvent.phaseAnnouncement (phaseAnnouncement input deaths) :: wins).map unattributed,
        revealed? event = none := by
    intro deaths wins hwins event hevent
    obtain ⟨closing, hmem, rfl⟩ := List.mem_map.1 hevent
    rw [revealed?_unattributed]
    rcases List.mem_cons.1 hmem with rfl | hwin
    · rfl
    · have hwin := hwins closing hwin
      cases closing <;> first | rfl | cases hwin
  refine Parts.finished_of (motive := fun finished => ∃ later,
    (finished.events input).map unattributed = parts.body.map unattributed ++ later ∧
      ∀ event ∈ later, revealed? event = none)
    ⟨_, List.map_append, hclosing hsorted.wins⟩ fun _ win => ?_
  obtain ⟨hevents, hlate⟩ := winTriggers_late input parts win
  have hwins : ∀ event ∈ (wonParts input win parts).wins, event.isWinReached = true :=
    (wonParts_sorted hsorted win).wins
  refine ⟨(lateEvents input parts win).map unattributed ++ (InnerEvent.phaseAnnouncement
    (phaseAnnouncement input (wonParts input win parts).deaths) ::
      (wonParts input win parts).wins).map unattributed, ?_, fun event hevent => ?_⟩
  · show ((winTriggers input win.1 parts.body).1.events ++ _).map unattributed = _
    rw [List.map_append, hevents, List.append_assoc]
  · rcases List.mem_append.1 hevent with hlater | hlast
    · obtain ⟨late, hmem, rfl⟩ := List.mem_map.1 hlater
      rw [revealed?_unattributed]
      exact (hlate late hmem).unrevealing
    · exact hclosing hwins event hlast

/-- The pass stands in the body of its phase, and nothing behind it reveals anything. -/
theorem phaseParts_sourceReveals (input : ResolutionInput F) : ∃ killed events later,
    (phaseParts input).body = events ++ sourceReveals input ++ later ∧
      sourceReveals input = effectSourceDeathReveals input killed events ∧
      ∀ event ∈ later, revealed? event = none := by
  have hprompts : ∀ events, ∀ event ∈ belovedPrincessPrompts input events, revealed? event = none := by
    intro events event hevent
    obtain ⟨prompt, rfl⟩ := belovedPrincessPrompts_issued hevent
    rfl
  unfold phaseParts sourceReveals
  cases input.state.phaseId.kind with
  | day =>
    exact ⟨_, _, _, rfl, rfl, hprompts _⟩
  | twilight =>
    refine ⟨[], _, [], (List.append_nil _).symm.trans (List.append_nil _).symm, ?_, by simp⟩
    simp [effectSourceDeathReveals]
  | night =>
    refine ⟨_, _, _, List.append_assoc _ _ _, rfl, fun event hevent => ?_⟩
    rcases List.mem_append.1 hevent with hhistory | hprompt
    · obtain ⟨action, -, rfl⟩ := List.mem_map.1 hhistory
      rfl
    · exact hprompts _ event hprompt

omit [Float64 F] in
theorem Preliminary.unmarked (h : Preliminary event) : revealMark? event = none := by
  cases event <;> first | rfl | exact absurd h id

omit [Float64 F] in
theorem revealed?_of_unmarked (h : revealMark? event = none) : revealed? event = none := by
  cases event <;> first | rfl | cases h

/-- Where an element of a middle part stands that neither end has. -/
theorem split_middle {α : Type} {xs ys ps qs middle : List α} {x : α}
    (h : xs ++ x :: ys = ps ++ (middle ++ qs)) (hps : x ∉ ps) (hqs : x ∉ qs) :
    ∃ before after, middle = before ++ x :: after ∧ xs = ps ++ before := by
  obtain ⟨before, hxs, hrest⟩ : ∃ before, xs = ps ++ before ∧ middle ++ qs = before ++ x :: ys := by
    rcases List.append_eq_append_iff.1 h with ⟨rest, hsplit, hrest⟩ | hsplit
    · cases rest with
      | nil => exact ⟨[], by simpa using hsplit.symm, hrest.symm⟩
      | cons head rest =>
        obtain ⟨rfl, -⟩ := List.cons.inj hrest
        exact absurd (hsplit ▸ List.mem_append_right _ List.mem_cons_self) hps
    · exact hsplit
  rcases List.append_eq_append_iff.1 hrest with ⟨rest, -, hqs'⟩ | ⟨rest, hmiddle, hrest⟩
  · exact absurd (hqs' ▸ List.mem_append_right _ List.mem_cons_self) hqs
  · cases rest with
    | nil => exact absurd ((List.nil_append qs).symm ▸ hrest ▸ List.mem_cons_self) hqs
    | cons head rest =>
      obtain ⟨rfl, -⟩ := List.cons.inj hrest
      exact ⟨before, rest, hmiddle, hxs⟩

variable {slot : SlotId}

section

omit [Float64 F]

theorem shown_congr {fact : Fact} {state : StateSnapshot F} {others : List (InnerEvent F)}
    (h : events.filterMap revealMark? = others.filterMap revealMark?) :
    Shown fact (applyEvents state events) slot ↔ Shown fact (applyEvents state others) slot := by
  show reveal fact (applyEvents state events) slot = _ ↔ reveal fact (applyEvents state others) slot = _
  rw [reveal_applyEvents, reveal_applyEvents, h]

theorem revealAfter_other {kind : EffectSourceDeathRevealKind}
    {entry : SlotId × EffectSourceDeathRevealKind} (hevent : revealed? event = some entry)
    (hother : entry ≠ (slot, kind)) (before : RevealState) :
    revealAfter (revealedFact kind) slot before event = before := by
  obtain ⟨other, shown⟩ := entry
  have hmark : revealMark? event = some (.reveal other (revealedFact shown)) := by
    cases event <;> cases hevent <;> rfl
  unfold revealAfter
  rw [hmark]
  refine if_neg fun hsame => hother ?_
  obtain ⟨rfl, hfact⟩ := hsame
  cases shown <;> cases kind <;> first | rfl | cases hfact

/-- Other reveals do not show a fact. -/
theorem not_shown_reveals {kind : EffectSourceDeathRevealKind} {state : StateSnapshot F}
    (h : ¬ Shown (revealedFact kind) state slot)
    (hreveals : ∀ event ∈ events, revealed? event ≠ none)
    (hothers : (slot, kind) ∉ events.filterMap revealed?) :
    ¬ Shown (revealedFact kind) (applyEvents state events) slot := by
  induction events generalizing state with
  | nil => exact h
  | cons event events ih =>
    rw [List.forall_mem_cons] at hreveals
    obtain ⟨entry, hentry⟩ := Option.ne_none_iff_exists'.1 hreveals.1
    rw [List.filterMap_cons, hentry, List.mem_cons, not_or] at hothers
    rw [applyEvents_cons]
    refine ih ?_ hreveals.2 hothers.2
    show ¬ reveal _ (applyEvent state event) slot = _
    rw [reveal_applyEvent, show (revealAfter (revealedFact kind) slot · event) = id from
      funext (revealAfter_other hentry (Ne.symm hothers.1)), Option.map_id]
    exact h

end

/-- A reveal by the death of a source is of a fact about a slot that hides it when the event comes. -/
theorem resolve_sourceReveal {before after : List (InnerEvent F)} (hresolve : resolve input = .ok out)
    (hsplit : out.applied.events.map (·.event) = before ++ event :: after)
    (hsource : event ∈ sourceReveals input) :
    ∃ slot kind, revealed? event = some (slot, kind) ∧ Known (applyEvents input.state before) slot ∧
      ¬ Shown (revealedFact kind) (applyEvents input.state before) slot := by
  obtain ⟨killed, events, more, hbody, hpass, hmore⟩ := phaseParts_sourceReveals input
  obtain ⟨later, hfinal, hlater⟩ := finished_unrevealing input (taggedParts_sorted input)
  have hreveals : ∀ other ∈ sourceReveals input, revealed? other ≠ none := by
    intro other hother
    obtain ⟨earlier, rest, hpart⟩ := List.append_of_mem hother
    obtain ⟨slot, kind, hrevealed, -⟩ := effectSourceDeathReveals_hidden (hpass.symm.trans hpart)
    exact hrevealed ▸ Option.some_ne_none _
  have hbodyReveals : (sourceReveals input).map unattributed = sourceReveals input := by
    rw [List.map_congr_left fun other hother => unattributed_reveal (hreveals other hother), List.map_id']
  have hall : before.map unattributed ++ event :: after.map unattributed =
      (preamble input ++ events).map unattributed ++ (sourceReveals input ++
        (more.map unattributed ++ (statusTags input (innerParts input).body).map unattributed ++ later)) := by
    have hevents : (before ++ event :: after).map unattributed = _ :=
      (congrArg (List.map unattributed) (hsplit.symm.trans (resolve_events hresolve).1)).trans hfinal
    rw [List.map_append, List.map_cons, unattributed_reveal (hreveals event hsource)] at hevents
    rw [hevents]
    show ((preamble input ++ (phaseParts input).body) ++ statusTags input _).map unattributed ++ later = _
    rw [hbody]
    simp only [List.map_append, hbodyReveals, List.append_assoc]
  have hfresh : event ∉ (preamble input ++ events).map unattributed := by
    intro hmem
    obtain ⟨earlier, rest, hpart⟩ := List.append_of_mem hsource
    obtain ⟨slot, kind, hrevealed, hnew, -⟩ := effectSourceDeathReveals_hidden (hpass.symm.trans hpart)
    obtain ⟨old, hold, rfl⟩ := List.mem_map.1 hmem
    rw [revealed?_unattributed] at hrevealed
    rcases List.mem_append.1 hold with hpreamble | hphase
    · rw [revealed?_of_unmarked (preliminary_preamble input old hpreamble).unmarked] at hrevealed
      cases hrevealed
    · exact hnew (List.mem_filterMap.2 ⟨old, List.mem_append_left _ hphase, hrevealed⟩)
  have hlast : event ∉ more.map unattributed ++
      (statusTags input (innerParts input).body).map unattributed ++ later := by
    intro hmem
    refine hreveals event hsource ?_
    rcases List.mem_append.1 hmem with hmem | hmem
    · rcases List.mem_append.1 hmem with hmem | hmem
      · obtain ⟨other, hother, rfl⟩ := List.mem_map.1 hmem
        rw [revealed?_unattributed]
        exact hmore other hother
      · obtain ⟨tag, htag, rfl⟩ := List.mem_map.1 hmem
        obtain ⟨slotId, source, rfl⟩ := mem_statusTags htag
        rfl
    · exact hlater event hmem
  obtain ⟨earlier, rest, hpart, hbefore⟩ := split_middle hall hfresh hlast
  obtain ⟨slot, kind, hrevealed, hnew, hknown, hhidden⟩ :=
    effectSourceDeathReveals_hidden (hpass.symm.trans hpart)
  refine ⟨slot, kind, hrevealed, known_iff.2 ?_, ?_⟩
  · rw [(applyEvents_fades input.state before).slotIds, ← (applyEvents_fades input.state events).slotIds]
    exact known_iff.1 hknown
  · have hmarks : before.filterMap revealMark? = (events ++ earlier).filterMap revealMark? := by
      have hnone : (preamble input).filterMap revealMark? = [] := List.filterMap_eq_nil_iff.2
        fun other hother => (preliminary_preamble input other hother).unmarked
      rw [← filterMap_unattributed revealMark?_unattributed before, hbefore, List.filterMap_append,
        filterMap_unattributed revealMark?_unattributed, List.filterMap_append, hnone, List.nil_append,
        List.filterMap_append]
    rw [shown_congr hmarks, applyEvents_append]
    refine not_shown_reveals hhidden (fun other hother => hreveals other ?_) fun hold => hnew ?_
    · exact hpart ▸ List.mem_append_left _ hother
    · rw [List.filterMap_append]
      exact List.mem_append_right _ hold

/-- What the pass pushes is among the events of the resolution. -/
theorem mem_events_of_sourceReveals (hresolve : resolve input = .ok out)
    (h : event ∈ sourceReveals input) : event ∈ out.applied.events.map (·.event) := by
  obtain ⟨killed, events, more, hbody, hpass, -⟩ := phaseParts_sourceReveals input
  obtain ⟨later, hfinal, -⟩ := finished_unrevealing input (taggedParts_sorted input)
  obtain ⟨earlier, rest, hpart⟩ := List.append_of_mem h
  obtain ⟨slot, kind, hrevealed, -⟩ := effectSourceDeathReveals_hidden (hpass.symm.trans hpart)
  have hreveals : revealed? event ≠ none := hrevealed ▸ Option.some_ne_none _
  have hphase : event ∈ (phaseParts input).body := by
    rw [hbody]
    exact List.mem_append_left _ (List.mem_append_right _ h)
  have hmem : event ∈ (out.applied.events.map (·.event)).map unattributed := by
    rw [(resolve_events hresolve).1]
    show event ∈ (((taggedParts input).finished input).events input).map unattributed
    rw [hfinal]
    refine List.mem_append_left _ (List.mem_map.2 ⟨event, ?_, unattributed_reveal hreveals⟩)
    exact List.mem_append_left _ (List.mem_append_right _ hphase)
  obtain ⟨other, hother, rfl⟩ := List.mem_map.1 hmem
  rw [revealed?_unattributed] at hreveals
  rwa [unattributed_reveal hreveals]

end Resolution

/-! ## A game -/

section Game

variable {input : ResolutionInput F} {out : ResolutionOutput F} {state next : StateSnapshot F}

/-- An entry of the log of a game: an inner event, the state it found, and whether the death of an effect
source brought it about. -/
structure Entry (F : Type) where
  before : StateSnapshot F
  event : InnerEvent F
  bySource : Prop

/-- The entries for the events of a resolution, of which the deaths of effect sources brought some about. -/
def entries (sources : List (InnerEvent F)) : StateSnapshot F → List (InnerEvent F) → List (Entry F)
  | _, [] => []
  | state, event :: events =>
    { before := state, event, bySource := event ∈ sources } ::
      entries sources (applyEvent state event) events

/-- A game and its log: resolutions of any phase, each on a snapshot that takes back nothing the last one has
shown. -/
inductive Played : StateSnapshot F → List (Entry F) → Prop where
  | start (state : StateSnapshot F) : Played state []
  | follow {state next : StateSnapshot F} {log : List (Entry F)} (game : Played state log)
      (kept : ∀ fact slot, Shown fact state slot → Shown fact next slot) : Played next log
  | resolve {input : ResolutionInput F} {out : ResolutionOutput F} {log : List (Entry F)}
      (game : Played input.state log) (resolves : resolve input = .ok out) :
      Played out.postState
        (log ++ entries (sourceReveals input) input.state (out.applied.events.map (·.event)))
  | instant {input : ResolutionInput F} {out : ResolutionOutput F} {log : List (Entry F)}
      (game : Played input.state log) (resolves : resolveInstant input = .ok out) :
      Played out.postState (log ++ entries [] input.state (out.applied.events.map (·.event)))

/-- The death of an effect source revealed the fact, and no death of its slot took it back since. -/
def Stands (log : List (Entry F)) (slot : SlotId) (kind : EffectSourceDeathRevealKind) : Prop :=
  ∃ before entry after, log = before ++ entry :: after ∧ entry.bySource ∧
    revealed? entry.event = some (slot, kind) ∧
    ∀ later ∈ after, keepsPrivate (revealedFact kind) slot later.event = false

/-- Each reveal by the death of an effect source is of a fact that is not public then, and that no earlier
such reveal still shows. -/
def Afresh (log : List (Entry F)) : Prop :=
  ∀ before entry after, log = before ++ entry :: after → entry.bySource →
    ∃ slot kind, revealed? entry.event = some (slot, kind) ∧
      ¬ Shown (revealedFact kind) entry.before slot ∧ ¬ Stands before slot kind

/-- What a game keeps: a reveal that stands is seen in the state. -/
structure LogOk (state : StateSnapshot F) (log : List (Entry F)) : Prop where
  afresh : Afresh log
  standing : ∀ slot kind, Stands log slot kind → Shown (revealedFact kind) state slot

theorem append_singleton_split {α : Type} {xs before after : List α} {x y : α}
    (h : xs ++ [x] = before ++ y :: after) :
    (before = xs ∧ y = x) ∨ ∃ rest, after = rest ++ [x] ∧ xs = before ++ y :: rest := by
  rcases List.eq_nil_or_concat after with rfl | ⟨rest, last, rfl⟩
  · obtain ⟨hxs, hx⟩ := List.append_inj' h rfl
    exact .inl ⟨hxs.symm, (List.singleton_inj.1 hx).symm⟩
  · rw [List.concat_eq_append, ← List.cons_append, ← List.append_assoc] at h
    obtain ⟨hxs, hx⟩ := List.append_inj' h rfl
    exact .inr ⟨rest, by rw [List.concat_eq_append, List.singleton_inj.1 hx], hxs⟩

variable {event : InnerEvent F} {log : List (Entry F)}

section

omit [Float64 F]

theorem shown_revealed {slot : SlotId} {kind : EffectSourceDeathRevealKind}
    (hknown : Known state slot) (hevent : revealed? event = some (slot, kind)) :
    Shown (revealedFact kind) (applyEvent state event) slot := by
  have hmark : revealMark? event = some (.reveal slot (revealedFact kind)) := by
    cases event <;> cases hevent <;> rfl
  obtain ⟨found, hfound⟩ := Option.isSome_iff_exists.1 hknown
  show reveal _ (applyEvent state event) slot = _
  rw [reveal_applyEvent, reveal, hfound, Option.map_some, Option.map_some, revealAfter, hmark]
  exact congrArg some (if_pos ⟨rfl, rfl⟩)

theorem LogOk.entry (h : LogOk state log) {bySource : Prop}
    (hsource : bySource → ∃ slot kind, revealed? event = some (slot, kind) ∧ Known state slot ∧ ¬ Shown (revealedFact kind) state slot) :
    LogOk (applyEvent state event) (log ++ [{ before := state, event, bySource }]) where
  afresh before entry after hsplit hby := by
    rcases append_singleton_split hsplit with ⟨rfl, rfl⟩ | ⟨rest, -, hlog⟩
    · obtain ⟨slot, kind, hevent, -, hhidden⟩ := hsource hby
      exact ⟨slot, kind, hevent, hhidden, fun hstands => hhidden (h.standing slot kind hstands)⟩
    · exact h.afresh before entry rest hlog hby
  standing := by
    rintro slot kind ⟨before, entry, after, hsplit, hby, hrevealed, hkept⟩
    rcases append_singleton_split hsplit with ⟨-, rfl⟩ | ⟨rest, rfl, hlog⟩
    · obtain ⟨other, shown, hevent, hknown, -⟩ := hsource hby
      obtain ⟨rfl, rfl⟩ := Prod.mk.inj (Option.some.inj (hevent.symm.trans hrevealed))
      exact shown_revealed hknown hevent
    · have hstands : Stands log slot kind := ⟨before, entry, rest, hlog, hby, hrevealed,
        fun later hlater => hkept later (List.mem_append_left _ hlater)⟩
      exact (shown_applyEvent_iff (h.standing slot kind hstands) event).2
        (hkept _ (List.mem_append_right _ List.mem_cons_self))

theorem LogOk.entries (h : LogOk state log) {sources events : List (InnerEvent F)}
    (hsources : ∀ before event after, events = before ++ event :: after → event ∈ sources → ∃ slot kind, revealed? event = some (slot, kind) ∧ Known (applyEvents state before) slot ∧ ¬ Shown (revealedFact kind) (applyEvents state before) slot) :
    LogOk (applyEvents state events) (log ++ entries sources state events) := by
  induction events generalizing state log with
  | nil => rwa [Resolver.entries, List.append_nil]
  | cons event events ih =>
    have hnext := h.entry (hsources [] event events rfl)
    rw [applyEvents_cons, Resolver.entries, ← List.singleton_append, ← List.append_assoc]
    refine ih hnext fun before later after hsplit => ?_
    rw [← applyEvents_cons]
    exact hsources (event :: before) later after (by rw [hsplit, List.cons_append])

theorem LogOk.follow (h : LogOk state log)
    (kept : ∀ fact slot, Shown fact state slot → Shown fact next slot) : LogOk next log :=
  ⟨h.afresh, fun slot kind hstands => kept _ _ (h.standing slot kind hstands)⟩

end

theorem Played.ok (h : Played state log) : LogOk state log := by
  induction h with
  | start state =>
    refine ⟨fun before entry after hsplit => ?_, ?_⟩
    · exact absurd hsplit.symm (by simp)
    · rintro slot kind ⟨before, entry, after, hsplit, -⟩
      exact absurd hsplit.symm (by simp)
  | follow _ kept ih => exact ih.follow kept
  | resolve _ resolves ih =>
    rw [(Resolves.cases (.inl resolves)).1]
    exact ih.entries fun before event after hsplit hsource => resolve_sourceReveal resolves hsplit hsource
  | instant _ resolves ih =>
    rw [(Resolves.cases (.inr resolves)).1]
    exact ih.entries fun _ _ _ _ hsource => absurd hsource List.not_mem_nil

/-- Over any game, the death of an effect source reveals a fact only while it is not public, and one that an
earlier such death revealed only once a death of its slot has taken it back. -/
theorem sourceReveals_afresh {log : List (Entry F)} (h : Played state log) : Afresh log :=
  h.ok.afresh

omit [Float64 F] in
theorem mem_entries (state : StateSnapshot F) {sources events : List (InnerEvent F)}
    (h : event ∈ events) (hsource : event ∈ sources) :
    ∃ entry ∈ entries sources state events, entry.event = event ∧ entry.bySource := by
  induction events generalizing state with
  | nil => exact absurd h List.not_mem_nil
  | cons head events ih =>
    rcases List.mem_cons.1 h with rfl | hrest
    · exact ⟨_, List.mem_cons_self, rfl, hsource⟩
    · obtain ⟨entry, hmem, hentry⟩ := ih (applyEvent state head) hrest
      exact ⟨entry, List.mem_cons_of_mem _ hmem, hentry⟩

end Game

/-! ## Two lanterns -/

/-- A pack with janitors in which the bearer of a lantern or a beacon is shown when who lit it dies. -/
def lanternPack : Pack Rat :=
  { janitorPack with
    effectSourceDeathReveals :=
      [{ id := "lantern", effect := "lantern", reveal := .alignment },
        { id := "beacon", effect := "beacon", reveal := .alignment }] }

/-- A night of a village in which `"s"` gave `"t"` a lantern and `"u"` a beacon. -/
def lanternNight (night : PhaseId) (state : StateSnapshot Rat) (kills : List (SlotId × SlotId)) :
    ResolutionInput Rat :=
  village ⟨lanternPack, [.kill], .of_plain (by decide) rfl rfl⟩ { state with phaseId := night }
    (kills.map fun (actor, target) =>
      { actionId := actor, actor, templateId := "janitor_kill", targets := [target], phaseId := night
        submittedAt := 1 })

/-- The village before the first night. -/
def lanternState : StateSnapshot Rat :=
  { phaseId := firstNight
    slots :=
      [townie "s", townie "u", { townie "t" with effects := ["lantern", "beacon"] }, townie "a", townie "b",
        townie "c", { goon "j" with roleKey := "janitor" }, { goon "k" with roleKey := "janitor" }]
    effectRecords :=
      [{ effect := "lantern", target := "t", source := "s" },
        { effect := "beacon", target := "t", source := "u" }] }

/-- The first night: who lit the lantern dies. -/
def firstLantern : ResolutionInput Rat := lanternNight firstNight lanternState [("j", "s")]

/-- The second night: the bearer dies concealed, and who lit the beacon dies. -/
def secondLantern (first : ResolutionOutput Rat) : ResolutionInput Rat :=
  lanternNight (.second .night) first.postState [("j", "t"), ("k", "u")]

/-- The alignment of the bearer is revealed in both nights. -/
theorem lanternNights : ∃ first second, resolve firstLantern = .ok first ∧
    resolve (secondLantern first) = .ok second ∧
    (∃ event ∈ sourceReveals firstLantern, revealed? event = some ("t", .alignment)) ∧
    ∃ event ∈ sourceReveals (secondLantern first), revealed? event = some ("t", .alignment) := by
  have hrun : (resolve firstLantern).toOption.any (fun first =>
      (resolve (secondLantern first)).toOption.isSome &&
      (sourceReveals firstLantern).any (fun event => revealed? event == some ("t", .alignment)) &&
      (sourceReveals (secondLantern first)).any fun event =>
        revealed? event == some ("t", .alignment)) = true := by
    decide +kernel
  cases hfirst : resolve firstLantern with
  | error failure => exact absurd hrun (by simp [hfirst, Except.toOption])
  | ok first =>
    simp only [hfirst, Except.toOption, Option.any_some, Bool.and_eq_true, List.any_eq_true,
      beq_iff_eq] at hrun
    obtain ⟨⟨hok, hlantern⟩, hbeacon⟩ := hrun
    cases hsecond : resolve (secondLantern first) with
    | error failure => exact absurd hok (by simp [hsecond])
    | ok second => exact ⟨first, second, rfl, hsecond, hlantern, hbeacon⟩

theorem lanternNights_played {first second : ResolutionOutput Rat}
    (hfirst : resolve firstLantern = .ok first) (hsecond : resolve (secondLantern first) = .ok second) :
    Played second.postState ([] ++ entries (sourceReveals firstLantern) firstLantern.state
          (first.applied.events.map (·.event)) ++
        entries (sourceReveals (secondLantern first)) (secondLantern first).state
          (second.applied.events.map (·.event))) :=
  .resolve (.follow (.resolve (.start firstLantern.state) hfirst) fun _ _ => id) hsecond

/-- The death of one source, and later that of another, reveal the same fact. -/
theorem lanternNights_again : ∃ (state : StateSnapshot Rat) (log : List (Entry Rat)), Played state log ∧
    ∃ before first between second after, log = before ++ first :: (between ++ second :: after) ∧
      first.bySource ∧ second.bySource ∧ revealed? first.event = some ("t", .alignment) ∧
      revealed? second.event = some ("t", .alignment) := by
  obtain ⟨first, second, hfirst, hsecond, ⟨lantern, hlantern, hshows⟩, ⟨beacon, hbeacon, hagain⟩⟩ :=
    lanternNights
  obtain ⟨one, hone, rfl, honeBy⟩ := mem_entries firstLantern.state
    (mem_events_of_sourceReveals hfirst hlantern) hlantern
  obtain ⟨two, htwo, rfl, htwoBy⟩ := mem_entries (secondLantern first).state
    (mem_events_of_sourceReveals hsecond hbeacon) hbeacon
  obtain ⟨before, rest, hone⟩ := List.append_of_mem hone
  obtain ⟨more, after, htwo⟩ := List.append_of_mem htwo
  refine ⟨_, _, lanternNights_played hfirst hsecond, before, one, rest ++ more, two, after, ?_, honeBy,
    htwoBy, hshows, hagain⟩
  rw [hone, htwo]
  simp

theorem lanternNights_afresh : ∃ (state : StateSnapshot Rat) (log : List (Entry Rat)), Played state log ∧
    (∃ entry ∈ log, entry.bySource) ∧ Afresh log := by
  obtain ⟨first, second, hfirst, hsecond, ⟨lantern, hlantern, -⟩, -⟩ := lanternNights
  obtain ⟨one, hone, -, honeBy⟩ := mem_entries firstLantern.state
    (mem_events_of_sourceReveals hfirst hlantern) hlantern
  have hplayed := lanternNights_played hfirst hsecond
  exact ⟨_, _, hplayed, ⟨one, List.mem_append_left _ hone, honeBy⟩, sourceReveals_afresh hplayed⟩

end Fmarch.Resolver
