import Fmarch.Resolver.Resolve
import Fmarch.Resolver.VoteRuns

/-!
# The parts of a resolution

Whatever the phase, the events of a resolution are those before its announcement, the announcement
of some deaths, and the wins after it. `Parts` names the three; every step of the finalisation is an
operation on them, so what holds of a whole resolution is read off its parts.

**`finalEvents_parts`**: the finalisation always finds the announcement it looks for, and its events
are those of `finalParts`.
-/

namespace Fmarch.Resolver

open Fmarch.Domain Keyed StableSort

variable {F : Type} [Float64 F]

/-- An event of a stage. -/
abbrev Staged : InnerEvent F → Prop := VoteBody fun _ => True

/-- An event up to the announcement: of a stage, or a status tag. -/
def Interim : InnerEvent F → Prop
  | .slotStatusTagged .. => True
  | event => Staged event

variable {event : InnerEvent F} {input : ResolutionInput F}

omit [Float64 F] in
theorem Staged.interim (h : Staged event) : Interim event := by
  cases event <;> first | exact h | exact trivial

/-! ## What follows the deaths -/

theorem remark_backupInheritance (input : ResolutionInput F) (killed : List SlotId)
    (events : List (InnerEvent F)) :
    ∀ event ∈ backupInheritance input killed events, Remark event := by
  intro event hevent
  unfold backupInheritance at hevent
  split at hevent
  · exact absurd hevent List.not_mem_nil
  · obtain ⟨backup, -, hbackup⟩ := List.mem_filterMap.1 hevent
    split at hbackup
    · cases hbackup
    · split at hbackup
      · cases hbackup
      · obtain rfl := Option.some.inj hbackup
        exact trivial

theorem remark_sourceDeathReveal {state : StateSnapshot F} {record : EffectRecord}
    {policy : EffectSourceDeathRevealPolicy}
    (h : sourceDeathReveal input state record policy = some event) : Remark event := by
  unfold sourceDeathReveal at h
  obtain ⟨target, -, h⟩ := Option.bind_eq_some_iff.1 h
  dsimp only at h
  split at h
  · split at h
    · cases h
    · obtain ⟨alignment, -, h⟩ := Option.bind_eq_some_iff.1 h
      obtain rfl := Option.some.inj h
      exact trivial
  · split at h
    · cases h
    · obtain rfl := Option.some.inj h
      exact trivial

theorem remark_sourceDeathReveals (input : ResolutionInput F) (state : StateSnapshot F)
    (found : List (EffectRecord × EffectSourceDeathRevealPolicy))
    (revealed : List (SlotId × EffectSourceDeathRevealKind)) :
    ∀ event ∈ sourceDeathReveals input state revealed found, Remark event := by
  induction found generalizing revealed with
  | nil => simp [sourceDeathReveals]
  | cons entry found ih =>
    obtain ⟨record, policy⟩ := entry
    unfold sourceDeathReveals
    split
    · exact ih _
    · intro event hevent
      rcases List.mem_append.1 hevent with hreveal | hrest
      · exact remark_sourceDeathReveal (Option.mem_toList.1 hreveal)
      · exact ih _ event hrest

theorem remark_effectSourceDeathReveals (input : ResolutionInput F) (killed : List SlotId)
    (events : List (InnerEvent F)) :
    ∀ event ∈ effectSourceDeathReveals input killed events, Remark event := by
  unfold effectSourceDeathReveals
  dsimp only
  split
  · simp
  · exact remark_sourceDeathReveals input _ _ _

theorem remark_historySensitiveActionEvents (input : ResolutionInput F) (actions : List (Action F)) :
    ∀ event ∈ historySensitiveActionEvents input actions, Remark event := by
  intro event hevent
  obtain ⟨action, -, rfl⟩ := List.mem_map.1 hevent
  exact trivial

theorem belovedPrincessPrompts_issued {events : List (InnerEvent F)}
    (h : event ∈ belovedPrincessPrompts input events) :
    ∃ prompt, event = .hostPromptIssued prompt := by
  unfold belovedPrincessPrompts at h
  split at h
  · exact absurd h List.not_mem_nil
  · obtain ⟨⟨slotId, cause⟩, -, hprompt⟩ := List.mem_filterMap.1 h
    unfold belovedPrincessPrompt at hprompt
    dsimp only at hprompt
    split at hprompt
    · cases hprompt
    · obtain ⟨slot, -, hprompt⟩ := Option.bind_eq_some_iff.1 hprompt
      split at hprompt
      · cases hprompt
      · exact ⟨_, (Option.some.inj hprompt).symm⟩

theorem remark_belovedPrincessPrompts (input : ResolutionInput F) (events : List (InnerEvent F)) :
    ∀ event ∈ belovedPrincessPrompts input events, Remark event := by
  intro event hevent
  obtain ⟨prompt, rfl⟩ := belovedPrincessPrompts_issued hevent
  exact trivial

/-- The events `after` are those `before` with plain ones behind them. -/
def Extends (before after : List (InnerEvent F)) : Prop :=
  ∃ later, after = before ++ later ∧ ∀ event ∈ later, Plain event

namespace Extends

variable {before after last : List (InnerEvent F)}

section

omit [Float64 F]

theorem append {later : List (InnerEvent F)} (h : ∀ event ∈ later, Plain event) :
    Extends before (before ++ later) :=
  ⟨later, rfl, h⟩

theorem trans (h : Extends before after) (h' : Extends after last) : Extends before last := by
  obtain ⟨later, rfl, hlater⟩ := h
  obtain ⟨later', rfl, hlater'⟩ := h'
  refine ⟨later ++ later', List.append_assoc .., fun event hevent => ?_⟩
  exact (List.mem_append.1 hevent).elim (hlater event) (hlater' event)

theorem killedSlots (h : Extends before after) : killedSlots after = killedSlots before := by
  obtain ⟨later, rfl, hlater⟩ := h
  rw [killedSlots_append, killedSlots_plain hlater, List.append_nil]

theorem staged (h : Extends before after) (hbefore : ∀ event ∈ before, Staged event) :
    ∀ event ∈ after, Staged event := by
  obtain ⟨later, rfl, hlater⟩ := h
  intro event hevent
  rcases List.mem_append.1 hevent with hold | hnew
  · exact hbefore event hold
  · exact (hlater event hnew).body.voteBody

end

end Extends

section

variable (input)

theorem nightAftermath_extends (actions : List (Action F))
    (d : Deaths F) : Extends d.events (nightAftermath input actions d) :=
  (((Extends.append (plain_of_remarks (remark_backupInheritance _ _ _))).trans
    (.append (plain_of_remarks (remark_effectSourceDeathReveals _ _ _)))).trans
    (.append (plain_of_remarks (remark_historySensitiveActionEvents _ _)))).trans
    (.append (plain_of_remarks (remark_belovedPrincessPrompts _ _)))

theorem voteAftermath_extends (d : Deaths F) : Extends d.events (voteAftermath input d) :=
  (Extends.append (plain_of_remarks (remark_effectSourceDeathReveals _ _ _))).trans
    (.append (plain_of_remarks (remark_belovedPrincessPrompts _ _)))

/-! ## What precedes the phase -/

/-- An event of the intake: a grant spent, a use counted, or a submission halted. -/
def Preliminary : InnerEvent F → Prop
  | .actionGrantConsumed .. | .actionUseCounted .. | .actionInterfered .. | .actionIngestHalted .. => True
  | _ => False

theorem preliminary_planConsumptions (grants : List (ActionGrantRecord F)) (subs : List (Submission × Tag)) :
    ∀ event ∈ planConsumptions input grants subs, Preliminary event := by
  induction subs generalizing grants with
  | nil => simp [planConsumptions]
  | cons entry subs ih =>
    obtain ⟨sub, grantId⟩ := entry
    intro event hevent
    unfold planConsumptions at hevent
    dsimp only at hevent
    rcases List.mem_append.1 hevent with hnew | hrest
    · unfold planConsumption at hnew
      split at hnew
      · exact absurd hnew List.not_mem_nil
      · split at hnew
        · exact List.mem_singleton.1 hnew ▸ trivial
        · rcases List.mem_cons.1 hnew with rfl | hcounted
          · exact trivial
          · split at hcounted
            · exact List.mem_singleton.1 hcounted ▸ trivial
            · exact absurd hcounted List.not_mem_nil
    · exact ih _ event hrest

/-- The events `resolve_inner` puts before those of the phase. -/
def preamble (input : ResolutionInput F) : List (InnerEvent F) :=
  grantConsumptionEvents input ++ invalidSubmissionIngestHalts input ++ phaseWindowMismatchHalts input

theorem preliminary_preamble : ∀ event ∈ preamble input, Preliminary event := by
  intro event hevent
  rcases List.mem_append.1 hevent with hevent | hwindow
  · rcases List.mem_append.1 hevent with hgrant | hingest
    · exact preliminary_planConsumptions input _ _ event hgrant
    · obtain ⟨sub, -, rfl⟩ := List.mem_map.1 hingest
      exact trivial
  · obtain ⟨sub, -, hwindow⟩ := List.mem_filterMap.1 hwindow
    obtain ⟨template, -, hwindow⟩ := Option.bind_eq_some_iff.1 hwindow
    obtain ⟨reason, -, hwindow⟩ := Option.bind_eq_some_iff.1 hwindow
    obtain rfl := Option.some.inj hwindow
    exact trivial

theorem remark_preamble : ∀ event ∈ preamble input, Remark event := by
  intro event hevent
  have hpreliminary := preliminary_preamble input event hevent
  cases event <;> first | exact trivial | exact absurd hpreliminary id

end

/-! ## Parts -/

/-- The events before the announcement, the deaths announced, and the wins after it. -/
structure Parts (F : Type) where
  body : List (InnerEvent F)
  deaths : List Death
  wins : List (InnerEvent F)

namespace Parts

/-- The events of a resolution with these parts. -/
def events (input : ResolutionInput F) (parts : Parts F) : List (InnerEvent F) :=
  parts.body ++ .phaseAnnouncement (phaseAnnouncement input parts.deaths) :: parts.wins

/-- The parts are what their names say. -/
structure Sorted (parts : Parts F) : Prop where
  body : ∀ event ∈ parts.body, Interim event
  wins : ∀ event ∈ parts.wins, event.isWinReached = true

end Parts

/-- The parts of the phase's own resolution. -/
def phaseParts (input : ResolutionInput F) : Parts F :=
  match input.state.phaseId.kind with
  | .day =>
    let (outcome, lynch) :=
      voteLynch input (resolveBadgeActions input).1 (dayBeforeVote input)
    let (d, deaths, _) := voteCascades input lynch
    let body := voteAftermath input d
    { body
      deaths
      wins :=
        match outcome.winner with
        | some winner =>
          lynchWins input winner
            (body ++ [.phaseAnnouncement (phaseAnnouncement input deaths)])
        | none => [] }
  | .twilight =>
    let events := resolveSelfDestructActions input []
    let body := events ++ belovedPrincessPrompts input events
    { body, deaths := deathsFromEvents body, wins := [] }
  | .night =>
    let night := nightStages input
    let body := nightAftermath input night.actions (nightDeaths input night).1
    { body, deaths := deathsFromEvents body, wins := [] }

theorem resolvePhase_parts (input : ResolutionInput F) :
    (resolvePhase input).events = (phaseParts input).events input := by
  unfold resolvePhase phaseParts Parts.events
  cases input.state.phaseId.kind with
  | day =>
    simp only [resolveDay, resolveDayVote, dayBeforeVote, List.append_assoc]
    rfl
  | twilight => rfl
  | night => rfl

/-! ## They are sorted -/

section

variable {Apart : InnerEvent F → Prop} {Ok Att : SlotId → Prop} {a b : Deaths F}

theorem staged_run (h : Deaths.Run input Apart Ok Att a b)
    (ha : ∀ event ∈ a.events, Staged event) : ∀ event ∈ b.events, Staged event :=
  h.events (fun _ hbody _ => hbody.voteBody)
    (fun _ _ event hevent => by cases event <;> exact hevent) ha

theorem interim_run (h : Deaths.Run input Apart Ok Att a b)
    (ha : ∀ event ∈ a.events, Interim event) : ∀ event ∈ b.events, Interim event :=
  h.events (fun _ hbody _ => Staged.interim hbody.voteBody)
    (fun _ _ event hevent => by cases event <;> exact hevent) ha

end

theorem staged_nightDeaths (input : ResolutionInput F) :
    ∀ event ∈ (nightDeaths input (nightStages input)).1.events, Staged event := by
  refine staged_run (resolveNight_run (fun _ => id) (aliveOk_any input) (triggersOk_any _)
    (nightOk_any input _)) fun event hevent => ?_
  exact (remark_prepareNightActions input event hevent).plain.body.voteBody

omit [Float64 F] in
theorem lynchDeaths_known (lynch : Lynch F) : (lynchDeaths lynch).Known AnySlot AnySlot := by
  refine ⟨fun _ _ => trivial, fun record hrecord => ⟨?_, trivial⟩⟩
  obtain ⟨death, hdeath, rfl⟩ := List.mem_map.1 hrecord
  exact List.mem_map_of_mem hdeath

theorem staged_voteCascades {lynch : Lynch F} (h : LynchOk input lynch) :
    ∀ event ∈ (voteCascades input lynch).1.events, Staged event := by
  obtain ⟨hrun, -, hrest⟩ :=
    voteCascades_run (fun _ => id) (aliveOk_any input) (triggersOk_any _)
      (fun _ _ => ⟨trivial, trivial⟩) (lynchDeaths_known lynch)
  have htriggered := staged_run hrun fun event hevent =>
    (h.body event hevent).imp fun _ _ => trivial
  exact staged_run hrest htriggered

theorem staged_selfDestructs (input : ResolutionInput F) (matchesWindow : ActionTemplate F → Bool) :
    ∀ event ∈ resolveSelfDestructActionsMatching input matchesWindow [], Staged event := by
  have hstage : StageOk False input [] (resolveSelfDestructActionsMatching input matchesWindow []) :=
    resolveSelfDestructActionsMatching_ok _ (fun h => h.elim) []
  exact fun event hevent => (hstage.told (by simp) event hevent).1.voteBody

theorem win_selfLynchWin {lynched : SlotId} (h : selfLynchWin input lynched = some event) : event.isWinReached = true := by
  obtain ⟨slot, -, h⟩ := Option.bind_eq_some_iff.1 h
  obtain ⟨⟨index, policy⟩, -, h⟩ := Option.bind_eq_some_iff.1 h
  obtain rfl := Option.some.inj h
  rfl

theorem wins_lynchWins (input : ResolutionInput F) (winner : SlotId) (events : List (InnerEvent F)) :
    ∀ event ∈ lynchWins input winner events, event.isWinReached = true := by
  have hself : ∀ event ∈ (selfLynchWin input winner : Option (InnerEvent F)).toList,
      event.isWinReached = true := fun _ hevent => win_selfLynchWin (Option.mem_toList.1 hevent)
  intro event hevent
  unfold lynchWins at hevent
  dsimp only at hevent
  split at hevent
  · exact hself event hevent
  · rcases List.mem_append.1 hevent with hevent | htarget
    · exact hself event hevent
    · obtain ⟨⟨record, policy⟩, -, rfl⟩ := List.mem_map.1 htarget
      rfl

/-- The stages of a phase set no status tag. -/
theorem phaseParts_staged (input : ResolutionInput F) : ∀ event ∈ (phaseParts input).body, Staged event := by
  unfold phaseParts
  cases input.state.phaseId.kind with
  | day =>
    exact (voteAftermath_extends input _).staged
      (staged_voteCascades (voteLynch_ok _ (told_dayBeforeVote input)))
  | twilight =>
    exact (Extends.append (plain_of_remarks (remark_belovedPrincessPrompts _ _))).staged
      (staged_selfDestructs input _)
  | night => exact (nightAftermath_extends input _ _).staged (staged_nightDeaths input)

theorem phaseParts_sorted (input : ResolutionInput F) : (phaseParts input).Sorted where
  body event hevent := (phaseParts_staged input event hevent).interim
  wins := by
    unfold phaseParts
    cases input.state.phaseId.kind with
    | day =>
      dsimp only
      split
      · exact wins_lynchWins input _ _
      · simp
    | twilight => simp
    | night => simp

/-! ## The parts after each step of the finalisation -/

/-- The parts of `resolve_inner`. -/
def innerParts (input : ResolutionInput F) : Parts F :=
  { phaseParts input with body := preamble input ++ (phaseParts input).body }

theorem resolveInner_parts (input : ResolutionInput F) :
    (resolveInner input).events = (innerParts input).events input := by
  unfold resolveInner
  dsimp only
  rw [resolvePhase_parts]
  simp only [Parts.events, innerParts, preamble, List.append_assoc]

/-- The tags of a body's kills, if the pack has the policy. -/
def statusTags (input : ResolutionInput F) (body : List (InnerEvent F)) : List (InnerEvent F) :=
  let policy := input.pack.document.treestumpPolicy
  if policy.enabled then treestumpTags policy input.state body else []

omit [Float64 F] in
theorem mem_treestumpTags {policy : TreestumpPolicy} {rolling : StateSnapshot F}
    {events : List (InnerEvent F)} (h : event ∈ treestumpTags policy rolling events) :
    ∃ slotId source, event = .slotStatusTagged slotId policy.statusTag source := by
  induction events generalizing rolling with
  | nil => exact absurd h List.not_mem_nil
  | cons first events ih =>
    unfold treestumpTags at h
    dsimp only at h
    split at h
    · split at h
      · rcases List.mem_cons.1 h with rfl | hrest
        · exact ⟨_, _, rfl⟩
        · exact ih hrest
      · exact ih h
    · exact ih h

theorem mem_statusTags {body : List (InnerEvent F)} (h : event ∈ statusTags input body) :
    ∃ slotId source, event = .slotStatusTagged slotId input.pack.document.treestumpPolicy.statusTag source := by
  unfold statusTags at h
  dsimp only at h
  split at h
  · exact mem_treestumpTags h
  · exact absurd h List.not_mem_nil

theorem killedSlots_statusTags (input : ResolutionInput F) (body : List (InnerEvent F)) :
    killedSlots (statusTags input body) = [] := by
  refine killedSlots_eq_nil fun event hevent => ?_
  obtain ⟨slotId, source, rfl⟩ := mem_statusTags hevent
  rfl

/-- The parts with the status tags. -/
def Parts.tagged (input : ResolutionInput F) (parts : Parts F) : Parts F :=
  { parts with body := parts.body ++ statusTags input parts.body }

/-- The parts of `resolve_inner` with the status tags. -/
def taggedParts (input : ResolutionInput F) : Parts F := (innerParts input).tagged input

theorem killedSlots_taggedParts (input : ResolutionInput F) :
    killedSlots (taggedParts input).body = killedSlots (phaseParts input).body := by
  have hpreamble : killedSlots (preamble input) = [] :=
    killedSlots_plain (plain_of_remarks (remark_preamble input))
  unfold taggedParts Parts.tagged innerParts
  dsimp only
  rw [killedSlots_append, killedSlots_append, killedSlots_statusTags, hpreamble, List.append_nil,
    List.nil_append]

omit [Float64 F] in
theorem Interim.not_announcement (h : Interim event) : event.isPhaseAnnouncement = false := by
  cases event <;> first | rfl | exact absurd h id

omit [Float64 F] in
theorem Interim.not_win (h : Interim event) : event.isWinReached = false := by
  cases event <;> first | rfl | exact absurd h id

variable {parts : Parts F}

theorem Parts.Sorted.findIdx?_announcement (h : parts.Sorted) (input : ResolutionInput F) :
    (parts.events input).findIdx? (·.isPhaseAnnouncement) = some parts.body.length := by
  unfold Parts.events
  rw [List.findIdx?_append, List.findIdx?_eq_none_iff.2 fun event hevent =>
    (h.body event hevent).not_announcement]
  simp [List.findIdx?_cons, InnerEvent.isPhaseAnnouncement]

theorem innerParts_staged (input : ResolutionInput F) : ∀ event ∈ (innerParts input).body, Staged event := by
  intro event hevent
  rcases List.mem_append.1 hevent with hbefore | hphase
  · exact (remark_preamble input event hbefore).plain.body.voteBody
  · exact phaseParts_staged input event hphase

theorem innerParts_sorted (input : ResolutionInput F) : (innerParts input).Sorted where
  body event hevent := (innerParts_staged input event hevent).interim
  wins := (phaseParts_sorted input).wins

theorem Parts.Sorted.tagged (h : parts.Sorted) (input : ResolutionInput F) : (parts.tagged input).Sorted where
  body event hevent := by
    rcases List.mem_append.1 hevent with hinner | htag
    · exact h.body event hinner
    · obtain ⟨slotId, source, rfl⟩ := mem_statusTags htag
      exact trivial
  wins := h.wins

theorem taggedParts_sorted (input : ResolutionInput F) : (taggedParts input).Sorted :=
  (innerParts_sorted input).tagged input

theorem Parts.Sorted.applyTreestumpPolicy (h : parts.Sorted) (input : ResolutionInput F) :
    applyTreestumpPolicy input (parts.events input) = (parts.tagged input).events input := by
  unfold Resolver.applyTreestumpPolicy Parts.tagged statusTags
  dsimp only
  rw [h.findIdx?_announcement]
  dsimp only
  split <;> rename_i henabled
  · simp_all [Parts.events]
  · have hon : input.pack.document.treestumpPolicy.enabled = true := by simpa using henabled
    rw [if_pos hon]
    simp [Parts.events]

theorem applyTreestumpPolicy_parts (input : ResolutionInput F) :
    applyTreestumpPolicy input (resolveInner input).events = (taggedParts input).events input := by
  rw [resolveInner_parts]
  exact (innerParts_sorted input).applyTreestumpPolicy input

/-! ## Wins -/

theorem Parts.Sorted.hasWinReached (h : parts.Sorted) (input : ResolutionInput F) :
    hasWinReached (parts.events input) = !parts.wins.isEmpty := by
  have hbody : parts.body.any (·.isWinReached) = false := by
    rw [List.any_eq_false]
    exact fun event hevent => by simp [(h.body event hevent).not_win]
  unfold Resolver.hasWinReached Parts.events
  rw [List.any_append, hbody, Bool.false_or, List.any_cons]
  cases hwins : parts.wins with
  | nil => rfl
  | cons win wins =>
    have hwin := h.wins win (hwins ▸ List.mem_cons_self)
    simp [hwin]

/-- The fixpoint of the win triggers on the events before the announcement. -/
def winTriggers (input : ResolutionInput F) (winner : AlignmentKey) (body : List (InnerEvent F)) :
    Deaths F × List KillRecord × List String :=
  applyTriggerFixpoint input ∅ ∅ none (winObservations (applyEvents input.state body) winner)
    { events := body, killed := (deathsFromEvents body).map (·.slotId) }

/-- The parts once the win triggers have run and the final win is known. -/
def wonParts (input : ResolutionInput F) (win : AlignmentKey × String) (parts : Parts F) : Parts F :=
  let pack := input.pack.document
  let postState := applyEvents input.state (parts.events input)
  let d := (winTriggers input win.1 parts.body).1
  let deaths := announceNewDeaths (phaseAnnouncement input parts.deaths).deaths
    (deathsFromEvents d.events)
  let finalState := applyEvents input.state
    (d.events ++ [.phaseAnnouncement (phaseAnnouncement input deaths)])
  { body := d.events
    deaths
    wins :=
      [match checkWin finalState pack with
        | some win => winReached finalState pack win
        | none => winReached postState pack win] }

/-- Tagged parts once the wins are looked at. -/
def Parts.finished (input : ResolutionInput F) (parts : Parts F) : Parts F :=
  if !parts.wins.isEmpty then parts
  else
    match checkWin (applyEvents input.state (parts.events input)) input.pack.document with
    | none => parts
    | some win => wonParts input win parts

/-- The parts of the resolution's events. -/
def finalParts (input : ResolutionInput F) : Parts F := (taggedParts input).finished input

/-- What holds of the tagged parts, and of what the win triggers make of them, holds in the end. -/
theorem Parts.finished_of {motive : Parts F → Prop} (h : motive parts)
    (hwon : parts.wins = [] → ∀ win, motive (wonParts input win parts)) :
    motive (parts.finished input) := by
  unfold Parts.finished
  split
  · exact h
  · rename_i hnone
    have hwins : parts.wins = [] := by simpa using hnone
    split
    · exact h
    · exact hwon hwins _

theorem winTriggers_run {Ok Att : SlotId → Prop} (okAtt : ∀ slot, Ok slot → Att slot)
    (htriggers : TriggersOk input.pack.document Ok Att) {winner : AlignmentKey}
    {body : List (InnerEvent F)}
    (hliving : ∀ slot, Living (applyEvents input.state body) slot → Att slot)
    (hkilled : ∀ slot ∈ killedSlots body, Ok slot) :
    Deaths.Run input NoEvent Ok Att { events := body, killed := (deathsFromEvents body).map (·.slotId) }
      (winTriggers input winner body).1 := by
  refine triggerLoop_run okAtt protectionsOk_empty htriggers (fun h => absurd h (by simp)) _
    (fun observation hobservation => ?_) ⟨fun slot hslot => hkilled slot ?_, by simp⟩
  · obtain ⟨slot, hslot, rfl⟩ := List.mem_map.1 hobservation
    obtain ⟨hmem, halive⟩ := List.mem_filter.1 hslot
    have hatt := hliving slot.slotId ⟨slot, hmem, rfl, halive⟩
    exact ⟨hatt, hatt⟩
  · rw [← deathsFromEvents_slots]
    exact hslot

theorem wonParts_sorted (h : parts.Sorted) (win : AlignmentKey × String) : (wonParts input win parts).Sorted where
  body := interim_run (winTriggers_run (fun _ => id) (triggersOk_any _) (fun _ _ => trivial)
    fun _ _ => trivial) h.body
  wins event hevent := by
    obtain rfl := List.mem_singleton.1 hevent
    split <;> rfl

theorem Parts.Sorted.finished (h : parts.Sorted) (input : ResolutionInput F) :
    (parts.finished input).Sorted :=
  Parts.finished_of (motive := Parts.Sorted) h fun _ win => wonParts_sorted h win

theorem finalParts_sorted (input : ResolutionInput F) : (finalParts input).Sorted :=
  (taggedParts_sorted input).finished input

theorem applyWinTriggersBeforeFinal_parts (input : ResolutionInput F) (winner : AlignmentKey)
    (hwins : parts.wins = []) :
    applyWinTriggersBeforeFinal input winner (parts.events input) = some
        ((winTriggers input winner parts.body).1.events ++ [.phaseAnnouncement (phaseAnnouncement input
              (announceNewDeaths (phaseAnnouncement input parts.deaths).deaths
                (deathsFromEvents (winTriggers input winner parts.body).1.events)))],
          (winTriggers input winner parts.body).2.2) := by
  unfold applyWinTriggersBeforeFinal Parts.events
  rw [hwins, List.getLast?_concat, List.dropLast_concat]
  rfl

/-- The finalisation always finds its announcement. -/
theorem Parts.Sorted.finalEvents (h : parts.Sorted) {inner : InnerResolution F}
    (hinner : inner.events = parts.events input) :
    ∃ notes, finalEvents input inner = some (((parts.tagged input).finished input).events input, notes) := by
  unfold Resolver.finalEvents Parts.finished
  dsimp only
  rw [hinner, h.applyTreestumpPolicy, (h.tagged input).hasWinReached]
  split
  · exact ⟨_, rfl⟩
  · rename_i hnone
    have hwins : (parts.tagged input).wins = [] := by simpa using hnone
    cases checkWin (applyEvents input.state ((parts.tagged input).events input))
        input.pack.document with
    | none => exact ⟨_, rfl⟩
    | some win =>
      dsimp only
      rw [applyWinTriggersBeforeFinal_parts input win.1 hwins]
      refine ⟨inner.traceNotes ++ (winTriggers input win.1 (parts.tagged input).body).2.2, ?_⟩
      simp only [Option.bind_eq_bind, Option.bind_some, wonParts, Parts.events]
      rw [List.append_assoc]
      rfl

theorem finalEvents_parts (input : ResolutionInput F) :
    ∃ notes, finalEvents input (resolveInner input) = some ((finalParts input).events input, notes) :=
  (innerParts_sorted input).finalEvents (resolveInner_parts input)

/-! ## What `resolve` returns -/

theorem wrapResolution_events (input : ResolutionInput F) (inner : List (InnerEvent F)) :
    (wrapResolution input inner).events.map (·.event) = inner := by
  unfold wrapResolution
  simp [List.map_map, Function.comp_def]

/-- What the finalisation returns consists of the finished parts. -/
theorem Parts.Sorted.finalizeResolution (hsorted : parts.Sorted)
    {inner : InnerResolution F} (hinner : inner.events = parts.events input)
    {out : ResolutionOutput F} (h : finalizeResolution input inner = .ok out) :
    out.applied.events.map (·.event) = ((parts.tagged input).finished input).events input ∧
      out.postState = applyEvents input.state (((parts.tagged input).finished input).events input) := by
  unfold Resolver.finalizeResolution at h
  obtain ⟨notes, hfinal⟩ := hsorted.finalEvents hinner
  rw [hfinal] at h
  dsimp only at h
  split at h
  · cases h
  · split at h
    · cases h
    · obtain rfl := Except.ok.inj h
      exact ⟨wrapResolution_events input _, rfl⟩

theorem resolve_events {out : ResolutionOutput F} (h : resolve input = .ok out) :
    out.applied.events.map (·.event) = (finalParts input).events input ∧
      out.postState = applyEvents input.state ((finalParts input).events input) := by
  unfold resolve at h
  split at h
  · cases h
  · exact (innerParts_sorted input).finalizeResolution (resolveInner_parts input) h

omit [Float64 F] in
theorem killedSlots_wins {wins : List (InnerEvent F)}
    (h : ∀ event ∈ wins, event.isWinReached = true) : killedSlots wins = [] := by
  refine killedSlots_eq_nil fun event hevent => ?_
  have hwin := h event hevent
  cases event <;> first | rfl | exact absurd hwin (by simp [InnerEvent.isWinReached])

theorem Parts.Sorted.killedSlots (h : parts.Sorted)
    (input : ResolutionInput F) : killedSlots (parts.events input) = killedSlots parts.body := by
  have hwins : Domain.killedSlots (.phaseAnnouncement (phaseAnnouncement input parts.deaths) ::
      parts.wins : List (InnerEvent F)) = Domain.killedSlots parts.wins := rfl
  unfold Parts.events
  rw [killedSlots_append, hwins, killedSlots_wins h.wins, List.append_nil]

/-! ## A village -/

theorem Accepted.of_plain {pack : Pack F} {nightStageOrder : List IrAbility}
    (nodup : nightStageOrder.Nodup) (backup : pack.backupPolicy.enabled = false)
    (deaths : pack.dayNotes.dayDeaths = {}) : Accepted pack nightStageOrder where
  stageOrder_nodup := nodup
  backupPriority h := absurd h (by simp [backup])
  dayDeathTemplate := by simp [deaths, NotBlank]
  dayDeathAudience := by simp [deaths, NotBlank]
  dayDeathCauseTemplates := by simp [deaths]

/-- Townies with these actions against goons, by majority vote. -/
def villagePack (actions : List (ActionTemplate Rat)) : Pack Rat where
  roles := ((∅ : BTreeMap RoleKey (Role Rat)).insert "goon" { alignment := some "mafia" }).insert
    "townie" { alignment := some "town", actions }
  redirects := { loopCap := 8, tieBreaker := .stable }
  vote :=
    { method := .majority
      noLynchAllowed := true
      selfVoteAllowed := false
      hammer := false
      weights := .equal
      tieBreaker := .noElimination }
  win :=
    { rules :=
        [{ winner := "town", when := .factionEliminated "mafia" },
          { winner := "mafia", when := .factionReachesParity "mafia" }] }

/-- A night action on one other slot. -/
def nightAction (id : String) (ability : IrAbility) (priority : Int)
    (additionalAbilities : List IrAbility) (modifiers : List Modifier) : ActionTemplate Rat where
  id
  ability
  additionalAbilities
  window := .night
  targets := .one
  modifiers
  constraints :=
    { maxTargets := 1, selfAllowed := false, uniqueTargets := true, roleblockable := true
      priority }

/-- A townie. -/
def townie (slotId : SlotId) : SlotState :=
  { slotId, roleKey := "townie", alignment := some "town" }

/-- A goon. -/
def goon (slotId : SlotId) : SlotState :=
  { slotId, roleKey := "goon", alignment := some "mafia" }

/-- The resolution of a phase of the village. -/
def village (pack : ValidatedPack Rat) (state : StateSnapshot Rat)
    (submissions : List Submission) : ResolutionInput Rat where
  gameId := "village"
  phaseId := state.phaseId
  runId := "run"
  state
  submissions
  pack
  seed := 0
  logicalTime := 0

end Fmarch.Resolver
