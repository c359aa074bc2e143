import Fmarch.Resolver.Shape

/-!
# Wins of a lynch that did not happen

`resolve_day_vote` decides the vote, then the veto, the idiot policy and the Saulus policy may each turn the
lynch away. The self- and target-lynch wins are resolved after the announcement, on the winner of the
vote, and look at none of these.

**`lynchWins_executed`**: a lynch win is emitted only with the kill it is about exactly if the slot voted
out, if any, either dies by the vote or has no lynch-win policy. `vetoedJester_wins` is a jester whose
lynch is vetoed, and who wins by it.
-/

namespace Fmarch.Resolver

open Fmarch.Domain Keyed StableSort

variable {F : Type} [Float64 F]

/-! ## Kills that stay -/

/-- A kill event of this slot, cause and reveal mode. -/
def KillRecorded (slot : SlotId) (cause : String) (deathReveal : DeathRevealMode)
    (events : List (InnerEvent F)) : Prop :=
  ∃ attackers unstoppable, .playerKilled slot cause attackers unstoppable deathReveal ∈ events

section Stays

variable {slot : SlotId} {cause : String} {deathReveal : DeathRevealMode}

section

omit [Float64 F]

theorem KillRecorded.append {before : List (InnerEvent F)}
    (h : KillRecorded slot cause deathReveal before) (later : List (InnerEvent F)) :
    KillRecorded slot cause deathReveal (before ++ later) := by
  obtain ⟨attackers, unstoppable, hmem⟩ := h
  exact ⟨attackers, unstoppable, List.mem_append_left _ hmem⟩

theorem KillRecorded.extends {before after : List (InnerEvent F)} (h : Extends before after)
    (hbefore : KillRecorded slot cause deathReveal before) :
    KillRecorded slot cause deathReveal after := by
  obtain ⟨later, rfl, -⟩ := h
  exact hbefore.append later

end

/-- A run keeps every kill; a merge adds attackers and may make it unstoppable. -/
theorem KillRecorded.run {input : ResolutionInput F} {Apart : InnerEvent F → Prop} {Ok Att : SlotId → Prop} {a b : Deaths F}
    (h : Deaths.Run input Apart Ok Att a b)
    (ha : KillRecorded slot cause deathReveal a.events) :
    KillRecorded slot cause deathReveal b.events := by
  refine Steps.preserved (fun d => KillRecorded slot cause deathReveal d.events)
    (fun c d hstep hc => ?_) h ha
  cases hstep with
  | emit event pushed => exact hc.append _
  | kill slot cause attackers unstoppable deathReveal records fresh ok heard logged => exact hc.append _
  | merge target attacker unstoppable records logged =>
    obtain ⟨attackers, original, hmem⟩ := hc
    rcases updateFirst_keeps hmem with hkept | hmerged
    · exact ⟨attackers, original, hkept⟩
    · exact ⟨_, _, hmerged⟩
  | save saves => exact hc

end Stays

section Vote

variable {input : ResolutionInput F}

/-! ## Lynch wins -/

/-- The slot a lynch win is about. A win of the pack's rules names none. -/
def lynchWon? : InnerEvent F → Option SlotId
  | .winReached _ _ metadata => metadata.bind (·.target)
  | _ => none

/-- Some lynch-win policy of the pack applies to the slot voted out. -/
def LynchPolicyApplies (input : ResolutionInput F) (slot : SlotId) : Prop :=
  (selfLynchWin input slot).isSome = true ∨ targetLynchMatches input slot ≠ []

variable {event : InnerEvent F} {lynched slot winner : SlotId}

omit [Float64 F] in
theorem lynchWon?_of_not_win (h : event.isWinReached = false) : lynchWon? event = none := by
  cases event <;> first | rfl | exact absurd h (by simp [InnerEvent.isWinReached])

theorem lynchWon?_winReached (state : StateSnapshot F) (pack : Pack F)
    (win : AlignmentKey × String) : lynchWon? (winReached state pack win) = none := by
  unfold winReached lynchWon? survivalWinMetadata
  dsimp only
  split <;> rfl

theorem lynchWon?_selfLynchWin (h : selfLynchWin input lynched = some event) : lynchWon? event = some lynched := by
  obtain ⟨slot, -, h⟩ := Option.bind_eq_some_iff.1 h
  obtain ⟨⟨index, policy⟩, -, h⟩ := Option.bind_eq_some_iff.1 h
  obtain rfl := Option.some.inj h
  rfl

theorem targetLynchMatches_target {entry : TargetLynchWinTargetRecord × TargetLynchWinPolicy}
    (h : entry ∈ targetLynchMatches input lynched) : entry.1.target = lynched := by
  obtain ⟨record, hrecord, hentry⟩ := List.mem_filterMap.1 h
  obtain ⟨policy, -, rfl⟩ := Option.map_eq_some_iff.1 hentry
  exact eq_of_beq (List.mem_filter.1 hrecord).2

theorem mem_targetLynchWins : event ∈ targetLynchWins input lynched ↔
      ∃ entry ∈ targetLynchMatches input lynched, targetLynchWin entry.1 entry.2 = event := by
  unfold targetLynchWins
  rw [List.mem_map]
  simp only [mem_sortBy]

theorem lynchWon?_targetLynchWins (h : event ∈ targetLynchWins input lynched) : lynchWon? event = some lynched := by
  obtain ⟨entry, hentry, rfl⟩ := mem_targetLynchWins.1 h
  exact congrArg some (targetLynchMatches_target hentry)

/-- The lynch wins are about the winner of the vote, and there are some exactly if a policy applies. -/
theorem lynchWins_iff {events : List (InnerEvent F)} (hnone : hasWinReached events = false) :
    (∃ event ∈ lynchWins input winner events, lynchWon? event = some slot) ↔
      slot = winner ∧ LynchPolicyApplies input winner := by
  unfold lynchWins LynchPolicyApplies
  cases hself : selfLynchWin input winner with
  | some event =>
    have hwin : hasWinReached (events ++ [event]) = true := by
      unfold hasWinReached
      rw [List.any_append]
      simp [win_selfLynchWin hself]
    have hwon := lynchWon?_selfLynchWin hself
    simp only [Option.toList_some, hwin, if_true, List.mem_singleton, exists_eq_left, hwon,
      Option.some.injEq, Option.isSome_some, true_or, and_true]
    exact eq_comm
  | none =>
    simp only [Option.toList_none, List.append_nil, hnone, Bool.false_eq_true, if_false,
      List.nil_append, Option.isSome_none, false_or]
    constructor
    · rintro ⟨event, hevent, hwon⟩
      obtain ⟨entry, hentry, -⟩ := mem_targetLynchWins.1 hevent
      have hslot := (lynchWon?_targetLynchWins hevent).symm.trans hwon
      exact ⟨(Option.some.inj hslot).symm, List.ne_nil_of_mem hentry⟩
    · rintro ⟨rfl, happlies⟩
      obtain ⟨entry, hentry⟩ := List.exists_mem_of_ne_nil _ happlies
      have hevent := mem_targetLynchWins.2 ⟨entry, hentry, rfl⟩
      exact ⟨_, hevent, lynchWon?_targetLynchWins hevent⟩

/-! ## The vote of a day -/

/-- The state the day's vote is held in. -/
def lynchState (input : ResolutionInput F) : StateSnapshot F :=
  applyEvents input.state (dayBeforeVote input)

/-- The day's vote: the outcome, the duel, the slot vetoed, and the events until the lynch. -/
def dayBallot (input : ResolutionInput F) :
    DayVoteOutcome F × VoteDuel × Option SlotId × List (InnerEvent F) :=
  holdVote input (lynchState input) (resolveBadgeActions input).1

/-- The day's events when its lynch is settled. -/
def lynchEvents (input : ResolutionInput F) : List (InnerEvent F) :=
  (voteLynch input (resolveBadgeActions input).1 (dayBeforeVote input)).2.events

/-- The vote kills the slot: it pushes a kill event of its own for it. -/
def VoteKills (input : ResolutionInput F) (slot : SlotId) : Prop :=
  ∃ deathReveal, .playerKilled slot "day_vote" [] true deathReveal ∈
    (lynchEvents input).drop (dayBeforeVote input).length

/-- Nothing turns the lynch of the slot voted out away. -/
structure LynchStands (input : ResolutionInput F) (winner : SlotId) : Prop where
  unvetoed : (dayBallot input).2.2.1 ≠ some winner
  alive : ((lynchState input).slots.any fun slot => slot.isAlive && slot.slotId == winner) = true
  unspared : idiotSurvivesLynch input winner = false
  unconverted : saulusConversionOnLynch input (lynchState input) winner = none

theorem lynchEvents_eq (input : ResolutionInput F) : lynchEvents input = match (dayBallot input).1.winner with
      | some winner =>
        (resolveWinner input (lynchState input) (dayBallot input).2.1 (dayBallot input).1
          (dayBallot input).2.2.1 winner
          { events := dayBeforeVote input ++ (dayBallot input).2.2.2
            deaths := deathsFromEvents (dayBeforeVote input) }).events
      | none => dayBeforeVote input ++ (dayBallot input).2.2.2 := by
  show (match (dayBallot input).1.winner with
    | some winner => resolveWinner input (lynchState input) (dayBallot input).2.1
        (dayBallot input).1 (dayBallot input).2.2.1 winner
        { events := dayBeforeVote input ++ (dayBallot input).2.2.2
          deaths := deathsFromEvents (dayBeforeVote input) }
    | none => ({ events := dayBeforeVote input ++ (dayBallot input).2.2.2
                 deaths := deathsFromEvents (dayBeforeVote input) } : Lynch F)).events = _
  cases (dayBallot input).1.winner <;> rfl

theorem executeLynch_events (input : ResolutionInput F) (duel : VoteDuel)
    (outcome : DayVoteOutcome F) (lynched : SlotId) (lynch : Lynch F) :
    ∃ later, (executeLynch input duel outcome lynched lynch).events = lynch.events ++
      .playerKilled lynched "day_vote" [] true (deathRevealMode input lynched "day_vote") :: later := by
  unfold executeLynch dragAlong
  split
  · exact ⟨_, List.append_assoc _ [_] _⟩
  · rename_i dragged _
    refine ⟨lastWords input outcome lynched (lynch.events ++
      [.playerKilled lynched "day_vote" [] true (deathRevealMode input lynched "day_vote")]) ++
      [.wolfBeautyDragged lynched [dragged] input.pack.document.wolfBeauty.dragCause input.phaseId,
        .playerKilled dragged input.pack.document.wolfBeauty.dragCause [lynched] true
          (deathRevealMode input dragged input.pack.document.wolfBeauty.dragCause)], ?_⟩
    dsimp only [lynchSlot]
    rw [List.append_assoc, List.append_assoc]
    rfl

/-- A lynch that stands kills the slot. -/
theorem LynchStands.voteKills (hwinner : (dayBallot input).1.winner = some winner)
    (h : LynchStands input winner) : VoteKills input winner := by
  have hveto : ((dayBallot input).2.2.1 == some winner) = false := by simpa using h.unvetoed
  obtain ⟨later, hlater⟩ := executeLynch_events input (dayBallot input).2.1
    (dayBallot input).1 winner
    { events := dayBeforeVote input ++ (dayBallot input).2.2.2
      deaths := deathsFromEvents (dayBeforeVote input) }
  refine ⟨deathRevealMode input winner "day_vote", ?_⟩
  rw [lynchEvents_eq, hwinner]
  dsimp only
  unfold resolveWinner
  dsimp only
  rw [hveto, if_neg (by simp), h.alive, if_neg (by simp), h.unspared, if_neg (by simp), h.unconverted]
  dsimp only
  rw [hlater, List.append_assoc, List.drop_left]
  exact List.mem_append_right _ List.mem_cons_self

/-- Where the lynch is turned away, the vote pushes plain events only. -/
theorem lynchEvents_turned (hwinner : (dayBallot input).1.winner = some winner)
    (h : ¬ LynchStands input winner) :
    ∃ turned, lynchEvents input = dayBeforeVote input ++ ((dayBallot input).2.2.2 ++ turned) ∧
      ∀ event ∈ turned, Plain event := by
  rw [lynchEvents_eq, hwinner]
  dsimp only
  unfold resolveWinner
  dsimp only
  split
  · exact ⟨[], by simp, by simp⟩
  · rename_i hveto
    split
    · exact ⟨[], by simp, by simp⟩
    · rename_i halive
      split
      · refine ⟨_, List.append_assoc _ _ _, fun event hevent => ?_⟩
        simp only [List.mem_cons, List.not_mem_nil, or_false] at hevent
        rcases hevent with rfl | rfl <;> exact trivial
      · rename_i hidiot
        split
        · refine ⟨_, List.append_assoc _ _ _, fun event hevent => ?_⟩
          simp only [List.mem_cons, List.not_mem_nil, or_false] at hevent
          rcases hevent with rfl | rfl <;> exact trivial
        · rename_i hsaulus
          exact absurd ⟨by simpa using hveto, by simpa using halive, by simpa using hidiot, hsaulus⟩ h

theorem not_voteKills_of_quiet {pushed : List (InnerEvent F)}
    (heq : lynchEvents input = dayBeforeVote input ++ pushed)
    (hquiet : ∀ event ∈ pushed, event.killedSlot? = none) : ¬ VoteKills input slot := by
  rintro ⟨deathReveal, hmem⟩
  rw [heq, List.drop_left] at hmem
  exact absurd (hquiet _ hmem) (by simp [InnerEvent.killedSlot?])

theorem voteKills_iff (hwinner : (dayBallot input).1.winner = some winner) :
    VoteKills input winner ↔ LynchStands input winner := by
  refine ⟨fun hkills => Classical.byContradiction fun hturned => ?_, LynchStands.voteKills hwinner⟩
  obtain ⟨turned, heq, hplain⟩ := lynchEvents_turned hwinner hturned
  refine not_voteKills_of_quiet heq (fun event hevent => ?_) hkills
  rcases List.mem_append.1 hevent with hvote | hturned
  · exact (holdVote_body _ event hvote).2.1
  · exact (hplain event hturned).killedSlot?

/-! ## The resolution -/

/-- The lynch wins among the events of a resolution are those of its vote. -/
theorem lynchWon_events {parts : Parts F} (h : parts.Sorted) :
    (∃ event ∈ parts.events input, lynchWon? event = some slot) ↔
      ∃ event ∈ parts.wins, lynchWon? event = some slot := by
  constructor
  · rintro ⟨event, hevent, hwon⟩
    rcases List.mem_append.1 hevent with hbody | hrest
    · rw [lynchWon?_of_not_win (h.body event hbody).not_win] at hwon
      cases hwon
    · rcases List.mem_cons.1 hrest with rfl | hwin
      · cases hwon
      · exact ⟨event, hwin, hwon⟩
  · rintro ⟨event, hevent, hwon⟩
    exact ⟨event, List.mem_append_right _ (List.mem_cons_of_mem _ hevent), hwon⟩

theorem lynchWon?_wonParts {win : AlignmentKey × String} {parts : Parts F}
    (h : event ∈ (wonParts input win parts).wins) : lynchWon? event = none := by
  obtain rfl := List.mem_singleton.1 h
  split <;> exact lynchWon?_winReached _ _ _

theorem lynchWon_finalParts (input : ResolutionInput F) (slot : SlotId) :
    (∃ event ∈ (finalParts input).wins, lynchWon? event = some slot) ↔
      ∃ event ∈ (phaseParts input).wins, lynchWon? event = some slot := by
  refine Parts.finished_of
    (motive := fun parts => (∃ event ∈ parts.wins, lynchWon? event = some slot) ↔
      ∃ event ∈ (phaseParts input).wins, lynchWon? event = some slot) Iff.rfl fun hnone win => ?_
  have hwins : (phaseParts input).wins = [] := hnone
  rw [hwins]
  constructor
  · rintro ⟨event, hevent, hwon⟩
    rw [lynchWon?_wonParts hevent] at hwon
    cases hwon
  · rintro ⟨event, hevent, -⟩
    exact absurd hevent List.not_mem_nil

/-- The lynch wins a day's resolution emits are about the slot voted out, and there are some exactly if
a policy applies to it. -/
theorem lynchWon_iff {out : ResolutionOutput F} (h : resolve input = .ok out)
    (hday : input.state.phaseId.kind = .day) (slot : SlotId) :
    (∃ event ∈ out.applied.events.map (·.event), lynchWon? event = some slot) ↔
      (dayBallot input).1.winner = some slot ∧ LynchPolicyApplies input slot := by
  have hwins : ∃ body deaths, (∀ event ∈ body, Interim event) ∧ (phaseParts input).wins =
      match (dayBallot input).1.winner with
      | some winner => lynchWins input winner
          (body ++ [.phaseAnnouncement (phaseAnnouncement input deaths)])
      | none => [] := by
    have hbody := (phaseParts_sorted input).body
    unfold phaseParts at hbody ⊢
    rw [hday] at hbody ⊢
    exact ⟨_, _, hbody, rfl⟩
  obtain ⟨body, deaths, hbody, hwins⟩ := hwins
  rw [(resolve_events h).1, lynchWon_events (finalParts_sorted input), lynchWon_finalParts, hwins]
  cases (dayBallot input).1.winner with
  | none => simp
  | some winner =>
    have hnone : hasWinReached
        (body ++ [.phaseAnnouncement (phaseAnnouncement input deaths)]) = false := by
      unfold hasWinReached
      rw [List.any_eq_false]
      intro event hevent
      rcases List.mem_append.1 hevent with hbefore | hlast
      · simp [(hbody event hbefore).not_win]
      · obtain rfl := List.mem_singleton.1 hlast
        simp [InnerEvent.isWinReached]
    dsimp only
    rw [lynchWins_iff hnone, Option.some.injEq]
    constructor
    · rintro ⟨rfl, happlies⟩
      exact ⟨rfl, happlies⟩
    · rintro ⟨rfl, happlies⟩
      exact ⟨rfl, happlies⟩

/-- What the vote kills is killed in the events of the day's resolution. -/
theorem VoteKills.emitted {out : ResolutionOutput F} (h : resolve input = .ok out)
    (hday : input.state.phaseId.kind = .day) (hkills : VoteKills input slot) :
    ∃ deathReveal, KillRecorded slot "day_vote" deathReveal (out.applied.events.map (·.event)) := by
  obtain ⟨deathReveal, hmem⟩ := hkills
  refine ⟨deathReveal, ?_⟩
  let lynch := (voteLynch input (resolveBadgeActions input).1 (dayBeforeVote input)).2
  have hlynch : KillRecorded slot "day_vote" deathReveal (lynchDeaths lynch).events :=
    ⟨[], true, List.mem_of_mem_drop hmem⟩
  obtain ⟨htriggers, -, hrest⟩ := voteCascades_run (fun _ => id) (aliveOk_any input)
    (triggersOk_any _) (fun _ _ => ⟨trivial, trivial⟩) (lynchDeaths_known lynch)
  have hcascades : KillRecorded slot "day_vote" deathReveal (voteCascades input lynch).1.events :=
    (hlynch.run htriggers).run hrest
  have hphase : KillRecorded slot "day_vote" deathReveal (phaseParts input).body := by
    unfold phaseParts
    rw [hday]
    exact hcascades.extends (voteAftermath_extends input _)
  have htagged : KillRecorded slot "day_vote" deathReveal (taggedParts input).body := by
    obtain ⟨attackers, unstoppable, hphase⟩ := hphase
    exact ⟨attackers, unstoppable, List.mem_append_left _ (List.mem_append_right _ hphase)⟩
  rw [(resolve_events h).1]
  refine KillRecorded.append ?_ _
  exact Parts.finished_of (motive := fun parts => KillRecorded slot "day_vote" deathReveal parts.body)
    htagged fun _ win => htagged.run
      (winTriggers_run (fun _ => id) (triggersOk_any _) (fun _ _ => trivial) fun _ _ => trivial)

/-- **A day's resolution emits its lynch wins only with the vote's kill of the slot they are about, exactly
if the slot voted out, if any, has no lynch-win policy or nothing turns its lynch away**; and what the vote
kills is killed in the events emitted. -/
theorem lynchWins_executed {out : ResolutionOutput F} (h : resolve input = .ok out)
    (hday : input.state.phaseId.kind = .day) :
    ((∀ event ∈ out.applied.events.map (·.event), ∀ slot, lynchWon? event = some slot →
        VoteKills input slot) ↔
      ∀ winner, (dayBallot input).1.winner = some winner →
        ¬ LynchPolicyApplies input winner ∨ LynchStands input winner) ∧
    ∀ slot, VoteKills input slot → ∃ deathReveal, KillRecorded slot "day_vote" deathReveal
      (out.applied.events.map (·.event)) := by
  refine ⟨⟨fun hexecuted winner hwinner => ?_, fun hstands event hevent slot hwon => ?_⟩,
    fun slot hkills => hkills.emitted h hday⟩
  · by_cases happlies : LynchPolicyApplies input winner
    · obtain ⟨event, hevent, hwon⟩ := (lynchWon_iff h hday winner).2 ⟨hwinner, happlies⟩
      exact .inr ((voteKills_iff hwinner).1 (hexecuted event hevent winner hwon))
    · exact .inl happlies
  · obtain ⟨hwinner, happlies⟩ := (lynchWon_iff h hday slot).1 ⟨event, hevent, hwon⟩
    rcases hstands slot hwinner with hnone | hstands
    · exact absurd happlies hnone
    · exact hstands.voteKills hwinner

end Vote

/-! ## A jester spared -/

/-- A veto of the day's lynch. -/
def pardonAction : ActionTemplate Rat where
  id := "pardon"
  ability := .veto
  window := .day
  targets := .one
  constraints :=
    { maxTargets := 1, selfAllowed := false, uniqueTargets := true, roleblockable := true
      priority := 0 }

/-- A first day on which everybody votes for the jester, with these other actions. -/
def jesterDay (others : List Submission) : ResolutionInput Rat :=
  let plain := villagePack [pardonAction]
  let pack : Pack Rat :=
    { plain with
      roles := plain.roles.insert "jester" { alignment := some "jester" }
      selfLynchWinPolicies := [{ id := "jester", eligibleRoles := ["jester"], winner := "jester" }] }
  let ballot (actor : SlotId) : Submission :=
    { actionId := actor, actor, templateId := "day_vote", targets := ["j"], phaseId := .first .day
      submittedAt := 0 }
  village ⟨pack, [], .of_plain (by decide) rfl rfl⟩
    { phaseId := .first .day
      slots := [townie "a", townie "b", townie "c", goon "e",
        { townie "j" with roleKey := "jester", alignment := some "jester" }] }
    ([ballot "a", ballot "b", ballot "c", ballot "e"] ++ others)

/-- The first townie's veto. -/
def pardon : Submission :=
  { actionId := "pardon", actor := "a", templateId := "pardon", targets := ["j"]
    phaseId := .first .day, submittedAt := 1 }

/-- Without a veto the jester wins by its death. -/
theorem jesterDay_executed : ∃ out, resolve (jesterDay []) = .ok out ∧
      (∃ event ∈ out.applied.events.map (·.event), lynchWon? event = some "j") ∧
      ∀ event ∈ out.applied.events.map (·.event), ∀ slot, lynchWon? event = some slot →
        VoteKills (jesterDay []) slot := by
  have hok : (resolve (jesterDay [])).toOption.map
      (fun out => (out.applied.events.map (·.event)).filterMap lynchWon?) = some ["j"] := by
    decide +kernel
  cases hresolve : resolve (jesterDay []) with
  | error failure => exact absurd hok (by simp [hresolve, Except.toOption])
  | ok out =>
    have hwon : (out.applied.events.map (·.event)).filterMap lynchWon? = ["j"] := by
      simpa [hresolve, Except.toOption] using hok
    refine ⟨out, rfl, List.mem_filterMap.1 (hwon ▸ List.mem_singleton.2 rfl),
      (lynchWins_executed hresolve rfl).1.2 fun winner hwinner => .inr ?_⟩
    have hj : (dayBallot (jesterDay [])).1.winner = some "j" := by decide +kernel
    obtain rfl := Option.some.inj (hwinner.symm.trans hj)
    exact ⟨by decide +kernel, by decide +kernel, by decide +kernel,
      Option.isNone_iff_eq_none.1 (by decide +kernel)⟩

/-- With the veto nobody dies, and the jester wins all the same. -/
theorem vetoedJester_wins : ∃ out, resolve (jesterDay [pardon]) = .ok out ∧
      killedSlots (out.applied.events.map (·.event)) = [] ∧
      ¬ ∀ event ∈ out.applied.events.map (·.event), ∀ slot, lynchWon? event = some slot →
        ∃ deathReveal, KillRecorded slot "day_vote" deathReveal (out.applied.events.map (·.event)) := by
  have hok : (resolve (jesterDay [pardon])).toOption.map
      (fun out => (killedSlots (out.applied.events.map (·.event)),
        (out.applied.events.map (·.event)).filterMap lynchWon?)) = some ([], ["j"]) := by
    decide +kernel
  cases hresolve : resolve (jesterDay [pardon]) with
  | error failure => exact absurd hok (by simp [hresolve, Except.toOption])
  | ok out =>
    have hread : killedSlots (out.applied.events.map (·.event)) = [] ∧
        (out.applied.events.map (·.event)).filterMap lynchWon? = ["j"] := by
      simpa [hresolve, Except.toOption] using hok
    refine ⟨out, rfl, hread.1, fun hclaim => ?_⟩
    obtain ⟨event, hevent, hwon⟩ := List.mem_filterMap.1 (hread.2 ▸ List.mem_singleton.2 rfl)
    obtain ⟨deathReveal, attackers, unstoppable, hkill⟩ := hclaim event hevent "j" hwon
    have hslot : "j" ∈ killedSlots (out.applied.events.map (·.event)) :=
      List.mem_filterMap.2 ⟨_, hkill, rfl⟩
    rw [hread.1] at hslot
    exact absurd hslot List.not_mem_nil

end Fmarch.Resolver
