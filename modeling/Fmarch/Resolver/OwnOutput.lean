import Fmarch.Resolver.Shape

/-!
# A resolution accepts its own output

Before `resolve` returns, it validates the payload it built. A payload with parts passes every check
but one by construction: the envelope counts and indexes what it holds, the investigation results are
well formed, and the announcement stands where the validator looks for it. The one check left is that
at most one win follows the announcement.

**`resolve_own_output_iff`**: `resolve` succeeds on a day exactly when the slot the vote elects sets off at
most one lynch win, and on every other phase always.
-/

namespace Fmarch.Resolver

open Fmarch.Domain Keyed StableSort

variable {F : Type} [Float64 F]

section Checks

variable {input : ResolutionInput F}

/-! ## The envelope -/

theorem misplacedEvent_wrap (input : ResolutionInput F) (inner : List (InnerEvent F)) :
    misplacedEvent (wrapResolution input inner).events = none := by
  unfold misplacedEvent wrapResolution
  rw [Option.map_eq_none_iff, List.find?_eq_none]
  rintro ⟨indexed, expected⟩ hmem
  rw [List.mem_zipIdx_iff_getElem?, List.getElem?_map, List.getElem?_zipIdx] at hmem
  obtain ⟨⟨event, index⟩, hget, rfl⟩ := Option.map_eq_some_iff.1 hmem
  obtain ⟨found, -, hpair⟩ := Option.map_eq_some_iff.1 hget
  obtain ⟨-, hindex⟩ := Prod.mk.inj hpair
  simp [← hindex]

theorem miscount_wrap (input : ResolutionInput F) (inner : List (InnerEvent F)) :
    miscount (wrapResolution input inner) = none := by
  have hcount : ∀ p : InnerEvent F → Bool,
      (wrapResolution input inner).events.countP (fun indexed => p indexed.event) = inner.countP p := by
    intro p
    have hmap := wrapResolution_events input inner
    exact List.countP_map.symm.trans (congrArg (List.countP p) hmap)
  have hlength : (wrapResolution input inner).events.length = inner.length := by
    rw [← List.length_map, wrapResolution_events]
  unfold miscount
  dsimp only
  rw [hcount, hcount, hlength]
  simp [wrapResolution]

omit [Float64 F] in
theorem validateInvestigationResults_ok {events : List (IndexedEvent F)}
    (h : ∀ indexed ∈ events, ∀ mode target actor result,
      indexed.event = .investigationResult mode actor target result →
        ∀ index, validateInvestigationResult index mode result = .ok ()) :
    validateInvestigationResults events = .ok () := by
  induction events with
  | nil => rfl
  | cons indexed events ih =>
    have hrest := ih fun other hother => h other (List.mem_cons_of_mem _ hother)
    unfold validateInvestigationResults
    split
    · rename_i mode actor target result hevent
      rw [h indexed List.mem_cons_self mode target actor result hevent]
      exact hrest
    · exact hrest

/-! ## The announcement -/

/-- Where the events satisfying `p` stand, from position `start` on. -/
def positions (p : InnerEvent F → Bool) (start : Nat) (inner : List (InnerEvent F)) : List Nat :=
  ((inner.zipIdx start).filter fun entry => p entry.1).map (·.2)

theorem eventIndexes_wrap (input : ResolutionInput F) (p : InnerEvent F → Bool)
    (inner : List (InnerEvent F)) :
    eventIndexes p (wrapResolution input inner).events = positions p 0 inner := by
  have hfrom : ∀ start, ((((inner.zipIdx start).map fun entry => (⟨entry.2, entry.1⟩ : IndexedEvent F)).zipIdx
        start).filter fun entry => p entry.1.event).map (·.2) = positions p start inner := by
    unfold positions
    induction inner with
    | nil => exact fun _ => rfl
    | cons event inner ih =>
      intro start
      have hrest := ih (start + 1)
      simp only [List.zipIdx_cons, List.map_cons, List.filter_cons]
      by_cases hp : p event = true
      · simp only [hp, if_true, List.map_cons, hrest]
      · rw [if_neg hp, if_neg hp]
        exact hrest
  exact hfrom 0

section

omit [Float64 F]

theorem positions_none {p : InnerEvent F → Bool} {inner : List (InnerEvent F)} (start : Nat)
    (h : ∀ event ∈ inner, p event = false) : positions p start inner = [] := by
  unfold positions
  rw [List.map_eq_nil_iff, List.filter_eq_nil_iff]
  intro entry hentry
  rw [h entry.1 (List.fst_mem_of_mem_zipIdx hentry)]
  simp

theorem positions_all {p : InnerEvent F → Bool} {inner : List (InnerEvent F)} (start : Nat)
    (h : ∀ event ∈ inner, p event = true) :
    positions p start inner = List.range' start inner.length := by
  unfold positions
  rw [List.filter_eq_self.2 fun entry hentry => h entry.1 (List.fst_mem_of_mem_zipIdx hentry)]
  exact List.zipIdx_map_snd ..

theorem positions_append (p : InnerEvent F → Bool) (start : Nat) (xs ys : List (InnerEvent F)) :
    positions p start (xs ++ ys) = positions p start xs ++ positions p (start + xs.length) ys := by
  unfold positions
  rw [List.zipIdx_append, List.filter_append, List.map_append]

theorem positions_cons (p : InnerEvent F → Bool) (start : Nat) (event : InnerEvent F)
    (events : List (InnerEvent F)) :
    positions p start (event :: events) =
      (if p event then [start] else []) ++ positions p (start + 1) events := by
  unfold positions
  rw [List.zipIdx_cons, List.filter_cons]
  split <;> rfl

end

variable {parts : Parts F} {deaths : List Death}

theorem Parts.Sorted.announcementIndexes (h : parts.Sorted) (input : ResolutionInput F) :
    positions (·.isPhaseAnnouncement) 0 (parts.events input) = [parts.body.length] := by
  have hwins : ∀ event ∈ parts.wins, event.isPhaseAnnouncement = false := by
    intro event hevent
    have hwin := h.wins event hevent
    cases event <;> first | rfl | exact absurd hwin (by simp [InnerEvent.isWinReached])
  unfold Parts.events
  rw [positions_append, positions_none 0 fun event hevent => (h.body event hevent).not_announcement,
    positions_cons, positions_none _ hwins]
  simp [InnerEvent.isPhaseAnnouncement]

theorem Parts.Sorted.winIndexes (h : parts.Sorted) (input : ResolutionInput F) :
    positions (·.isWinReached) 0 (parts.events input) =
      List.range' (parts.body.length + 1) parts.wins.length := by
  unfold Parts.events
  rw [positions_append, positions_none 0 fun event hevent => (h.body event hevent).not_win,
    positions_cons, positions_all _ h.wins]
  simp [InnerEvent.isWinReached]

/-! ## The announced deaths -/

/-- No death carries a blank text. -/
def Templated (deaths : List Death) : Prop :=
  ∀ death ∈ deaths, NotBlank death.templateId ∧ NotBlank death.audience

theorem not_any_isBlank {text : Option String} (h : NotBlank text) : text.any isBlank = false := by
  cases text with
  | none => rfl
  | some value => exact h value rfl

theorem blankDeathField_none (h : Templated deaths) : blankDeathField deaths = none := by
  unfold blankDeathField
  rw [List.findSome?_eq_none_iff]
  rintro ⟨death, index⟩ hmem
  obtain ⟨htemplate, haudience⟩ := h death (List.fst_mem_of_mem_zipIdx hmem)
  simp [not_any_isBlank htemplate, not_any_isBlank haudience]

theorem NotBlank.or {first second : Option String} (h : NotBlank first) (h' : NotBlank second) :
    NotBlank (first <|> second) := by
  cases first with
  | none => simpa using h'
  | some value => simpa using h

/-- The announcement's texts are the pack's. -/
theorem phaseAnnouncement_templated (input : ResolutionInput F) (h : Templated deaths) :
    let announcement := phaseAnnouncement input deaths
    NotBlank announcement.templateId ∧ NotBlank announcement.audience ∧ Templated announcement.deaths := by
  intro announcement
  have haccepted := input.pack.accepted
  have hnone : NotBlank none := by simp [NotBlank]
  by_cases happlies : (input.pack.document.dayNotes.dayDeaths.enabled && !deaths.isEmpty &&
      (input.state.phaseId.kind == .day || input.state.phaseId.kind == .twilight)) = true
  · simp only [announcement, phaseAnnouncement, dayDeathAnnouncementMetadata, happlies, if_true]
    refine ⟨haccepted.dayDeathTemplate, haccepted.dayDeathAudience, fun death hdeath => ?_⟩
    obtain ⟨original, horiginal, rfl⟩ := List.mem_map.1 hdeath
    split
    · rename_i template htemplate
      obtain ⟨hid, haudience⟩ := haccepted.dayDeathCauseTemplates _ template htemplate
      refine ⟨fun value hvalue => ?_, haudience.or haccepted.dayDeathAudience⟩
      obtain rfl := Option.some.inj hvalue
      exact hid
    · exact h original horiginal
  · simp only [announcement, phaseAnnouncement, dayDeathAnnouncementMetadata, happlies]
    exact ⟨hnone, hnone, h⟩

theorem Templated.append {deaths' : List Death} (h : Templated deaths) (h' : Templated deaths') : Templated (deaths ++ deaths') := by
  intro death hdeath
  rcases List.mem_append.1 hdeath with hold | hnew
  · exact h death hold
  · exact h' death hnew

theorem templated_of_none (h : ∀ death ∈ deaths, death.templateId = none ∧ death.audience = none) :
    Templated deaths := by
  intro death hdeath
  obtain ⟨htemplate, haudience⟩ := h death hdeath
  simp [NotBlank, htemplate, haudience]

omit [Float64 F] in
theorem deathsFromEvents_templated (events : List (InnerEvent F)) : Templated (deathsFromEvents events) := by
  refine templated_of_none fun death hdeath => ?_
  obtain ⟨event, -, hevent⟩ := List.mem_filterMap.1 hdeath
  cases event <;> simp only [reduceCtorEq, Option.some.injEq] at hevent
  subst hevent
  exact ⟨rfl, rfl⟩

theorem deathsFromRecords_templated (records : List KillRecord) : Templated (deathsFromRecords records) := by
  refine templated_of_none fun death hdeath => ?_
  obtain ⟨record, -, rfl⟩ := List.mem_map.1 hdeath
  exact ⟨rfl, rfl⟩

theorem resolveWinner_templated {voteState : StateSnapshot F} {lynch : Lynch F}
    (h : Templated lynch.deaths) (duel : VoteDuel) (outcome : DayVoteOutcome F)
    (vetoed : Option SlotId) (winner : SlotId) :
    Templated (resolveWinner input voteState duel outcome vetoed winner lynch).deaths := by
  unfold resolveWinner
  dsimp only
  split
  · exact h
  · split
    · exact h
    · split
      · exact h
      · split
        · exact h
        · have hlynched : Templated (lynchSlot input duel outcome winner lynch).deaths :=
            h.append (templated_of_none (by simp))
          unfold executeLynch dragAlong
          dsimp only
          split
          · exact hlynched
          · exact hlynched.append (templated_of_none (by simp))

theorem voteLynch_templated (badges : List (BadgeRecord F)) (events : List (InnerEvent F)) :
    Templated (voteLynch input badges events).2.deaths := by
  unfold voteLynch
  dsimp only
  split
  · exact resolveWinner_templated (deathsFromEvents_templated events) _ _ _ _
  · exact deathsFromEvents_templated events

theorem voteCascades_templated {lynch : Lynch F} (h : Templated lynch.deaths) :
    Templated (voteCascades input lynch).2.1 := by
  refine ((h.append (deathsFromRecords_templated _)).append
    (deathsFromRecords_templated _)).append (templated_of_none fun death hdeath => ?_)
  obtain ⟨slot, -, rfl⟩ := List.mem_map.1 hdeath
  exact ⟨rfl, rfl⟩

theorem phaseParts_templated (input : ResolutionInput F) : Templated (phaseParts input).deaths := by
  unfold phaseParts
  cases input.state.phaseId.kind with
  | day => exact voteCascades_templated (voteLynch_templated _ _)
  | twilight | night => exact deathsFromEvents_templated _

theorem announceNewDeaths_templated {announced : List Death} (h : Templated announced)
    (h' : Templated deaths) : Templated (announceNewDeaths announced deaths) := by
  induction deaths generalizing announced with
  | nil => exact h
  | cons death deaths ih =>
    have hrest : Templated deaths := fun other hother => h' other (List.mem_cons_of_mem _ hother)
    unfold announceNewDeaths
    split
    · exact ih h hrest
    · refine ih (h.append fun other hother => ?_) hrest
      exact List.mem_singleton.1 hother ▸ h' death List.mem_cons_self

theorem finalParts_templated (input : ResolutionInput F) : Templated (finalParts input).deaths := by
  have htagged : Templated (taggedParts input).deaths := phaseParts_templated input
  exact Parts.finished_of (motive := fun parts => Templated parts.deaths) htagged fun _ win =>
    announceNewDeaths_templated (phaseAnnouncement_templated input htagged).2.2
      (deathsFromEvents_templated _)

/-! ## The validators -/

theorem validateAnnouncement_ok (input : ResolutionInput F) (h : Templated deaths) :
    validateAnnouncement input.phaseId (phaseAnnouncement input deaths) = .ok () := by
  obtain ⟨htemplate, haudience, hdeaths⟩ := phaseAnnouncement_templated input h
  have hphase : (phaseAnnouncement input deaths).phaseId = input.phaseId := rfl
  unfold validateAnnouncement
  dsimp only
  rw [hphase, not_any_isBlank htemplate, not_any_isBlank haudience, blankDeathField_none hdeaths]
  simp

/-- The announcement stands where it is expected unless several wins follow it. -/
theorem validatePhaseAnnouncement_iff (h : parts.Sorted) (htemplated : Templated parts.deaths) :
    validatePhaseAnnouncement (wrapResolution input (parts.events input)) = .ok () ↔
      parts.wins.length ≤ 1 := by
  have hlength : (wrapResolution input (parts.events input)).events.length =
      parts.body.length + 1 + parts.wins.length := by
    rw [← List.length_map, wrapResolution_events]
    simp [Parts.events]
    omega
  have hannounced : ((wrapResolution input (parts.events input)).events[parts.body.length]?).map
      IndexedEvent.event = some (.phaseAnnouncement (phaseAnnouncement input parts.deaths)) := by
    rw [← List.getElem?_map, wrapResolution_events]
    simp [Parts.events]
  have hvalid := validateAnnouncement_ok input htemplated
  have hexpected : parts.wins.length ≤ 1 → expectedAnnouncementIndex
        (List.range' (parts.body.length + 1) parts.wins.length).head?
        (parts.body.length + 1 + parts.wins.length) = .ok parts.body.length := by
    intro hone
    unfold expectedAnnouncementIndex
    rcases Nat.le_one_iff_eq_zero_or_eq_one.1 hone with hwins | hwins
    · simp [hwins]
    · simp [hwins, List.range'_succ]
  unfold validatePhaseAnnouncement
  dsimp only
  rw [eventIndexes_wrap, h.announcementIndexes]
  dsimp only
  rw [eventIndexes_wrap, h.winIndexes, hlength, List.length_range']
  by_cases hone : parts.wins.length ≤ 1
  · rw [if_neg (by omega), hexpected hone]
    simp only [bne_self_eq_false, Bool.false_eq_true, if_false]
    rw [hannounced]
    dsimp only
    exact iff_of_true hvalid hone
  · rw [if_pos (by omega)]
    exact iff_of_false (by simp) hone

theorem Parts.Sorted.investigations (h : parts.Sorted) (input : ResolutionInput F) :
    validateInvestigationResults (wrapResolution input (parts.events input)).events = .ok () := by
  refine validateInvestigationResults_ok fun indexed hindexed mode target actor result hevent => ?_
  have hmem : indexed.event ∈ parts.events input := by
    rw [← wrapResolution_events input (parts.events input)]
    exact List.mem_map_of_mem hindexed
  rw [hevent] at hmem
  rcases List.mem_append.1 hmem with hbody | hafter
  · exact h.body _ hbody
  · rcases List.mem_cons.1 hafter with hannounced | hwin
    · cases hannounced
    · exact absurd (h.wins _ hwin) (by simp [InnerEvent.isWinReached])

theorem validateResolutionApplied_iff (hrun : input.runId.isEmpty = false) (h : parts.Sorted)
    (htemplated : Templated parts.deaths) :
    validateResolutionApplied (wrapResolution input (parts.events input)) resultVersion = .ok () ↔
      parts.wins.length ≤ 1 := by
  have hversion : (wrapResolution input (parts.events input)).resultVersion = resultVersion := rfl
  have hrunId : (wrapResolution input (parts.events input)).runId = input.runId := rfl
  have htimes : (wrapResolution input (parts.events input)).finishedAt =
      (wrapResolution input (parts.events input)).startedAt := rfl
  unfold validateResolutionApplied
  rw [hversion, hrunId, htimes, misplacedEvent_wrap, miscount_wrap, h.investigations]
  simp only [bne_self_eq_false, Bool.false_eq_true, if_false, hrun, lt_irrefl]
  exact validatePhaseAnnouncement_iff h htemplated

/-! ## The wins of a lynch -/

/-- The outcome of the day's vote. -/
def dayVoteOutcome (input : ResolutionInput F) : DayVoteOutcome F :=
  (voteLynch input (resolveBadgeActions input).1 (dayBeforeVote input)).1

/-- Electing the slot sets off one win at most: its own, or that of the one owner who aimed at it. -/
def SingleLynchWin (input : ResolutionInput F) (winner : SlotId) : Prop :=
  (selfLynchWin input winner : Option (InnerEvent F)).isSome = true ∨
    (targetLynchMatches input winner).length ≤ 1

/-- The vote of a day sets off one win at most. -/
def SettledLynch (input : ResolutionInput F) : Prop :=
  input.state.phaseId.kind = .day → ∀ winner, (dayVoteOutcome input).winner = some winner →
    SingleLynchWin input winner

theorem lynchWins_length {winner : SlotId} {events : List (InnerEvent F)} (h : hasWinReached events = false) :
    (lynchWins input winner events).length ≤ 1 ↔ SingleLynchWin input winner := by
  have hself : hasWinReached (selfLynchWin input winner : Option (InnerEvent F)).toList =
      (selfLynchWin input winner : Option (InnerEvent F)).isSome := by
    cases hwin : (selfLynchWin input winner : Option (InnerEvent F)) with
    | none => rfl
    | some win => simp [hasWinReached, win_selfLynchWin hwin]
  have hany : hasWinReached (events ++ (selfLynchWin input winner).toList) =
      (selfLynchWin input winner : Option (InnerEvent F)).isSome := by
    rw [← hself]
    unfold hasWinReached at h ⊢
    rw [List.any_append, h, Bool.false_or]
  unfold lynchWins SingleLynchWin
  dsimp only
  rw [hany]
  cases hwin : (selfLynchWin input winner : Option (InnerEvent F)) with
  | none =>
    have hlength : (targetLynchWins input winner : List (InnerEvent F)).length =
        (targetLynchMatches input winner).length := by
      unfold targetLynchWins
      rw [List.length_map, (sortBy_perm _ _).length_eq]
    simp [hlength]
  | some win => simp

theorem phaseParts_wins (input : ResolutionInput F) :
    (phaseParts input).wins.length ≤ 1 ↔ SettledLynch input := by
  have hsorted := phaseParts_sorted input
  unfold SettledLynch dayVoteOutcome
  unfold phaseParts at hsorted ⊢
  cases hkind : input.state.phaseId.kind with
  | day =>
    rw [hkind] at hsorted
    dsimp only at hsorted ⊢
    cases hwinner : (voteLynch input (resolveBadgeActions input).1 (dayBeforeVote input)).1.winner
    with
    | none => simp
    | some winner =>
      dsimp only
      rw [lynchWins_length]
      · simp
      · rw [hasWinReached, List.any_append, List.any_eq_false.2 fun event hevent => by
          simp [(hsorted.body event hevent).not_win]]
        rfl
  | twilight => simp
  | night => simp

theorem finalParts_wins (input : ResolutionInput F) :
    (finalParts input).wins.length ≤ 1 ↔ SettledLynch input := by
  have htagged : (taggedParts input).wins = (phaseParts input).wins := rfl
  rw [← phaseParts_wins, ← htagged]
  exact Parts.finished_of
    (motive := fun parts => parts.wins.length ≤ 1 ↔ (taggedParts input).wins.length ≤ 1) Iff.rfl
    fun hwins win => by simp [hwins, wonParts]

/-! ## Resolving -/

/-- What `resolve` returns once its input is valid. -/
theorem resolve_cases (hphase : input.phaseId = input.state.phaseId) (hrun : input.runId.isEmpty = false) :
    (SettledLynch input ∧ ∃ out, resolve input = .ok out) ∨
      (¬ SettledLynch input ∧ ∃ error, resolve input = .error (.error (.generatedResolution error))) := by
  obtain ⟨notes, hfinal⟩ := finalEvents_parts input
  have hiff := (validateResolutionApplied_iff hrun (finalParts_sorted input)
    (finalParts_templated input)).trans (finalParts_wins input)
  have hinput : validateInput input = .ok () := by simp [validateInput, hphase]
  have htrace : validateResolutionTrace (buildResolutionTrace
      (wrapResolution input ((finalParts input).events input)) notes) traceVersion = .ok () := by
    simp [validateResolutionTrace, buildResolutionTrace, wrapResolution, hrun]
  unfold resolve finalizeResolution
  rw [hinput, hfinal]
  dsimp only
  rw [htrace]
  cases hvalid : validateResolutionApplied
      (wrapResolution input ((finalParts input).events input)) resultVersion with
  | ok =>
    exact .inl ⟨hiff.1 hvalid, _, rfl⟩
  | error error =>
    refine .inr ⟨fun hsettled => ?_, error, rfl⟩
    exact absurd (hvalid.symm.trans (hiff.2 hsettled)) (by simp)

/-- `resolve` never fails on what it generated exactly when the day's vote, if any, sets off one win
at most. -/
theorem resolve_own_output_iff (hphase : input.phaseId = input.state.phaseId)
    (hrun : input.runId.isEmpty = false) :
    ((∀ error, resolve input ≠ .error (.error (.generatedResolution error))) ∧
        (∀ error, resolve input ≠ .error (.error (.generatedTrace error))) ∧
        resolve input ≠ .error .announcementMissing) ↔
      SettledLynch input := by
  rcases resolve_cases hphase hrun with ⟨hsettled, out, hout⟩ | ⟨hunsettled, error, hfailed⟩
  · refine iff_of_true ?_ hsettled
    rw [hout]
    simp
  · exact iff_of_false (fun h => h.1 error hfailed) hunsettled

end Checks

/-! ## Two executioners -/

/-- An executioner aims at the slot whose lynch it wins by. -/
def aim : ActionTemplate Rat where
  id := "aim"
  ability := .mark
  window := .night
  targets := .one
  constraints :=
    { maxTargets := 1, selfAllowed := false, uniqueTargets := true, roleblockable := true
      priority := 0 }
  effect := some "execution_target"

/-- The village pack with executioners. -/
def executionerPack : Pack Rat :=
  { villagePack [] with
    roles := (villagePack []).roles.insert "executioner"
      { alignment := some "neutral", actions := [aim] }
    targetLynchWinPolicies :=
      [{ id := "executioner", targetEffect := "execution_target", eligibleRoles := ["executioner"]
         winner := "neutral" }] }

/-- An executioner's target record. -/
def aimed (owner target : SlotId) : TargetLynchWinTargetRecord where
  policy := "executioner"
  owner
  target
  effect := "execution_target"
  sourceAction := "aim"
  phaseId := .first .night

/-- The second day: everybody votes for `"a"`, who the executioner `"x"` aimed at in the night. -/
def lynchOfA (aimOfY : SlotId) : ResolutionInput Rat :=
  let day : PhaseId := .second .day
  village ⟨executionerPack, [.mark], .of_plain (by decide) rfl rfl⟩
    { phaseId := day
      slots :=
        [townie "a", townie "b", townie "c", goon "g",
          { slotId := "x", roleKey := "executioner", alignment := some "neutral" },
          { slotId := "y", roleKey := "executioner", alignment := some "neutral" }]
      targetLynchWinTargets := [aimed "x" "a", aimed "y" aimOfY] }
    (["b", "c", "g", "x", "y"].map fun voter =>
      { actionId := voter, actor := voter, templateId := "day_vote", targets := ["a"],
        phaseId := day, submittedAt := 1 })

/-- One executioner's target is lynched. -/
theorem lynchOfA_own_output :
    (∀ error, resolve (lynchOfA "b") ≠ .error (.error (.generatedResolution error))) ∧
      (∀ error, resolve (lynchOfA "b") ≠ .error (.error (.generatedTrace error))) ∧
      resolve (lynchOfA "b") ≠ .error .announcementMissing := by
  refine (resolve_own_output_iff rfl (by decide)).2 fun _ winner hwinner => .inr ?_
  have helected : (dayVoteOutcome (lynchOfA "b")).winner = some "a" := by decide +kernel
  obtain rfl : "a" = winner := Option.some.inj (helected.symm.trans hwinner)
  decide +kernel

/-- The error of a resolution about the payload it generated. -/
def generatedError {α : Type} : Except ResolveFailure α → Option ResultValidationError
  | .error (.error (.generatedResolution error)) => some error
  | _ => none

/-- Both executioners aimed at the slot lynched, and the resolution rejects their two wins. -/
theorem lynchOfA_rejected : (lynchOfA "a").phaseId = (lynchOfA "a").state.phaseId ∧
      (lynchOfA "a").runId.isEmpty = false ∧
      ∃ error, resolve (lynchOfA "a") = .error (.error (.generatedResolution error)) := by
  refine ⟨rfl, by decide, ?_⟩
  have hfailed : generatedError (resolve (lynchOfA "a")) = some (.phaseAnnouncementInvariant
      "expected at most one trailing WinReached, found 2") := by
    decide +kernel
  unfold generatedError at hfailed
  split at hfailed
  · exact ⟨_, by assumption⟩
  · cases hfailed

end Fmarch.Resolver
