import Fmarch.Resolver.DayRuns

/-!
# The vote is a run

The lynch kills a slot alive in the vote's own state, everybody a lynch observation names was alive
before the day, and the cascades after it are a run of the working state, which is how the day's kills
stay accounted for to its end.

**`voteCascades_killedOnce`**: if nobody died twice before the vote, nobody does by its end.
-/

namespace Fmarch.Resolver

open Fmarch.Domain Keyed StableSort

variable {F : Type} [Float64 F]

/-- An event of a day up to its announcement. The challengers of vote duels are `Ok`. -/
def VoteBody (Ok : SlotId → Prop) : InnerEvent F → Prop
  | .voteDuelDeclared challenger .. => Ok challenger
  | event => Body event

omit [Float64 F] in
theorem Body.voteBody {Ok : SlotId → Prop} {event : InnerEvent F} (h : Body event) : VoteBody Ok event := by
  cases event <;> first | exact h | exact absurd h id

section Runs

open Relation

variable {input : ResolutionInput F} {voteState : StateSnapshot F}

/-! ## Voters -/

theorem living_of_voteWeights {pack : Pack F} {badges : List (BadgeRecord F)} {slotId : SlotId}
    (h : (voteWeights pack voteState badges).contains slotId = true) : Living voteState slotId := by
  unfold voteWeights at h
  dsimp only at h
  rw [Std.TreeMap.contains_insertMany_list] at h
  simp only [Std.TreeMap.contains_emptyc, Bool.false_or, List.contains_iff_mem, List.mem_map] at h
  obtain ⟨_, ⟨slot, hslot, rfl⟩, rfl⟩ := h
  obtain ⟨hmem, halive⟩ := List.mem_filter.1 hslot
  exact ⟨slot, hmem, rfl, halive⟩

/-- Every voter has a weight. -/
def VotersWeighed (rules : VoteRules F) (votes : BTreeMap SlotId SlotId) : Prop :=
  ∀ voter, voter ∈ votes → rules.weights.contains voter = true

variable {rules : VoteRules F} {votes : BTreeMap SlotId SlotId} {lynched : SlotId}
   {events : List (InnerEvent F)} {lynch : Lynch F}

theorem VotersWeighed.retainDuel (h : VotersWeighed rules votes) (duel : VoteDuel) :
    VotersWeighed rules (retainDuel duel votes) :=
  fun voter hvoter => h voter (Std.TreeMap.mem_of_mem_filter hvoter)

theorem castBallot_weighed (h : VotersWeighed rules votes) (sub : Submission) :
    VotersWeighed rules (castBallot rules votes sub).1 := by
  unfold castBallot
  split
  · exact fun voter hvoter => h voter (Std.TreeMap.mem_of_mem_erase hvoter)
  · split
    · exact h
    · rename_i hweighed
      split
      · exact h
      · rename_i target _ _
        split
        · exact h
        · have hcast : VotersWeighed rules (votes.insert sub.actor target) := by
            intro voter hvoter
            rcases Std.TreeMap.mem_insert.1 hvoter with heq | hold
            · obtain rfl := Std.LawfulEqOrd.eq_of_compare heq
              simpa using hweighed
            · exact h voter hold
          dsimp only
          split
          · exact hcast
          · split
            · rename_i counted hcounted
              unfold hammerVotes at hcounted
              dsimp only at hcounted
              cases hmajority : rules.majority with
              | none => simp [hmajority] at hcounted
              | some base =>
                simp only [hmajority, Option.bind_eq_bind, Option.bind_some] at hcounted
                split_ifs at hcounted
                all_goals
                  obtain rfl := Option.some.inj hcounted
                  exact hcast.retainDuel rules.duel
            · exact hcast

theorem castBallots_weighed (subs : List Submission) (h : VotersWeighed rules votes)
    (history : List (BTreeMap SlotId F)) :
    VotersWeighed rules (castBallots rules subs votes history).1 := by
  induction subs generalizing votes history with
  | nil => exact h
  | cons sub subs ih =>
    unfold castBallots
    dsimp only
    split
    · exact castBallot_weighed h sub
    · exact ih (castBallot_weighed h sub) _

/-- Whoever votes is alive in the vote state. -/
theorem living_of_vote (input : ResolutionInput F) (badges : List (BadgeRecord F))
    (duel : VoteDuel) {voter : SlotId}
    (h : voter ∈ (countVotes input voteState badges duel).votes) : Living voteState voter := by
  have hstart : VotersWeighed (voteRules input voteState badges duel) ∅ :=
    fun voter hvoter => absurd hvoter (by simp)
  have hcast := castBallots_weighed (dayVotes input) hstart []
  have hvotes : VotersWeighed (voteRules input voteState badges duel)
      (countVotes input voteState badges duel).votes := by
    unfold countVotes
    dsimp only
    split
    · exact hcast
    · exact hcast.retainDuel duel
  exact living_of_voteWeights (hvotes voter h)

/-- The actor a lynch names is the slot lynched or somebody who voted for it. -/
theorem executionActor_living {badges : List (BadgeRecord F)} {duel : VoteDuel}
    (hlynched : Living voteState lynched) (ordered : List Submission) :
    Living voteState (executionActor (countVotes input voteState badges duel).votes ordered lynched) := by
  unfold executionActor
  split
  · rename_i sub hfind
    have hvote := List.find?_some hfind
    simp only [Bool.and_eq_true, beq_iff_eq] at hvote
    refine living_of_vote input badges duel ?_
    rw [Std.TreeMap.mem_iff_isSome_getElem?, hvote.2]
    rfl
  · exact hlynched

/-! ## Until the lynch -/

omit [Float64 F] in
theorem living_of_livingSlot? {slotId : SlotId} {slot : SlotState}
    (h : livingSlot? voteState slotId = some slot) : Living voteState slot.slotId := by
  have hfound := List.find?_some h
  simp only [Bool.and_eq_true] at hfound
  exact ⟨slot, List.mem_of_find?_eq_some h, rfl, hfound.2⟩

theorem resolveVoteDuelAction_body : ∀ event ∈ (resolveVoteDuelAction input voteState).2,
      VoteBody (Living voteState) event ∧ event.killedSlot? = none ∧ Heard input event := by
  intro event hevent
  unfold resolveVoteDuelAction at hevent
  split at hevent
  · exact absurd hevent List.not_mem_nil
  · dsimp only at hevent
    split at hevent
    · rename_i duel declared hfound
      obtain rfl := List.mem_singleton.1 hevent
      obtain ⟨sub, -, hdeclared⟩ := List.exists_of_findSome?_eq_some hfound
      unfold declareVoteDuel at hdeclared
      obtain ⟨target, -, hdeclared⟩ := Option.bind_eq_some_iff.1 hdeclared
      split at hdeclared
      · cases hdeclared
      · obtain ⟨actorSlot, hactor, hdeclared⟩ := Option.bind_eq_some_iff.1 hdeclared
        obtain ⟨targetSlot, -, hdeclared⟩ := Option.bind_eq_some_iff.1 hdeclared
        obtain ⟨-, rfl⟩ := Prod.mk.inj (Option.some.inj hdeclared)
        exact ⟨living_of_livingSlot? hactor, rfl, trivial⟩
    · exact absurd hevent List.not_mem_nil

theorem remark_vetoLoop (winner : SlotId) (entries : List (Submission × ActionTemplate F)) :
    ∀ event ∈ (vetoLoop input voteState winner entries).2, Remark event := by
  induction entries with
  | nil => simp [vetoLoop]
  | cons entry entries ih =>
    obtain ⟨sub, template⟩ := entry
    have hskip : ∀ reason, ∀ event ∈ .actionInterfered sub.actor reason ::
        (vetoLoop input voteState winner entries).2, Remark event := by
      intro reason event hevent
      rcases List.mem_cons.1 hevent with rfl | hrest
      · exact trivial
      · exact ih event hrest
    unfold vetoLoop
    dsimp only
    split
    · exact ih
    · split
      · exact hskip _
      · split
        · exact hskip _
        · split
          · exact hskip _
          · intro event hevent
            rcases List.mem_append.1 hevent with huse | hnew
            · exact remark_limitedUse input sub template event huse
            · exact List.mem_singleton.1 hnew ▸ trivial

theorem remark_resolveVoteVetoAction (outcome : DayVoteOutcome F) :
    ∀ event ∈ (resolveVoteVetoAction input voteState outcome).2, Remark event := by
  unfold resolveVoteVetoAction
  split
  · simp
  · split
    · simp
    · split
      · simp
      · exact remark_vetoLoop _ _

/-- The vote until its lynch kills nobody; the challengers it declares are alive. -/
theorem holdVote_body (badges : List (BadgeRecord F)) : ∀ event ∈ (holdVote input voteState badges).2.2.2,
      VoteBody (Living voteState) event ∧ event.killedSlot? = none ∧ Heard input event := by
  have hremark : ∀ {event : InnerEvent F}, Remark event →
      VoteBody (Living voteState) event ∧ event.killedSlot? = none ∧ Heard input event :=
    fun h => ⟨h.plain.body.voteBody, h.plain.killedSlot?, h.heard⟩
  intro event hevent
  unfold holdVote at hevent
  dsimp only at hevent
  simp only [List.append_assoc, List.mem_append, List.mem_cons] at hevent
  rcases hevent with hduel | hrecorded | (rfl | hveto) | hprompt
  · exact resolveVoteDuelAction_body event hduel
  · obtain ⟨entry, -, rfl⟩ := List.mem_map.1 hrecorded
    exact hremark trivial
  · exact hremark trivial
  · exact hremark (remark_resolveVoteVetoAction _ event hveto)
  · obtain ⟨policy, -, rfl⟩ := List.mem_map.1 hprompt
    exact hremark trivial

/-! ## The lynch -/

/-- The lynch's own bookkeeping: its deaths are those of its kill events, and its frontier names
slots that were alive. -/
structure LynchOk (input : ResolutionInput F) (lynch : Lynch F) : Prop where
  body : ∀ event ∈ lynch.events, VoteBody (Living input.state) event
  heard : ∀ event ∈ lynch.events, Heard input event
  deaths : killedSlots lynch.events = lynch.deaths.map (·.slotId)
  frontier : ObservationsOk (Living input.state) lynch.frontier

theorem KilledOnce.append_plain {before : List (InnerEvent F)} (h : KilledOnce input before)
    (hevents : killedSlots events = []) : KilledOnce input (before ++ events) := by
  unfold KilledOnce
  rw [killedSlots_append, hevents, List.append_nil]
  exact h

/-- One more kill, of a slot the fold of the events so far shows alive. -/
theorem KilledOnce.kill (distinct : DistinctSlots input.state) {before : List (InnerEvent F)}
    (h : KilledOnce input before) {slot : SlotId} (hevents : killedSlots events = [slot])
    (hliving : Living (applyEvents input.state before) slot) :
    KilledOnce input (before ++ events) := by
  obtain ⟨hinput, hspared⟩ := living_applyEvents distinct hliving
  unfold KilledOnce
  rw [killedSlots_append, hevents, List.nodup_append]
  refine ⟨⟨h.1, List.nodup_singleton slot, fun old hold new hnew heq => ?_⟩, fun other hother => ?_⟩
  · exact hspared (List.mem_singleton.1 hnew ▸ heq ▸ hold)
  · rcases List.mem_append.1 hother with hold | hnew
    · exact h.2 other hold
    · exact List.mem_singleton.1 hnew ▸ hinput

theorem wolfBeautyDragged_living {beauty : SlotId} {cause : String} {deaths : List Death}
    {dragged : SlotId} (h : wolfBeautyDragged input beauty cause events deaths = some dragged) :
    Living (applyEvents input.state events) dragged := by
  unfold wolfBeautyDragged at h
  dsimp only at h
  split at h
  · cases h
  · obtain ⟨role, -, h⟩ := Option.bind_eq_some_iff.1 h
    split at h
    · cases h
    · obtain ⟨mark, -, h⟩ := Option.bind_eq_some_iff.1 h
      obtain ⟨slot, hslot, h⟩ := Option.bind_eq_some_iff.1 h
      split at h
      · cases h
      · rename_i halive
        obtain rfl := Option.some.inj h
        obtain ⟨hmem, hid⟩ := slot?_some hslot
        simp only [Bool.or_eq_true, Bool.not_eq_true', not_or, Bool.not_eq_false] at halive
        exact ⟨slot, hmem, hid, halive.1⟩

theorem remark_lastWords (outcome : DayVoteOutcome F) (killed : SlotId)
    (events : List (InnerEvent F)) : ∀ event ∈ lastWords input outcome killed events, Remark event := by
  intro event hevent
  unfold lastWords at hevent
  dsimp only at hevent
  split at hevent
  · exact absurd hevent List.not_mem_nil
  · exact List.mem_singleton.1 hevent ▸ trivial

/-- The instigator of the duel a lynched slot was in was alive. -/
theorem voteDuelInstigator_living (hevents : ∀ event ∈ events, VoteBody (Living input.state) event)
    {killed challenger : SlotId} {sourceAction : String}
    (h : voteDuelInstigatorForTarget events killed = some (challenger, sourceAction)) :
    Living input.state challenger := by
  unfold voteDuelInstigatorForTarget at h
  obtain ⟨event, hmem, hfound⟩ := List.exists_of_findSome?_eq_some h
  split at hfound
  · split at hfound
    · obtain ⟨rfl, rfl⟩ := Prod.mk.inj (Option.some.inj hfound)
      exact hevents _ (List.mem_reverse.1 hmem)
    · cases hfound
  · cases hfound

theorem LynchOk.append_remarks (h : LynchOk input lynch) (hevents : ∀ event ∈ events, Remark event) :
    LynchOk input { lynch with events := lynch.events ++ events } where
  body event hevent := by
    rcases List.mem_append.1 hevent with hold | hnew
    · exact h.body event hold
    · exact (hevents event hnew).plain.body.voteBody
  heard event hevent := by
    rcases List.mem_append.1 hevent with hold | hnew
    · exact h.heard event hold
    · exact (hevents event hnew).heard
  deaths := by
    simp only [killedSlots_append, killedSlots_plain (plain_of_remarks hevents), List.append_nil, h.deaths]
  frontier := h.frontier

theorem lynchSlot_ok (h : LynchOk input lynch) (duel : VoteDuel) {outcome : DayVoteOutcome F}
    (hlynched : Living input.state lynched)
    (hactor : Living input.state (executionActor outcome.votes (dayVotes input) lynched)) :
    LynchOk input (lynchSlot input duel outcome lynched lynch) := by
  have hkilled : ∀ event ∈ lynch.events ++
      [.playerKilled lynched "day_vote" [] true (deathRevealMode input lynched "day_vote")],
      VoteBody (Living input.state) event ∧ Heard input event := by
    intro event hevent
    rcases List.mem_append.1 hevent with hold | hnew
    · exact ⟨h.body event hold, h.heard event hold⟩
    · exact List.mem_singleton.1 hnew ▸ ⟨trivial, rfl⟩
  have hevents : ∀ event ∈ (lynchSlot input duel outcome lynched lynch).events,
      VoteBody (Living input.state) event ∧ Heard input event := by
    intro event hevent
    rcases List.mem_append.1 hevent with hold | hnew
    · exact hkilled event hold
    · have hremark := remark_lastWords outcome lynched _ event hnew
      exact ⟨hremark.plain.body.voteBody, hremark.heard⟩
  refine ⟨fun event hevent => (hevents event hevent).1, fun event hevent => (hevents event hevent).2, ?_,
    fun observation hobservation => ?_⟩
  · unfold lynchSlot
    dsimp only
    rw [killedSlots_append, killedSlots_append,
      killedSlots_plain (plain_of_remarks (remark_lastWords _ _ _)), h.deaths]
    simp [killedSlots, InnerEvent.killedSlot?]
  · rcases List.mem_append.1 hobservation with hobservation | hduel
    · rcases List.mem_append.1 hobservation with hold | hnew
      · exact h.frontier observation hold
      · simp only [lynchObservations, List.mem_cons, List.not_mem_nil, or_false] at hnew
        rcases hnew with rfl | rfl <;> exact ⟨hlynched, hactor⟩
    · unfold voteDuelObservations at hduel
      split at hduel
      · rename_i challenger sourceAction hinstigator
        obtain ⟨-, -, hinstigator⟩ := Option.bind_eq_some_iff.1 hinstigator
        obtain rfl := List.mem_singleton.1 hduel
        exact ⟨hlynched, voteDuelInstigator_living (fun event hevent => (hkilled event hevent).1) hinstigator⟩
      · exact absurd hduel List.not_mem_nil

theorem lynchSlot_killedOnce (distinct : DistinctSlots input.state)
    (h : KilledOnce input lynch.events) (duel : VoteDuel) (outcome : DayVoteOutcome F)
    (hlynched : Living (applyEvents input.state lynch.events) lynched) :
    KilledOnce input (lynchSlot input duel outcome lynched lynch).events :=
  (h.kill distinct rfl hlynched).append_plain (killedSlots_plain (plain_of_remarks (remark_lastWords _ _ _)))

theorem dragAlong_ok (h : LynchOk input lynch) (lynched : SlotId) :
    LynchOk input (dragAlong input lynched lynch) := by
  unfold dragAlong
  split
  · exact h
  · refine ⟨fun event hevent => ?_, fun event hevent => ?_, ?_, h.frontier⟩
    · rcases List.mem_append.1 hevent with hold | hnew
      · exact h.body event hold
      · simp only [List.mem_cons, List.not_mem_nil, or_false] at hnew
        rcases hnew with rfl | rfl <;> exact trivial
    · rcases List.mem_append.1 hevent with hold | hnew
      · exact h.heard event hold
      · simp only [List.mem_cons, List.not_mem_nil, or_false] at hnew
        rcases hnew with rfl | rfl
        · exact trivial
        · exact rfl
    · dsimp only
      rw [killedSlots_append, h.deaths, List.map_append]
      rfl

theorem dragAlong_killedOnce (distinct : DistinctSlots input.state)
    (h : KilledOnce input lynch.events) (lynched : SlotId) :
    KilledOnce input (dragAlong input lynched lynch).events := by
  unfold dragAlong
  split
  · exact h
  · rename_i dragged hdragged
    exact h.kill distinct rfl (wolfBeautyDragged_living hdragged)

/-! ## Its winner -/

theorem resolveWinner_ok (h : LynchOk input lynch) (duel : VoteDuel) {outcome : DayVoteOutcome F}
    (vetoed : Option SlotId) {winner : SlotId}
    (hvoters : Living voteState winner → Living input.state winner ∧ Living input.state (executionActor outcome.votes (dayVotes input) winner)) :
    LynchOk input (resolveWinner input voteState duel outcome vetoed winner lynch) := by
  unfold resolveWinner
  dsimp only
  split
  · exact h
  · split
    · exact h
    · rename_i halive
      have hwinner : Living voteState winner := by
        simpa [Living, and_comm] using halive
      split
      · refine h.append_remarks fun event hevent => ?_
        simp only [List.mem_cons, List.not_mem_nil, or_false] at hevent
        rcases hevent with rfl | rfl <;> exact trivial
      · split
        · refine h.append_remarks fun event hevent => ?_
          simp only [List.mem_cons, List.not_mem_nil, or_false] at hevent
          rcases hevent with rfl | rfl <;> exact trivial
        · obtain ⟨hlynched, hactor⟩ := hvoters hwinner
          exact dragAlong_ok (lynchSlot_ok h duel hlynched hactor) winner

theorem resolveWinner_killedOnce (distinct : DistinctSlots input.state)
    (h : KilledOnce input lynch.events) (duel : VoteDuel) (outcome : DayVoteOutcome F)
    (vetoed : Option SlotId) {winner : SlotId}
    (hliving : Living voteState winner → Living (applyEvents input.state lynch.events) winner) :
    KilledOnce input (resolveWinner input voteState duel outcome vetoed winner lynch).events := by
  unfold resolveWinner
  dsimp only
  split
  · exact h
  · split
    · exact h
    · rename_i halive
      have hwinner : Living voteState winner := by
        simpa [Living, and_comm] using halive
      split
      · exact h.append_plain rfl
      · split
        · exact h.append_plain rfl
        · exact dragAlong_killedOnce distinct
            (lynchSlot_killedOnce distinct h duel outcome (hliving hwinner)) winner

/-! ## The vote up to its cascades -/

section

omit [Float64 F]

theorem killedSlots_eq_nil (h : ∀ event ∈ events, event.killedSlot? = none) : killedSlots events = [] :=
  List.filterMap_eq_nil_iff.2 h

theorem deathsFromEvents_slots (events : List (InnerEvent F)) :
    (deathsFromEvents events).map (·.slotId) = killedSlots events := by
  unfold deathsFromEvents killedSlots
  rw [List.map_filterMap]
  congr 1
  funext event
  cases event <;> rfl

theorem VoteBody.imp {Ok Ok' : SlotId → Prop} (himp : ∀ slot, Ok slot → Ok' slot)
    {event : InnerEvent F} (h : VoteBody Ok event) : VoteBody Ok' event := by
  cases event with
  | voteDuelDeclared challenger => exact himp challenger h
  | _ => exact h

end

theorem voteLynch_ok (badges : List (BadgeRecord F)) (hevents : ∀ event ∈ events, Told input event) :
    LynchOk input (voteLynch input badges events).2 := by
  have hvote : ∀ event ∈ (holdVote input (applyEvents input.state events) badges).2.2.2,
      VoteBody (Living (applyEvents input.state events)) event ∧ event.killedSlot? = none ∧ Heard input event :=
    holdVote_body badges
  have hstart : LynchOk input
      { events := events ++ (holdVote input (applyEvents input.state events) badges).2.2.2
        deaths := deathsFromEvents events } := by
    refine ⟨fun event hevent => ?_, fun event hevent => ?_, ?_, fun _ hnone => absurd hnone List.not_mem_nil⟩
    · rcases List.mem_append.1 hevent with hold | hnew
      · exact (hevents event hold).1.voteBody
      · exact (hvote event hnew).1.imp fun _ => Living.of_applyEvents
    · rcases List.mem_append.1 hevent with hold | hnew
      · exact (hevents event hold).2
      · exact (hvote event hnew).2.2
    · dsimp only
      rw [killedSlots_append, killedSlots_eq_nil fun event hevent => (hvote event hevent).2.1,
        List.append_nil, deathsFromEvents_slots]
  unfold voteLynch
  dsimp only
  split
  · refine resolveWinner_ok hstart _ _ fun hwinner => ?_
    exact ⟨hwinner.of_applyEvents, (executionActor_living hwinner _).of_applyEvents⟩
  · exact hstart

theorem voteLynch_killedOnce (distinct : DistinctSlots input.state) (badges : List (BadgeRecord F))
    (h : KilledOnce input events) :
    KilledOnce input (voteLynch input badges events).2.events := by
  have hvote : ∀ event ∈ (holdVote input (applyEvents input.state events) badges).2.2.2,
      event.killedSlot? = none := fun event hevent => (holdVote_body badges event hevent).2.1
  have hstart := h.append_plain (killedSlots_eq_nil hvote)
  unfold voteLynch
  dsimp only
  split
  · refine resolveWinner_killedOnce distinct hstart _ _ _ fun hwinner => ?_
    rw [applyEvents_append]
    exact hwinner.applyEvents hvote
  · exact hstart

/-! ## The cascades -/

/-- The vote's cascades are runs of the working state the lynch leaves, its log apart. -/
theorem voteCascades_run {Ok Att : SlotId → Prop} (okAtt : ∀ slot, Ok slot → Att slot)
    (aliveOk : AliveOk input Ok) (htriggers : TriggersOk input.pack.document Ok Att)
    (hfrontier : ObservationsOk Att lynch.frontier) (hd : (lynchDeaths lynch).Known Ok Att) :
    let triggered := (voteTriggers input lynch).1
    let logged := { triggered with log := triggered.log ++ (voteTriggers input lynch).2.1 }
    Deaths.Run input NoEvent Ok Att (lynchDeaths lynch) triggered ∧ logged.Known Ok Att ∧
      Deaths.Run input NoEvent Ok Att logged (voteCascades input lynch).1 := by
  intro triggered logged
  have hobserved : ObservationsOk Att
      (lynch.frontier ++ phaseEndObservations input (lynch.deaths.map (·.slotId))) := by
    intro observation hobservation
    rcases List.mem_append.1 hobservation with hlynch | hend
    · exact hfrontier observation hlynch
    · exact phaseEndObservations_ok (fun slot hslot halive => okAtt _ (aliveOk slot hslot halive))
        _ observation hend
  have hprotections : ProtectionsOk input.pack.document NoEvent Ok Att ∅ := protectionsOk_empty
  have hrun : Deaths.Run input NoEvent Ok Att (lynchDeaths lynch) (voteTriggers input lynch).1 :=
    triggerLoop_run okAtt hprotections htriggers (fun h => absurd h (by simp)) _ hobserved hd
  have hproduced : ∀ record ∈ (voteTriggers input lynch).2.1,
      record.target ∈ (voteTriggers input lynch).1.killed ∧ Att record.attacker :=
    triggerLoop_produced okAtt hprotections htriggers (fun h => absurd h (by simp)) _ hobserved hd
  have htriggered := hrun.known hd
  have hlogged : logged.Known Ok Att := by
    refine ⟨htriggered.ok, fun record hrecord => ?_⟩
    rcases List.mem_append.1 hrecord with hold | hnew
    · exact htriggered.logged record hold
    · exact hproduced record hnew
  have hretaliated := applyChosenRetaliations_run okAtt aliveOk hprotections hlogged.ok
  exact ⟨hrun, hlogged, hretaliated.trans (applyLoverSuicides_run okAtt aliveOk (hretaliated.ok hlogged.ok))⟩

/-- Nobody dies twice in the cascades of a vote in which nobody died twice. -/
theorem voteCascades_killedOnce (h : LynchOk input lynch) (hkilled : KilledOnce input lynch.events) :
    KilledOnce input (voteCascades input lynch).1.events := by
  have aliveOk : AliveOk input (Living input.state) :=
    fun slot hslot halive => ⟨slot, hslot, rfl, halive⟩
  have hslots : killedSlots (lynchDeaths lynch).events = (lynchDeaths lynch).killed := h.deaths
  have hstart : (lynchDeaths lynch).Tracked (Living input.state) (Living input.state) := by
    have hok : ∀ slot ∈ (lynchDeaths lynch).killed, Living input.state slot :=
      fun slot hslot => hkilled.2 slot (hslots ▸ hslot)
    refine ⟨⟨hok, fun record hrecord => ?_⟩, hslots, hslots ▸ hkilled.1⟩
    obtain ⟨death, hdeath, rfl⟩ := List.mem_map.1 hrecord
    have hmem : death.slotId ∈ (lynchDeaths lynch).killed := List.mem_map_of_mem hdeath
    exact ⟨hmem, hok _ hmem⟩
  obtain ⟨hrun, hlogged, hrest⟩ :=
    voteCascades_run (fun _ => id) aliveOk (fun _ _ => id) h.frontier hstart.toKnown
  have htriggered := hrun.tracked hstart
  have hend := hrest.tracked { hlogged with slots := htriggered.slots, nodup := htriggered.nodup }
  exact ⟨hend.slots ▸ hend.nodup, fun slot hslot => hend.ok slot (hend.slots ▸ hslot)⟩

end Runs

end Fmarch.Resolver
