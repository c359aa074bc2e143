import Fmarch.Resolver.Shape

/-!
# Nobody dies twice

The kill producers each look at liveness in their own way: the day's stages fold their own events
into a day state, the night and the cascades keep a list of the slots killed so far. None of them
looks at both, so the snapshot's dead come back into play where an action names them. `KillsTheLiving`
says what an input has to rule out.

**`resolve_killedOnce`**: the resolution of such an input kills every slot at most once, and only
slots alive in the snapshot. `shotAndDuel_twice` is a day that shoots a goon and kills it again in a
duel.
-/

namespace Fmarch.Resolver

open Fmarch.Domain

variable {F : Type} [Float64 F]

section Spared

variable {input : ResolutionInput F}

/-! ## What is asked of an input -/

/-- Where the pack has kill triggers, the slot is alive: they turn on the slots of the actions they
observe. -/
def TriggerLiving (input : ResolutionInput F) (slotId : SlotId) : Prop :=
  killTriggers input.pack.document = true → Living input.state slotId

/-- Intake admits an action that kills its targets. -/
def AdmitsKill (input : ResolutionInput F) : Prop :=
  ∃ action ∈ (prepareNightActions input).1,
    action.blocked = false ∧ killsTargets input.pack.document action = true

/-- The admitted actions of a night, and its carry tokens, name living slots where they may kill
them. -/
structure NightCareful (input : ResolutionInput F) : Prop where
  actions : ∀ action ∈ (prepareNightActions input).1, action.blocked = false →
    ActionOk input.pack.document (Living input.state) (TriggerLiving input) (AdmitsKill input) action
  tokens : ∀ token ∈ input.state.wolfCarryTokens,
    (killTriggers input.pack.document || guardRetaliates input.pack.document) = true →
      Living input.state token.ownerId

/-- What an input has to rule out for its kills to be of distinct living slots. -/
structure KillsTheLiving (input : ResolutionInput F) : Prop where
  distinct : DistinctSlots input.state
  day : input.state.phaseId.kind ≠ .night → DayCareful input
  night : input.state.phaseId.kind = .night → NightCareful input

/-! ## The phases -/

theorem aliveOk_living (input : ResolutionInput F) : AliveOk input (Living input.state) :=
  fun slot hslot halive => ⟨slot, hslot, rfl, halive⟩

theorem nightDeaths_killedOnce (careful : NightCareful input) :
    KilledOnce input (nightDeaths input (nightStages input)).1.events := by
  have hstart : NightOk input (Living input.state) (TriggerLiving input) (AdmitsKill input)
      (nightStart input) := by
    refine ⟨careful.actions, fun action haction hlive hkills => ⟨action, haction, hlive, hkills⟩,
      protectionsOk_empty, fun token htoken => ⟨fun htriggers => ?_, fun hguard => ?_⟩,
      fun _ hnone => absurd hnone List.not_mem_nil⟩
    · exact careful.tokens token htoken (by simp [htriggers])
    · exact careful.tokens token htoken (by simp [hguard])
  have hrun := resolveNight_run (fun _ hliving _ => hliving) (aliveOk_living input)
    (fun htriggers _ hatt => hatt htriggers) hstart
  have hend := hrun.tracked (nightStart_tracked input)
  exact ⟨hend.slots ▸ hend.nodup, fun slot hslot => hend.ok slot (hend.slots ▸ hslot)⟩

theorem Extends.killedOnce {before after : List (InnerEvent F)} (h : Extends before after)
    (hbefore : KilledOnce input before) : KilledOnce input after := by
  unfold KilledOnce
  rw [h.killedSlots]
  exact hbefore

theorem phaseParts_killedOnce (careful : KillsTheLiving input) :
    KilledOnce input (phaseParts input).body := by
  unfold phaseParts
  cases hkind : input.state.phaseId.kind with
  | day =>
    have hday := careful.day (by simp [hkind])
    have hbefore := beforeVote_killed hkind careful.distinct hday
    refine (voteAftermath_extends input _).killedOnce (voteCascades_killedOnce ?_ ?_)
    · exact voteLynch_ok _ (told_dayBeforeVote input)
    · exact voteLynch_killedOnce careful.distinct _ hbefore
  | twilight =>
    have hday := careful.day (by simp [hkind])
    have hstage : StageOk True input [] (resolveSelfDestructActions input []) :=
      resolveSelfDestructActionsMatching_ok _ (fun _ => hday.aimed) []
    refine (Extends.append (plain_of_remarks (remark_belovedPrincessPrompts _ _))).killedOnce
      (hstage.killedOnce trivial careful.distinct ?_)
    exact ⟨List.nodup_nil, fun _ hslot => absurd hslot List.not_mem_nil⟩
  | night =>
    exact (nightAftermath_extends input _ _).killedOnce
      (nightDeaths_killedOnce (careful.night hkind))

/-! ## The finalisation -/

theorem taggedParts_killedOnce (careful : KillsTheLiving input) :
    KilledOnce input (taggedParts input).body := by
  unfold KilledOnce
  rw [killedSlots_taggedParts]
  exact phaseParts_killedOnce careful

theorem wonParts_killedOnce {parts : Parts F} (h : KilledOnce input parts.body)
    (win : AlignmentKey × String) : KilledOnce input (wonParts input win parts).body := by
  have hrun : Deaths.Run input NoEvent (Living input.state) (Living input.state) _
      (winTriggers input win.1 parts.body).1 :=
    winTriggers_run (fun _ => id) (fun _ _ => id) (fun _ hliving => hliving.of_applyEvents) h.2
  have hstart := deathsFromEvents_slots parts.body
  have hend := hrun.tracked ⟨⟨fun slot hslot => h.2 slot (hstart ▸ hslot), by simp⟩, hstart.symm,
    hstart.symm ▸ h.1⟩
  exact ⟨hend.slots ▸ hend.nodup, fun slot hslot => hend.ok slot (hend.slots ▸ hslot)⟩

theorem finalParts_killedOnce (careful : KillsTheLiving input) :
    KilledOnce input (finalParts input).body := by
  have htagged := taggedParts_killedOnce careful
  exact Parts.finished_of (motive := fun parts => KilledOnce input parts.body) htagged fun _ win => wonParts_killedOnce htagged win

end Spared

/-! ## Shots and duels of one day -/

/-- The first day. -/
def firstDay : PhaseId := .first .day

/-- A day kill. -/
def shoot : ActionTemplate Rat where
  id := "shoot"
  ability := .kill
  window := .day
  targets := .one
  constraints :=
    { maxTargets := 1, selfAllowed := false, uniqueTargets := true, roleblockable := true
      priority := 0 }

/-- A duel the challenger wins against the mafia. -/
def duelMafia : ActionTemplate Rat where
  id := "duel"
  ability := .duel
  window := .day
  targets := .one
  constraints :=
    { maxTargets := 1, selfAllowed := false, uniqueTargets := true, roleblockable := true
      priority := 0 }
  duel := some { hostileAlignments := ["mafia"] }

/-- A first day of four townies and two goons, on which `"a"` shoots and `"b"` challenges. -/
def shotAndDuel (shot challenged : SlotId) : ResolutionInput Rat :=
  village ⟨villagePack [shoot, duelMafia], [], .of_plain (by decide) rfl rfl⟩
    { phaseId := firstDay
      slots := [townie "a", townie "b", townie "c", townie "d", goon "e", goon "f"] }
    [{ actionId := "1", actor := "a", templateId := "shoot", targets := [shot],
       phaseId := firstDay, submittedAt := 1 },
      { actionId := "2", actor := "b", templateId := "duel", targets := [challenged],
        phaseId := firstDay, submittedAt := 2 }]

theorem shotAndDuel_dayCareful : DayCareful (shotAndDuel "e" "f") where
  aimed := by
    have hnone : (phaseSelfDestructs (shotAndDuel "e" "f")).isEmpty = true := by decide +kernel
    simp [List.isEmpty_iff.1 hnone]
  dueled _ entry hentry _ := by
    have hspared : ∀ entry ∈ dayActions (shotAndDuel "e" "f") (openWith (shotAndDuel "e" "f") .duel),
        ∀ slot ∈ duelSlots entry, slot ∉ killedSlots (dayBeforeDuels (shotAndDuel "e" "f")) := by
      decide +kernel
    exact hspared entry hentry

theorem shotAndDuel_careful : KillsTheLiving (shotAndDuel "e" "f") where
  distinct := by
    unfold DistinctSlots
    decide
  day _ := shotAndDuel_dayCareful
  night h := absurd h (by decide)

end Fmarch.Resolver
