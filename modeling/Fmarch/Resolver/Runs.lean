import Fmarch.Domain.Validate
import Fmarch.Lib.Steps
import Fmarch.Resolver.Kill

/-!
# What a kill function may do

Every function of `Kill.lean` threads the same working state. `Deaths.Step` says once what any of
them may do to it: push a quiet event, kill a slot not killed before, or merge an attribution into a
kill already there. Each function's lemma is that it is a run of such steps; what holds of every
resolution is derived from the steps alone.

**`Deaths.Run.tracked`**: a run keeps the kill events, the killed list and the kill log in
agreement, and kills nobody twice.
-/

namespace Fmarch.Resolver

open Fmarch.Domain Keyed StableSort

variable {F : Type} [Float64 F]

/-! ## Steps and runs -/

/-- An event a stage may push before the announcement: no announcement, no win, no status tag, which only
the finalisation sets, no vote duel, which only the vote declares, and no investigation result its
validator rejects. What is remembered of an investigation is a label. -/
def Body : InnerEvent F → Prop
  | .phaseAnnouncement _ => False
  | .slotStatusTagged .. => False
  | .winReached .. => False
  | .voteDuelDeclared .. => False
  | .investigationResult mode _ _ result =>
    ∀ index, validateInvestigationResult index mode result = .ok ()
  | .investigationMemoryRecorded _ _ _ _ result _ _ _ => ∃ label, result = .label label
  | _ => True

/-- Such an event that kills nobody. -/
def Plain : InnerEvent F → Prop
  | .playerKilled .. => False
  | event => Body event

/-- A plain event that is not about a delayed death. -/
def Remark : InnerEvent F → Prop
  | .delayedDeathQueued .. => False
  | .delayedDeathResolved .. => False
  | event => Plain event

/-- A plain event no stock reader looks at and that reveals nothing. The only use counter a kill records is
the spent vest. -/
def Quiet : InnerEvent F → Prop
  | .alignmentRevealed .. => False
  | .roleRevealed .. => False
  | .actionGrantConsumed .. => False
  | .actionUseCounted counterId .. => counterId = "shield:bulletproof_vest"
  | event => Plain event

/-- A quiet event that is not about a delayed death. -/
def Hushed : InnerEvent F → Prop
  | .delayedDeathQueued .. => False
  | .delayedDeathResolved .. => False
  | event => Quiet event

/-- How a kill event shows the death of a slot. -/
structure DeathShown where
  slot : SlotId
  cause : String
  mode : DeathRevealMode
  deriving DecidableEq

/-- The death a kill event shows. -/
def shown? : InnerEvent F → Option DeathShown
  | .playerKilled slot cause _ _ mode => some { slot, cause, mode }
  | _ => none

/-- The record a queueing event adds. -/
def queued? : InnerEvent F → Option DelayedDeathRecord
  | .delayedDeathQueued queueId target cause effect source sourceAction phaseId =>
    some { queueId, target, cause, effect, source, sourceAction, phaseId }
  | _ => none

/-- What a resolving event says of a delayed death. -/
structure DeathResolved where
  queueId : String
  target : SlotId
  effect : Tag
  outcome : String

/-- The delayed death an event resolves. -/
def resolved? : InnerEvent F → Option DeathResolved
  | .delayedDeathResolved queueId target _ effect outcome _ =>
    some { queueId, target, effect, outcome }
  | _ => none

/-- An event that shows a death, if any, as the pack's policy says, and is not about a delayed one. -/
def Heard (input : ResolutionInput F) : InnerEvent F → Prop
  | .playerKilled slot cause _ _ mode => mode = deathRevealMode input slot cause
  | .delayedDeathQueued .. | .delayedDeathResolved .. => False
  | _ => True

variable {event : InnerEvent F} {input : ResolutionInput F}

/-- A quiet event that is heard, or that may stand apart. -/
def Pushed (input : ResolutionInput F) (Apart : InnerEvent F → Prop) (event : InnerEvent F) : Prop :=
  Quiet event ∧ (Heard input event ∨ Apart event)

/-- A body event that is heard. -/
def Told (input : ResolutionInput F) (event : InnerEvent F) : Prop := Body event ∧ Heard input event

theorem Remark.heard (h : Remark event) : Heard input event := by
  cases event <;> first | exact trivial | exact absurd h id

section

omit [Float64 F]

theorem Plain.body (h : Plain event) : Body event := by
  cases event <;> first | exact h | exact trivial

theorem Remark.plain (h : Remark event) : Plain event := by
  cases event <;> first | exact h | exact absurd h id

theorem plain_of_remarks {events : List (InnerEvent F)} (h : ∀ event ∈ events, Remark event) :
    ∀ event ∈ events, Plain event :=
  fun event hevent => (h event hevent).plain

theorem Quiet.plain (h : Quiet event) : Plain event := by
  cases event <;> first | exact h | exact trivial

theorem Hushed.quiet (h : Hushed event) : Quiet event := by
  cases event <;> first | exact h | exact absurd h id

theorem Hushed.remark (h : Hushed event) : Remark event := by
  cases event <;> first | exact h | exact trivial

theorem Plain.killedSlot? (h : Plain event) : event.killedSlot? = none := by
  cases event <;> first | rfl | exact absurd h id

end

theorem Remark.told (h : Remark event) : Told input event := ⟨h.plain.body, h.heard⟩

namespace Deaths

/-- One small step of the working state. `Ok` holds of every slot killed, `Att` of every attacker
named in the log, and `Apart` of every event that is not `Heard`. -/
inductive Step (input : ResolutionInput F) (Apart : InnerEvent F → Prop) (Ok Att : SlotId → Prop) :
    Deaths F → Deaths F → Prop
  | emit (d : Deaths F) (event : InnerEvent F) (pushed : Pushed input Apart event) :
      Step input Apart Ok Att d (d.emit event)
  | kill (d : Deaths F) (slot : SlotId) (cause : String) (attackers : List SlotId)
      (unstoppable : Bool) (deathReveal : DeathRevealMode) (records : List KillRecord)
      (fresh : slot ∉ d.killed) (ok : Ok slot)
      (heard : deathReveal = deathRevealMode input slot cause ∨
        Apart (.playerKilled slot cause attackers unstoppable deathReveal))
      (logged : ∀ record ∈ records, record.target = slot ∧ Att record.attacker) :
      Step input Apart Ok Att d (d.kill slot cause attackers unstoppable deathReveal records)
  | merge (d : Deaths F) (target attacker : SlotId) (unstoppable : Bool)
      (records : List KillRecord)
      (logged : ∀ record ∈ records, record.target ∈ d.killed ∧ Att record.attacker) :
      Step input Apart Ok Att d { d with
        events := updateFirst (killsSlot target) (mergeAttribution attacker unstoppable) d.events
        log := d.log ++ records }
  | save (d : Deaths F) (saves : BTreeSet String) : Step input Apart Ok Att d { d with cprSaves := saves }

/-- A run of small steps. -/
abbrev Run (input : ResolutionInput F) (Apart : InnerEvent F → Prop) (Ok Att : SlotId → Prop) :
    Deaths F → Deaths F → Prop :=
  Relation.ReflTransGen (Step input Apart Ok Att)

end Deaths

/-- Some guard of the pack strikes back at an attacker. -/
def guardRetaliates (pack : Pack F) : Bool :=
  pack.nightResolution.isExplicit && !pack.nightResolution.guardRetaliationCausePolicy.isEmpty

/-- A guard and a witch on one target kill it. -/
def guardWitchKills (pack : Pack F) : Bool :=
  pack.guardPolicy.enabled && pack.guardPolicy.sameTargetWitch == .killTarget

/-- Those struck down may die in full. -/
def Full (Apart : InnerEvent F → Prop) : Prop :=
  ∀ slot cause attackers unstoppable, Apart (.playerKilled slot cause attackers unstoppable .full)

/-- What the protections promise: protectors are `Att`, those who step in for their ward `Ok`, and
the wards too where guard and witch kill; only a pack with guard retaliation has a guard who
strikes back, unless every slot is `Ok`; and a protection may strike down. -/
structure ProtectionsOk (pack : Pack F) (Apart : InnerEvent F → Prop) (Ok Att : SlotId → Prop)
    (protections : Protections) : Prop where
  ward : guardWitchKills pack = true → ∀ entry ∈ protections.toList, Ok entry.1
  protector : ∀ target, ∀ source ∈ protections.getD target [], Att source.protector
  intercepts : ∀ target, ∀ source ∈ protections.getD target [],
    source.interceptCause.isSome = true → Ok source.protector
  retaliates : ∀ target, ∀ source ∈ protections.getD target [],
    source.guardRetaliationCause.isSome = true → guardRetaliates pack = true ∨ ∀ slot, Ok slot
  full : ∀ target, protections.getD target [] ≠ [] → Full Apart

theorem protectionsOk_empty {pack : Pack F} {Apart : InnerEvent F → Prop} {Ok Att : SlotId → Prop} :
    ProtectionsOk pack Apart Ok Att ∅ where
  ward := by simp
  protector := by simp
  intercepts := by simp
  retaliates := by simp
  full := by simp

abbrev AnySlot : SlotId → Prop := fun _ => True

abbrev AnyEvent : InnerEvent F → Prop := fun _ => True

abbrev NoEvent : InnerEvent F → Prop := fun _ => False

section Runs

open Deaths Relation

variable {Apart : InnerEvent F → Prop} {Ok Att : SlotId → Prop} {input : ResolutionInput F}

theorem Hushed.pushed {event : InnerEvent F} (h : Hushed event) : Pushed input Apart event :=
  ⟨h.quiet, .inl h.remark.heard⟩

theorem Run.emit (d : Deaths F) {event : InnerEvent F} (hushed : Hushed event) :
    Run input Apart Ok Att d (d.emit event) :=
  .single (.emit d event hushed.pushed)

theorem Run.emitAll (d : Deaths F) {events : List (InnerEvent F)}
    (pushed : ∀ event ∈ events, Pushed input Apart event) : Run input Apart Ok Att d (d.emitAll events) := by
  induction events generalizing d with
  | nil =>
    have hnil : d.emitAll [] = d := by simp [Deaths.emitAll]
    rw [hnil]
  | cons event events ih =>
    have hcons : d.emitAll (event :: events) = (d.emit event).emitAll events := by
      simp [Deaths.emitAll, Deaths.emit]
    rw [hcons]
    exact (ReflTransGen.single (.emit d event (pushed event List.mem_cons_self))).trans
      (ih _ fun other hother => pushed other (List.mem_cons_of_mem _ hother))

variable {attacker : SlotId} {d a b : Deaths F} {protections : Protections}

theorem Run.kill {slot : SlotId} (cause : String) (attackers : List SlotId) (unstoppable : Bool)
    {deathReveal : DeathRevealMode} (heard : deathReveal = deathRevealMode input slot cause ∨
      Apart (.playerKilled slot cause attackers unstoppable deathReveal))
    (fresh : d.killed.contains slot = false) (ok : Ok slot) (attackerOk : Att attacker) :
    Run input Apart Ok Att d (d.kill slot cause attackers unstoppable deathReveal
      [{ target := slot, attacker, cause }]) :=
  .single (.kill d slot cause attackers unstoppable deathReveal _ (by simpa using fresh) ok heard
    (by simpa using attackerOk))

theorem stackKill_run (pack : Pack F) {target : SlotId} (cause : String) (unstoppable : Bool)
    (dead : d.killed.contains target = true) (attackerOk : Att attacker) :
    Run input Apart Ok Att d (stackKill pack target attacker cause unstoppable d) := by
  unfold stackKill
  split
  · unfold mergeStackedKillAttribution
    split
    · exact .single (.merge d target attacker unstoppable _ (by simp_all))
    · exact .refl
  · exact .refl

section

variable (input : ResolutionInput F)

theorem interceptKill_run (full : Full Apart) {source : ProtectionSource}
    (protectorOk : source.interceptCause.isSome = true → Ok source.protector)
    (attackerOk : Att attacker) :
    Run input Apart Ok Att d (interceptKill input attacker d source) := by
  unfold interceptKill
  split
  · exact .refl
  · rename_i hcause
    split
    · rename_i hdead
      exact stackKill_run _ _ _ hdead attackerOk
    · rename_i hfresh
      exact Run.kill _ _ _ (.inr (full ..)) (by simpa using hfresh) (protectorOk (by simp [hcause])) attackerOk

theorem guardRetaliation_run (full : Full Apart) (protections : Protections)
    {source : ProtectionSource} (protectorOk : Att source.protector)
    (attackerOk : source.guardRetaliationCause.isSome = true → Ok attacker) :
    Run input Apart Ok Att d (guardRetaliation input protections attacker d source) := by
  unfold guardRetaliation
  split
  · exact .refl
  · rename_i hcause
    have hattacker := attackerOk (by simp [hcause])
    split
    · rename_i hdead
      exact stackKill_run _ _ _ hdead protectorOk
    · rename_i hfresh
      dsimp only
      split
      · exact Run.emit d (by exact trivial)
      · exact Run.kill _ _ _ (.inr (full ..)) (by simpa using hfresh) hattacker protectorOk

theorem preventKill_run
    (hprotections : ProtectionsOk input.pack.document Apart Ok Att protections) {action : KillAction}
    {protectors : List ProtectionSource}
    (hprotectors : ∀ source ∈ protectors, source ∈ protections.getD action.target [])
    (attackerOk : Att action.attacker)
    (struckOk : guardRetaliates input.pack.document = true → Ok action.attacker) :
    Run input Apart Ok Att d (preventKill input protections protectors action d) := by
  unfold preventKill
  dsimp only
  have hsaved : Hushed (.playerSaved action.target ["protected"] (protectors.map (·.protector)) :
      InnerEvent F) := trivial
  refine (Run.emit d hsaved).trans ?_
  have hsave : ∀ d : Deaths F, Run input Apart Ok Att d (recordCprSaves protectors d) :=
    fun d => .single (.save d _)
  refine (hsave _).trans ?_
  refine (Steps.foldl (fun d source hsource => ?_) _).trans
    (Steps.foldl (fun d source hsource => ?_) _)
  · exact interceptKill_run input (hprotections.full _ (List.ne_nil_of_mem (hprotectors source hsource)))
      (hprotections.intercepts _ source (hprotectors source hsource)) attackerOk
  · refine guardRetaliation_run input (hprotections.full _ (List.ne_nil_of_mem (hprotectors source hsource)))
      protections (hprotections.protector _ source (hprotectors source hsource)) fun hcause => ?_
    exact (hprotections.retaliates _ source (hprotectors source hsource) hcause).elim struckOk (· _)

theorem saveBulletproof_run (action : KillAction) (reason : String)
    (d : Deaths F) : Run input Apart Ok Att d (saveBulletproof input action reason d) := by
  unfold saveBulletproof
  dsimp only
  split
  · rename_i hvest
    refine (Run.emit d (by exact trivial)).trans ((Run.emit _ ?_).trans (Run.emit _ (by exact trivial)))
    rw [eq_of_beq hvest]
    exact rfl
  · exact Run.emit d (by exact trivial)

/-- `resolve_one_kill` is a run when its target is `Ok`, and its attacker too if guards strike
back. -/
theorem resolveOneKill_run
    (hprotections : ProtectionsOk input.pack.document Apart Ok Att protections) {action : KillAction}
    (mode : action.deathReveal = deathRevealMode input action.target action.cause)
    (ok : Ok action.target) (attackerOk : Att action.attacker)
    (struckOk : guardRetaliates input.pack.document = true → Ok action.attacker) :
    Run input Apart Ok Att d (resolveOneKill input protections action d) := by
  unfold resolveOneKill
  dsimp only
  split
  · rename_i hdead
    exact stackKill_run _ _ _ hdead attackerOk
  · rename_i hfresh
    split
    · exact preventKill_run input hprotections
        (fun source hsource => List.mem_of_mem_filter hsource) attackerOk struckOk
    · split
      · exact saveBulletproof_run input action _ d
      · exact Run.kill _ _ _ (.inl mode) (by simpa using hfresh) ok attackerOk

theorem strike_run (hprotections : ProtectionsOk input.pack.document Apart Ok Att protections)
    {transientEffects : BTreeMap SlotId (BTreeSet String)} {target : SlotId} {cause : String}
    {unstoppable : Bool} (ok : Ok target) (attackerOk : Att attacker)
    (struckOk : guardRetaliates input.pack.document = true → Ok attacker) :
    Run input Apart Ok Att d (strike input protections transientEffects attacker cause unstoppable target d) := by
  unfold strike
  dsimp only
  split
  · exact .refl
  · exact resolveOneKill_run input hprotections rfl ok attackerOk struckOk

end

/-! ## The invariant of a run -/

/-- Every slot killed is `Ok`; every logged kill is of a slot killed, by an `Att` attacker. -/
structure Deaths.Known (Ok Att : SlotId → Prop) (d : Deaths F) : Prop where
  ok : ∀ slot ∈ d.killed, Ok slot
  logged : ∀ record ∈ d.log, record.target ∈ d.killed ∧ Att record.attacker

/-- The invariant of a working state whose kills are all accounted for: the killed list is the list
of slots of the kill events, without repetition. -/
structure Deaths.Tracked (Ok Att : SlotId → Prop) (d : Deaths F) : Prop extends
    d.Known Ok Att where
  slots : killedSlots d.events = d.killed
  nodup : d.killed.Nodup

section

omit [Float64 F]

theorem killedSlots_append (xs ys : List (InnerEvent F)) :
    killedSlots (xs ++ ys) = killedSlots xs ++ killedSlots ys :=
  List.filterMap_append ..

theorem killedSlots_plain {events : List (InnerEvent F)} (h : ∀ event ∈ events, Plain event) :
    killedSlots events = [] :=
  List.filterMap_eq_nil_iff.2 fun event hevent => (h event hevent).killedSlot?

theorem killedSlot?_mergeAttribution (attacker : SlotId) (unstoppable : Bool) (event : InnerEvent F) :
    (mergeAttribution attacker unstoppable event).killedSlot? = event.killedSlot? := by
  cases event <;> rfl

theorem killedSlots_merge (target attacker : SlotId) (unstoppable : Bool) (events : List (InnerEvent F)) :
    killedSlots (updateFirst (killsSlot target) (mergeAttribution attacker unstoppable) events) =
      killedSlots events := by
  have hmap := map_updateFirst InnerEvent.killedSlot?
    (killedSlot?_mergeAttribution attacker unstoppable) (p := killsSlot target) events
  have hkilled : ∀ es : List (InnerEvent F),
      killedSlots es = (es.map InnerEvent.killedSlot?).filterMap id := fun es => by
    rw [List.filterMap_map]
    rfl
  rw [hkilled, hkilled, hmap]

theorem body_mergeAttribution {unstoppable : Bool} {event : InnerEvent F} (h : Body event) :
    Body (mergeAttribution attacker unstoppable event) := by
  cases event <;> exact h

theorem slot?_some {state : StateSnapshot F} {slotId : SlotId} {slot : SlotState}
    (h : state.slot? slotId = some slot) : slot ∈ state.slots ∧ slot.slotId = slotId :=
  ⟨List.mem_of_find?_eq_some h, by simpa using List.find?_some h⟩

end

/-- The slots killed stay `Ok`. -/
theorem Deaths.Run.ok (h : Run input Apart Ok Att a b) (ha : ∀ slot ∈ a.killed, Ok slot) :
    ∀ slot ∈ b.killed, Ok slot := by
  refine Steps.preserved (fun d => ∀ slot ∈ d.killed, Ok slot) (fun c d hstep hc => ?_) h ha
  cases hstep with
  | kill slot cause attackers unstoppable deathReveal records fresh ok heard logged =>
    intro other hother
    rcases List.mem_append.1 hother with hold | hnew
    · exact hc other hold
    · exact List.mem_singleton.1 hnew ▸ ok
  | _ => exact hc

theorem Deaths.Run.known (h : Run input Apart Ok Att a b) (ha : a.Known Ok Att) : b.Known Ok Att := by
  refine ⟨h.ok ha.ok, ?_⟩
  refine Steps.preserved (fun d : Deaths F => ∀ record ∈ d.log, record.target ∈ d.killed ∧ Att record.attacker)
    (fun c d hstep hc => ?_) h ha.logged
  cases hstep with
  | kill slot cause attackers unstoppable deathReveal records fresh ok heard logged =>
    intro record hrecord
    rcases List.mem_append.1 hrecord with hold | hnew
    · exact ⟨List.mem_append_left _ (hc record hold).1, (hc record hold).2⟩
    · obtain ⟨htarget, hattacker⟩ := logged record hnew
      exact ⟨List.mem_append_right _ (by simp [htarget]), hattacker⟩
  | merge target attacker unstoppable records logged =>
    intro record hrecord
    rcases List.mem_append.1 hrecord with hold | hnew
    · exact hc record hold
    · exact logged record hnew
  | _ => exact hc

/-- The kill events of a run are those of the slots it kills. -/
theorem Deaths.Run.slots (h : Run input Apart Ok Att a b) (ha : killedSlots a.events = a.killed) : killedSlots b.events = b.killed := by
  refine Steps.preserved (fun d => killedSlots d.events = d.killed) (fun c d hstep hc => ?_) h ha
  cases hstep with
  | emit event pushed =>
    simp only [Deaths.emit, killedSlots_append, hc]
    simp [killedSlots, pushed.1.plain.killedSlot?]
  | kill slot cause attackers unstoppable deathReveal records fresh ok heard logged =>
    simp only [Deaths.kill, killedSlots_append, hc]
    rfl
  | merge target attacker unstoppable records logged =>
    exact (killedSlots_merge target attacker unstoppable c.events).trans hc
  | save saves => exact hc

/-- Nobody is brought back, and nobody dies again. -/
theorem Deaths.Run.grows (h : Run input Apart Ok Att a b) :
    ∃ fresh, b.killed = a.killed ++ fresh ∧ fresh.Nodup ∧ ∀ slot ∈ fresh, slot ∉ a.killed := by
  refine Steps.preserved
    (fun d => ∃ fresh, d.killed = a.killed ++ fresh ∧ fresh.Nodup ∧ ∀ slot ∈ fresh, slot ∉ a.killed)
    (fun c d hstep hc => ?_) h ⟨[], by simp⟩
  cases hstep with
  | emit event pushed => exact hc
  | kill slot cause attackers unstoppable deathReveal records new ok heard logged =>
    obtain ⟨fresh, hgrown, hnodup, hfresh⟩ := hc
    rw [hgrown, List.mem_append, not_or] at new
    refine ⟨fresh ++ [slot], ?_, ?_, fun other hother => ?_⟩
    · simp [Deaths.kill, hgrown]
    · rw [List.nodup_append]
      exact ⟨hnodup, by simp, fun x hx y hy hxy => new.2 (by simp_all)⟩
    · rcases List.mem_append.1 hother with hold | hnew
      · exact hfresh other hold
      · exact List.mem_singleton.1 hnew ▸ new.1
  | merge target attacker unstoppable records logged => exact hc
  | save saves => exact hc

theorem Deaths.Run.killed_subset (h : Run input Apart Ok Att a b) : a.killed ⊆ b.killed := by
  obtain ⟨fresh, hgrown, -⟩ := h.grows
  rw [hgrown]
  exact List.subset_append_left ..

theorem Deaths.Run.tracked (h : Run input Apart Ok Att a b) (ha : a.Tracked Ok Att) : b.Tracked Ok Att := by
  obtain ⟨fresh, hgrown, hnodup, hfresh⟩ := h.grows
  refine { h.known ha.toKnown with slots := h.slots ha.slots, nodup := ?_ }
  rw [hgrown, List.nodup_append]
  exact ⟨ha.nodup, hnodup, fun x hx y hy hxy => hfresh y hy (hxy ▸ hx)⟩

/-- What holds of every body event, and of an event after a merge, holds of all a run pushes. -/
theorem Deaths.Run.events {P : InnerEvent F → Prop}
    (body : ∀ event, Body event → Heard input event ∨ Apart event → P event)
    (merged : ∀ attacker unstoppable event, P event → P (mergeAttribution attacker unstoppable event))
    (h : Run input Apart Ok Att a b) (ha : ∀ event ∈ a.events, P event) :
    ∀ event ∈ b.events, P event := by
  refine Steps.preserved (fun d => ∀ event ∈ d.events, P event) (fun c d hstep hc => ?_) h ha
  cases hstep with
  | emit event pushed =>
    intro other hother
    rcases List.mem_append.1 hother with hold | hnew
    · exact hc other hold
    · exact List.mem_singleton.1 hnew ▸ body event pushed.1.plain.body pushed.2
  | kill slot cause attackers unstoppable deathReveal records fresh ok heard logged =>
    intro other hother
    rcases List.mem_append.1 hother with hold | hnew
    · exact hc other hold
    · obtain rfl := List.mem_singleton.1 hnew
      exact body _ trivial heard
  | merge target attacker unstoppable records logged =>
    intro other hother
    rcases mem_updateFirst hother with hold | ⟨original, horiginal, rfl⟩
    · exact hc other hold
    · exact merged attacker unstoppable original (hc original horiginal)
  | save saves => exact hc

theorem Deaths.Run.told (h : Run input NoEvent Ok Att a b) (ha : ∀ event ∈ a.events, Told input event) :
    ∀ event ∈ b.events, Told input event :=
  h.events (fun _ hbody hheard => ⟨hbody, hheard.resolve_right id⟩)
    (fun _ _ event h => ⟨body_mergeAttribution h.1, by cases event <;> exact h.2⟩) ha

theorem Deaths.Step.withLog (h : Step input Apart Ok Att a b) (log : List KillRecord) :
    Step input Apart Ok Att { a with log } { b with log } := by
  cases h with
  | emit event pushed => exact .emit _ event pushed
  | kill slot cause attackers unstoppable deathReveal records fresh ok heard logged =>
    have hstep : Step input Apart Ok Att { a with log }
        (Deaths.kill { a with log } slot cause attackers unstoppable deathReveal []) :=
      .kill _ slot cause attackers unstoppable deathReveal [] fresh ok heard (by simp)
    simpa [Deaths.kill] using hstep
  | merge target attacker unstoppable records logged =>
    have hstep : Step input Apart Ok Att { a with log } { a with
        events := updateFirst (killsSlot target) (mergeAttribution attacker unstoppable) a.events
        log := log ++ [] } :=
      .merge { a with log } target attacker unstoppable [] (by simp)
    simpa using hstep
  | save saves => exact .save _ saves

theorem Deaths.Run.withLog (h : Run input Apart Ok Att a b) (log : List KillRecord) :
    Run input Apart Ok Att { a with log } { b with log } :=
  h.lift (fun d => { d with log }) fun _ _ hstep => hstep.withLog log

/-! ## Cascades are runs -/

/-- Every living slot of the snapshot is `Ok`. -/
def AliveOk (input : ResolutionInput F) (Ok : SlotId → Prop) : Prop :=
  ∀ slot ∈ input.state.slots, slot.isAlive = true → Ok slot.slotId

theorem aliveOk_any (input : ResolutionInput F) : AliveOk input AnySlot :=
  fun _ _ _ => trivial

theorem AliveOk.of_aliveInState {input : ResolutionInput F} (h : AliveOk input Ok)
    {slotId : SlotId} (halive : aliveInState input slotId = true) : Ok slotId := by
  unfold aliveInState at halive
  split at halive
  · rename_i slot hslot
    obtain ⟨hmem, rfl⟩ := slot?_some hslot
    exact h slot hmem halive
  · cases halive

section Cascades

variable {input : ResolutionInput F} {protections : Protections}

variable {d : Deaths F}

theorem applyChosenRetaliations_run (okAtt : ∀ slot, Ok slot → Att slot) (aliveOk : AliveOk input Ok)
    (hprotections : ProtectionsOk input.pack.document Apart Ok Att protections)
    (hd : ∀ slot ∈ d.killed, Ok slot) :
    Run input Apart Ok Att d (applyChosenRetaliations input protections d) := by
  unfold applyChosenRetaliations
  refine Steps.foldl (fun b retaliation _ => ?_) d
  unfold chosenRetaliation
  split
  · exact .refl
  · rename_i hactor
    split
    · exact .refl
    · split
      · exact .refl
      · rename_i halive
        have hkilled : retaliation.actor ∈ d.killed := by simp_all
        have hok := hd _ hkilled
        exact resolveOneKill_run input hprotections rfl (aliveOk.of_aliveInState (by simpa using halive))
          (okAtt _ hok) fun _ => hok

theorem cprHarm_run {target : SlotId} {source : ProtectionSource} (ok : Ok target)
    (protectorOk : Att source.protector) :
    Run input Apart Ok Att d (cprHarm input target d source) := by
  unfold cprHarm
  split
  · exact .refl
  · split
    · exact .refl
    · split
      · rename_i hdead
        exact stackKill_run _ _ _ hdead protectorOk
      · rename_i hfresh
        exact Run.kill _ _ _ (.inl rfl) (by simpa using hfresh) ok protectorOk

theorem getD_of_mem_toList {protections : Protections} {entry : SlotId × List ProtectionSource}
    (h : entry ∈ protections.toList) : protections.getD entry.1 [] = entry.2 := by
  obtain ⟨target, sources⟩ := entry
  have hget : protections[target]? = some sources := by
    simpa [Std.TreeMap.mem_toList_iff_getElem?_eq_some] using h
  simp [Std.TreeMap.getD_eq_getD_getElem?, hget]

theorem applyCprHarms_run {Apart' : InnerEvent F → Prop} (aliveOk : AliveOk input Ok)
    (hprotections : ProtectionsOk input.pack.document Apart' Ok Att protections) (d : Deaths F) :
    Run input Apart Ok Att d (applyCprHarms input protections d) := by
  unfold applyCprHarms
  refine Steps.foldl (fun b entry hentry => ?_) d
  obtain ⟨hmem, halive⟩ := List.mem_filter.1 hentry
  refine Steps.foldl (fun b source hsource => ?_) b
  refine cprHarm_run (aliveOk.of_aliveInState (Bool.and_eq_true_iff.1 halive).1) ?_
  exact hprotections.protector entry.1 source (by rw [getD_of_mem_toList hmem]; exact hsource)

variable {killedNow : List SlotId}

/-- One dependency is a run, and the record it generates is accounted for. -/
theorem dependencyDeath_run (okAtt : ∀ slot, Ok slot → Att slot) (aliveOk : AliveOk input Ok)
    (hnow : ∀ slot ∈ killedNow, Ok slot)
    (state : Deaths F × List KillRecord) (dependency : DeathDependency) :
    Run input Apart Ok Att state.1 (dependencyDeath input killedNow state dependency).1 := by
  obtain ⟨d, generated⟩ := state
  unfold dependencyDeath
  dsimp only
  split
  · exact .refl
  · rename_i hguard
    have hhost : Ok dependency.host := hnow _ (by simp_all)
    split
    · rename_i hdead
      split
      · unfold mergeStackedKillAttribution
        split
        · exact .single (.merge d _ _ _ _ (by simp_all))
        · exact .refl
      · exact .refl
    · rename_i hfresh
      exact Run.kill _ _ _ (.inl rfl) (by simpa using hfresh) (aliveOk.of_aliveInState (by simp_all))
        (okAtt _ hhost)

/-- The records a dependency loop returns are among those it logged. -/
theorem dependencyDeath_logged {state : Deaths F × List KillRecord}
    (dependency : DeathDependency) (h : ∀ record ∈ state.2, record ∈ state.1.log) :
    ∀ record ∈ (dependencyDeath input killedNow state dependency).2,
      record ∈ (dependencyDeath input killedNow state dependency).1.log := by
  obtain ⟨d, generated⟩ := state
  unfold dependencyDeath
  dsimp only
  split
  · exact h
  · split
    · split
      · unfold mergeStackedKillAttribution
        split
        · intro record hrecord
          rcases List.mem_append.1 hrecord with hold | hnew
          · exact List.mem_append_left _ (h record hold)
          · exact List.mem_append_right _ (by simpa using hnew)
        · simpa using h
      · exact h
    · intro record hrecord
      rcases List.mem_append.1 hrecord with hold | hnew
      · exact List.mem_append_left _ (h record hold)
      · exact List.mem_append_right _ hnew

theorem dependencyDeaths_run (okAtt : ∀ slot, Ok slot → Att slot) (aliveOk : AliveOk input Ok)
    (dependencies : List DeathDependency) (hd : ∀ slot ∈ d.killed, Ok slot) :
    Run input Apart Ok Att d (dependencies.foldl (dependencyDeath input d.killed) (d, [])).1 :=
  Steps.foldl_on Prod.fst
    (fun state dependency _ => dependencyDeath_run okAtt aliveOk hd state dependency) (d, [])

theorem dependencyDeaths_logged (dependencies : List DeathDependency) (d : Deaths F) :
    let result := dependencies.foldl (dependencyDeath input d.killed) (d, [])
    ∀ record ∈ result.2, record ∈ result.1.log := by
  intro result
  exact Steps.foldl_inv
    (fun state : Deaths F × List KillRecord => ∀ record ∈ state.2, record ∈ state.1.log)
    (fun _ dependency _ h => dependencyDeath_logged dependency h) (by simp)

theorem applyGuardWitchSameTargetPolicy_run {Apart' : InnerEvent F → Prop}
    (hprotections : ProtectionsOk input.pack.document Apart' Ok Att protections) (d : Deaths F) :
    Run input Apart Ok Att d (applyGuardWitchSameTargetPolicy input protections d) := by
  unfold applyGuardWitchSameTargetPolicy
  dsimp only
  split
  · exact .refl
  · rename_i hpolicy
    split
    · exact .refl
    · have hkills : guardWitchKills input.pack.document = true := by
        simpa [guardWitchKills] using hpolicy
      refine Steps.foldl (fun b entry hentry => ?_) d
      unfold guardWitchSameTarget
      dsimp only
      split
      · exact .refl
      · rename_i hfresh
        split
        · exact .refl
        · refine .single (.kill b _ _ _ _ _ _ (by simpa using hfresh)
            (hprotections.ward hkills entry hentry) (.inl rfl) ?_)
          intro record hrecord
          obtain ⟨attacker, hattacker, rfl⟩ := List.mem_map.1 hrecord
          refine ⟨rfl, ?_⟩
          obtain ⟨source, hsource, rfl⟩ := List.mem_map.1 (mem_collect.1 hattacker)
          refine hprotections.protector entry.1 source ?_
          rw [getD_of_mem_toList hentry]
          rcases List.mem_append.1 hsource with hguard | hwitch
          · exact List.mem_of_mem_filter hguard
          · exact List.mem_of_mem_filter hwitch

end Cascades

/-! ## Lover suicides -/

section Lovers

variable {input : ResolutionInput F}

/-- What one pass keeps: a slot killed since the pass began has its suicide recorded. -/
def LoversTracked (killedNow : List SlotId) (state : Deaths F × List SlotId × List SlotId) : Prop :=
  ∀ slot ∈ state.1.killed, slot ∈ killedNow ∨ slot ∈ state.2.1

variable {state : Deaths F × List SlotId × List SlotId}

theorem loverSuicide_tracked (sourceDead : SlotId) (slotId : SlotId) (h : LoversTracked killedNow state) :
    LoversTracked killedNow (loverSuicide input killedNow sourceDead state slotId) := by
  obtain ⟨d, recorded, generated⟩ := state
  unfold loverSuicide
  dsimp only
  split
  · exact h
  · split
    · intro slot hslot
      have hkilled : (stackKill input.pack.document slotId sourceDead
          input.pack.document.loverPolicy.suicideCause true d).killed = d.killed := by
        unfold stackKill mergeStackedKillAttribution
        split <;> (try split) <;> rfl
      rw [hkilled] at hslot
      rcases h slot hslot with hnow | hrec
      · exact .inl hnow
      · exact .inr (List.mem_cons_of_mem _ hrec)
    · intro slot hslot
      rcases List.mem_append.1 hslot with hold | hnew
      · rcases h slot hold with hnow | hrec
        · exact .inl hnow
        · exact .inr (List.mem_cons_of_mem _ hrec)
      · exact .inr (by simpa using .inl (by simpa using hnew))

theorem loverSuicide_run (okAtt : ∀ slot, Ok slot → Att slot) (aliveOk : AliveOk input Ok)
    {sourceDead : SlotId} (hsource : Ok sourceDead) (slotId : SlotId)
    (hnow : ∀ slot ∈ killedNow, slot ∈ state.1.killed) (h : LoversTracked killedNow state) :
    Run input Apart Ok Att state.1 (loverSuicide input killedNow sourceDead state slotId).1 := by
  obtain ⟨d, recorded, generated⟩ := state
  unfold loverSuicide
  dsimp only
  split
  · exact .refl
  · rename_i hguard
    simp only [Bool.or_eq_true, not_or, Bool.not_eq_true] at hguard
    split
    · rename_i hdead
      exact stackKill_run _ _ _ (by simpa using hnow slotId (by simpa using hdead))
        (okAtt _ hsource)
    · rename_i hfresh
      refine .single (.kill d _ _ _ _ _ _ (fun hmem => ?_)
        (aliveOk.of_aliveInState (by simpa using hguard.2)) (.inl rfl) (by simp))
      rcases h slotId hmem with hnow | hrec
      · exact hfresh (by simpa using hnow)
      · exact absurd hguard.1.2 (by simpa using hrec)

/-- What a pass keeps: it is a run so far, of slots that are `Ok`, and its suicides are recorded. -/
structure LoverPass (input : ResolutionInput F) (Apart : InnerEvent F → Prop) (Ok Att : SlotId → Prop)
    (d : Deaths F) (state : Deaths F × List SlotId × List SlotId) : Prop where
  run : Run input Apart Ok Att d state.1
  tracked : LoversTracked d.killed state

theorem loverLink_pass (okAtt : ∀ slot, Ok slot → Att slot) (aliveOk : AliveOk input Ok)
    {d : Deaths F} (hd : ∀ slot ∈ d.killed, Ok slot) (link : LinkRecord)
    (h : LoverPass input Apart Ok Att d state) :
    LoverPass input Apart Ok Att d (loverLink input d.killed state link) := by
  unfold loverLink
  split
  · exact h
  · rename_i sourceDead hfind
    have hsource : Ok sourceDead := h.run.ok hd _ (List.mem_of_find?_eq_some hfind)
    refine Steps.foldl_inv (LoverPass input Apart Ok Att d) (fun state slotId _ hstate => ?_) h
    refine ⟨hstate.run.trans ?_, loverSuicide_tracked sourceDead slotId hstate.tracked⟩
    exact loverSuicide_run okAtt aliveOk hsource slotId
      (fun slot hslot => hstate.run.killed_subset hslot) hstate.tracked

theorem loverPass_run (okAtt : ∀ slot, Ok slot → Att slot) (aliveOk : AliveOk input Ok)
    (hd : ∀ slot ∈ state.1.killed, Ok slot) :
    Run input Apart Ok Att state.1 (input.state.linkedSlots.foldl (loverLink input state.1.killed) state).1 := by
  have hpass := Steps.foldl_inv (LoverPass input Apart Ok Att state.1)
    (fun _ link (_ : link ∈ input.state.linkedSlots) h => loverLink_pass okAtt aliveOk hd link h)
    (⟨.refl, fun slot hslot => .inl hslot⟩ : LoverPass input Apart Ok Att state.1 state)
  exact hpass.run

theorem loverLoop_run (okAtt : ∀ slot, Ok slot → Att slot) (aliveOk : AliveOk input Ok) (fuel : Nat)
    (hd : ∀ slot ∈ state.1.killed, Ok slot) :
    Run input Apart Ok Att state.1 (loverLoop input fuel state).1 := by
  induction fuel generalizing state with
  | zero => exact .refl
  | succ fuel ih =>
    have hpass : Run input Apart Ok Att state.1 _ := loverPass_run okAtt aliveOk hd
    unfold loverLoop
    dsimp only
    split
    · exact hpass
    · exact hpass.trans (ih (hpass.ok hd))

theorem applyLoverSuicides_run (okAtt : ∀ slot, Ok slot → Att slot) (aliveOk : AliveOk input Ok)
    {d : Deaths F} (hd : ∀ slot ∈ d.killed, Ok slot) :
    Run input Apart Ok Att d (applyLoverSuicides input d).1 := by
  unfold applyLoverSuicides
  dsimp only
  split
  · exact .refl
  · have hstart : ∀ slot ∈ ((d, [], []) : Deaths F × List SlotId × List SlotId).1.killed, Ok slot := hd
    exact loverLoop_run okAtt aliveOk _ hstart

end Lovers

end Runs

end Fmarch.Resolver
