import Fmarch.Resolver.Suppression

/-!
# Kills and death cascades

`resolver/action.rs`: how one kill resolves against protections and saves, how a second attacker is
merged into an existing death, and the cascades a death sets off before triggers run.

Every function here threads the same working state, the events pushed so far, the slots killed and
the kill log. What any of them may do to it is in `Runs.lean`.
-/

namespace Fmarch.Resolver

open Fmarch.Domain Keyed StableSort

variable {F : Type} [Float64 F]

/-! ## Working state -/

/-- `KillRecord`: a landed kill, for triggers to react to. -/
structure KillRecord where
  target : SlotId
  attacker : SlotId
  cause : String
  deriving DecidableEq

structure ProtectionSource where
  protector : SlotId
  actionId : String
  templateId : String
  interceptCause : Option String
  guardRetaliationCause : Option String
  cprHarmCause : Option String

/-- `GuardDependency` (babysitter) and `HideDependency` (hider): `dependent` dies with `host`. -/
structure DeathDependency where
  host : SlotId
  dependent : SlotId
  cause : String

/-- The mutable part of `ActionResolutionContext`. -/
structure Deaths (F : Type) where
  events : List (InnerEvent F) := []
  killed : List SlotId := []
  log : List KillRecord := []
  cprSaves : BTreeSet String := ∅

namespace Deaths

variable {F : Type}

/-- Push one event. -/
def emit (d : Deaths F) (event : InnerEvent F) : Deaths F :=
  { d with events := d.events ++ [event] }

/-- Push several events. -/
def emitAll (d : Deaths F) (events : List (InnerEvent F)) : Deaths F :=
  { d with events := d.events ++ events }

/-- Kill a slot: the event, the killed list and the log records. -/
def kill (d : Deaths F) (slot : SlotId) (cause : String) (attackers : List SlotId)
    (unstoppable : Bool) (deathReveal : DeathRevealMode) (records : List KillRecord) : Deaths F :=
  { d with
    events := d.events ++ [.playerKilled slot cause attackers unstoppable deathReveal]
    killed := d.killed ++ [slot]
    log := d.log ++ records }

end Deaths

/-! ## Policies -/

def deathRevealRank : DeathRevealMode → Nat
  | .full => 0
  | .alignmentOnly => 1
  | .concealed => 2

def strictestDeathReveal (left right : DeathRevealMode) : DeathRevealMode :=
  if deathRevealRank left < deathRevealRank right then right else left

def deathRevealMode (input : ResolutionInput F) (target : SlotId) (cause : String) : DeathRevealMode :=
  let policy := input.pack.document.deathReveal
  let mode :=
    match policy.byCause[cause]? with
    | some byCause => strictestDeathReveal policy.default byCause
    | none => policy.default
  match input.state.slot? target with
  | none => mode
  | some slot =>
    slot.effects.foldl
      (fun mode effect =>
        match policy.byEffect[effect]? with
        | some byEffect => strictestDeathReveal mode byEffect
        | none => mode)
      mode

/-- `night_resolution_aggregates_kill_attackers`. -/
def aggregatesKillAttackers (pack : Pack F) : Bool :=
  pack.nightResolution.isExplicit && pack.nightResolution.killStacking == some .aggregateAttackers

def protectionBlocksCause (pack : Pack F) (cause : String) (source : ProtectionSource) : Bool :=
  if pack.nightResolution.isExplicit then
    match pack.nightResolution.protectionCausePolicy[source.templateId]? with
    | some policy => policy.blocks.contains cause || policy.bypasses.contains cause
    | none => false
  else if pack.guardPolicy.enabled && pack.guardPolicy.guardBlockableCauses.contains cause then
    pack.guardPolicy.guardActionIds.contains source.templateId
  else true

def targetStateSaveBlocksCause (pack : Pack F) (cause saveTag : String) (unstoppable : Bool) : Bool :=
  if pack.nightResolution.isExplicit then
    pack.nightResolution.targetStateSaveTags.contains saveTag &&
      match pack.nightResolution.targetStateSavePolicy[saveTag]? with
      | some policy => policy.blocks.contains cause
      | none => false
  else !unstoppable

/-- `night_resolution_chosen_retaliation_bypasses_protect`. The validator requires the policy in
explicit mode; without one, where the source panics, nothing is bypassed here. -/
def chosenRetaliationBypassesProtect (pack : Pack F) (sourceAction : String) : Bool :=
  pack.nightResolution.isExplicit &&
    match pack.nightResolution.chosenRetaliationCausePolicy[sourceAction]? with
    | some policy => policy.strongmanBypassesProtect
    | none => false

/-! ## Merging into an existing death -/

/-- The rewrite `merge_stacked_kill_attribution` makes to the kill event. -/
def mergeAttribution (attacker : SlotId) (unstoppable : Bool) : InnerEvent F → InnerEvent F
  | .playerKilled slot cause attackers original deathReveal =>
    .playerKilled slot cause
      (if attackers.contains attacker then attackers else attackers ++ [attacker])
      (original || unstoppable) deathReveal
  | event => event

/-- A kill event that names `target`. -/
def killsSlot (target : SlotId) (event : InnerEvent F) : Bool := event.killedSlot? == some target

/-- `merge_stacked_kill_attribution`: the state and the record pushed, if a kill was found. -/
def mergeStackedKillAttribution (target attacker : SlotId) (cause : String) (unstoppable : Bool)
    (d : Deaths F) : Deaths F × Option KillRecord :=
  if d.events.any (killsSlot target) then
    let record : KillRecord := { target, attacker, cause }
    ({ d with
        events := updateFirst (killsSlot target) (mergeAttribution attacker unstoppable) d.events
        log := d.log ++ [record] },
      some record)
  else (d, none)

/-- The branch every cascade takes when its victim is already dead. -/
def stackKill (pack : Pack F) (target attacker : SlotId) (cause : String) (unstoppable : Bool)
    (d : Deaths F) : Deaths F :=
  if aggregatesKillAttackers pack then
    (mergeStackedKillAttribution target attacker cause unstoppable d).1
  else d

/-! ## One kill -/

structure KillAction where
  target : SlotId
  attacker : SlotId
  cause : String
  unstoppable : Bool
  deathReveal : DeathRevealMode
  targetTags : BTreeSet String

abbrev Protections := BTreeMap SlotId (List ProtectionSource)

/-- The sources on `target` that block `cause`. -/
def blockingSources (pack : Pack F) (protections : Protections) (target : SlotId)
    (cause : String) : List ProtectionSource :=
  (protections.getD target []).filter (protectionBlocksCause pack cause)

/-- An intercepting protector dies in the target's place. -/
def interceptKill (input : ResolutionInput F) (attacker : SlotId) (d : Deaths F)
    (source : ProtectionSource) : Deaths F :=
  match source.interceptCause with
  | none => d
  | some cause =>
    if d.killed.contains source.protector then
      stackKill input.pack.document source.protector attacker cause false d
    else
      d.kill source.protector cause [attacker] false .full
        [{ target := source.protector, attacker, cause }]

/-- A guard strikes back at the attacker. -/
def guardRetaliation (input : ResolutionInput F) (protections : Protections) (attacker : SlotId)
    (d : Deaths F) (source : ProtectionSource) : Deaths F :=
  match source.guardRetaliationCause with
  | none => d
  | some cause =>
    if d.killed.contains attacker then
      stackKill input.pack.document attacker source.protector cause false d
    else
      let attackerProtectors := blockingSources input.pack.document protections attacker cause
      if !attackerProtectors.isEmpty then
        d.emit (.playerSaved attacker ["protected"] (attackerProtectors.map (·.protector)))
      else
        d.kill attacker cause [source.protector] false .full
          [{ target := attacker, attacker := source.protector, cause }]

/-- The protections that would harm their ward had they saved nobody. -/
def recordCprSaves (protectors : List ProtectionSource) (d : Deaths F) : Deaths F :=
  { d with
    cprSaves := d.cprSaves.insertMany
      ((protectors.filter (·.cprHarmCause.isSome)).map (·.actionId)) }

/-- The kill met a protection it does not bypass. -/
def preventKill (input : ResolutionInput F) (protections : Protections)
    (protectors : List ProtectionSource) (action : KillAction) (d : Deaths F) : Deaths F :=
  let d := d.emit (.playerSaved action.target ["protected"] (protectors.map (·.protector)))
  let d := recordCprSaves protectors d
  let d := protectors.foldl (interceptKill input action.attacker) d
  protectors.foldl (guardRetaliation input protections action.attacker) d

/-- The kill met a bulletproof target. -/
def saveBulletproof (input : ResolutionInput F) (action : KillAction) (reason : String)
    (d : Deaths F) : Deaths F :=
  let d := d.emit (.playerSaved action.target [reason] [action.target])
  if reason == "bulletproof_vest" then
    (d.emit (counterUseCounted input.phaseId ("shield:" ++ reason) action.target reason
      action.cause "shield" "effect" 1 1)).emit
      (.effectsCleared "bulletproof_vest" [action.target] action.target none none)
  else d

def resolveOneKill (input : ResolutionInput F) (protections : Protections) (action : KillAction)
    (d : Deaths F) : Deaths F :=
  let pack := input.pack.document
  if d.killed.contains action.target then
    stackKill pack action.target action.attacker action.cause action.unstoppable d
  else
    let protectors := blockingSources pack protections action.target action.cause
    if !protectors.isEmpty && !action.unstoppable then
      preventKill input protections protectors action d
    else
      match (bulletproofReason action.targetTags).filter fun reason =>
          targetStateSaveBlocksCause pack action.cause reason action.unstoppable with
      | some reason => saveBulletproof input action reason d
      | none =>
        d.kill action.target action.cause [action.attacker] action.unstoppable action.deathReveal
          [{ target := action.target, attacker := action.attacker, cause := action.cause }]

/-- A kill aimed at `target` meets the target-state gate before `resolve_one_kill`. -/
def strike (input : ResolutionInput F) (protections : Protections)
    (transientEffects : BTreeMap SlotId (BTreeSet String)) (attacker : SlotId) (cause : String)
    (unstoppable : Bool) (target : SlotId) (d : Deaths F) : Deaths F :=
  let tags := targetTags input transientEffects target
  if (targetStateGateReason input.pack.document tags .kill).isSome then d
  else
    resolveOneKill input protections
      { target, attacker, cause, unstoppable, deathReveal := deathRevealMode input target cause,
        targetTags := tags }
      d

/-! ## Cascades -/

/-- `player_kill_cause`: the cause of the slot's last kill event. -/
def playerKillCause (events : List (InnerEvent F)) (slotId : SlotId) : Option String :=
  events.reverse.findSome? fun
    | .playerKilled killed cause .. => if killed == slotId then some cause else none
    | _ => none

/-- `chosen_retaliation_suppression_reason`, under the only timing the validator accepts. -/
def chosenRetaliationSuppressionReason (input : ResolutionInput F) (actor : SlotId)
    (deathCause : Option String) : Option String :=
  let policy := input.pack.document.deathRetaliation
  if !policy.enabled then none
  else
    match slotRole input actor with
    | none => none
    | some role =>
      if !policy.eligibleRoles.contains role then none
      else
        match deathCause with
        | none => some "missing_death_cause"
        | some cause =>
          if policy.suppressedDeathCauses.contains cause then some "suppressed_death_cause"
          else if policy.allowedDeathCauses.contains cause then none
          else some "death_cause_not_allowed"

/-- The slot is in the snapshot and alive in it. -/
def aliveInState (input : ResolutionInput F) (slotId : SlotId) : Bool :=
  match input.state.slot? slotId with
  | some slot => slot.isAlive
  | none => false

/-- One record of `apply_chosen_retaliations`. -/
def chosenRetaliation (input : ResolutionInput F) (protections : Protections)
    (killedNow : List SlotId) (d : Deaths F) (retaliation : RetaliationRecord) : Deaths F :=
  if !killedNow.contains retaliation.actor || d.killed.contains retaliation.target then d
  else if (chosenRetaliationSuppressionReason input retaliation.actor
      (playerKillCause d.events retaliation.actor)).isSome then d
  else if !aliveInState input retaliation.target then d
  else
    resolveOneKill input protections
      { target := retaliation.target
        attacker := retaliation.actor
        cause := retaliation.sourceAction
        unstoppable :=
          chosenRetaliationBypassesProtect input.pack.document retaliation.sourceAction
        deathReveal := deathRevealMode input retaliation.target retaliation.sourceAction
        targetTags := targetTags input ∅ retaliation.target }
      d

def applyChosenRetaliations (input : ResolutionInput F) (protections : Protections)
    (d : Deaths F) : Deaths F :=
  input.state.retaliations.foldl (chosenRetaliation input protections d.killed) d

/-- One protection of `apply_cpr_harms`. -/
def cprHarm (input : ResolutionInput F) (target : SlotId) (d : Deaths F)
    (source : ProtectionSource) : Deaths F :=
  match source.cprHarmCause with
  | none => d
  | some cause =>
    if d.cprSaves.contains source.actionId then d
    else if d.killed.contains target then
      stackKill input.pack.document target source.protector cause false d
    else
      d.kill target cause [source.protector] false (deathRevealMode input target cause)
        [{ target, attacker := source.protector, cause }]

def applyCprHarms (input : ResolutionInput F) (protections : Protections) (d : Deaths F) : Deaths F :=
  (protections.toList.filter fun (target, _) =>
      aliveInState input target && !d.killed.contains target).foldl
    (fun d (target, sources) => sources.foldl (cprHarm input target) d) d

/-- One dependency of `apply_guard_dependency_deaths` or `apply_hide_dependency_deaths`; the pair
carries the records generated so far. -/
def dependencyDeath (input : ResolutionInput F) (killedNow : List SlotId)
    (state : Deaths F × List KillRecord) (dependency : DeathDependency) :
    Deaths F × List KillRecord :=
  let (d, generated) := state
  if !killedNow.contains dependency.host || !aliveInState input dependency.dependent then
    (d, generated)
  else if d.killed.contains dependency.dependent then
    if aggregatesKillAttackers input.pack.document then
      let (d, record) := mergeStackedKillAttribution dependency.dependent dependency.host
        dependency.cause true d
      (d, generated ++ record.toList)
    else (d, generated)
  else
    let record : KillRecord :=
      { target := dependency.dependent, attacker := dependency.host, cause := dependency.cause }
    (d.kill dependency.dependent dependency.cause [dependency.host] true
      (deathRevealMode input dependency.dependent dependency.cause) [record],
      generated ++ [record])

def applyGuardDependencyDeaths (input : ResolutionInput F) (dependencies : List DeathDependency)
    (d : Deaths F) : Deaths F × List KillRecord :=
  dependencies.foldl (dependencyDeath input d.killed) (d, [])

def applyHideDependencyDeaths (input : ResolutionInput F) (dependencies : List DeathDependency)
    (d : Deaths F) : Deaths F × List KillRecord :=
  dependencies.foldl (dependencyDeath input d.killed) (d, [])

/-- One target of `apply_guard_witch_same_target_policy`. -/
def guardWitchSameTarget (input : ResolutionInput F) (cause : String) (d : Deaths F)
    (entry : SlotId × List ProtectionSource) : Deaths F :=
  let policy := input.pack.document.guardPolicy
  let (target, sources) := entry
  if d.killed.contains target then d
  else
    let guards := sources.filter fun source => policy.guardActionIds.contains source.templateId
    let witches := sources.filter fun source =>
      policy.witchHealActionIds.contains source.templateId
    if guards.isEmpty || witches.isEmpty then d
    else
      let attackers :=
        ((∅ : BTreeSet SlotId).insertMany ((guards ++ witches).map (·.protector))).toList
      d.kill target cause attackers true (deathRevealMode input target cause)
        (attackers.map fun attacker => { target, attacker, cause })

/-- `apply_guard_witch_same_target_policy`. The validator requires the kill cause with `KillTarget`;
without one, where the source panics, nothing happens here. -/
def applyGuardWitchSameTargetPolicy (input : ResolutionInput F) (protections : Protections)
    (d : Deaths F) : Deaths F :=
  let policy := input.pack.document.guardPolicy
  if !policy.enabled || policy.sameTargetWitch != .killTarget then d
  else
    match policy.sameTargetWitchKillCause with
    | none => d
    | some cause => protections.toList.foldl (guardWitchSameTarget input cause) d

/-- One linked slot of `apply_lover_suicides`; the pair carries the slots generated so far. The
list `recorded` is `recorded_suicides`. -/
def loverSuicide (input : ResolutionInput F) (killedNow : List SlotId) (sourceDead : SlotId)
    (state : Deaths F × List SlotId × List SlotId) (slotId : SlotId) :
    Deaths F × List SlotId × List SlotId :=
  let (d, recorded, generated) := state
  let cause := input.pack.document.loverPolicy.suicideCause
  if slotId == sourceDead || recorded.contains slotId || !aliveInState input slotId then state
  else if killedNow.contains slotId then
    (stackKill input.pack.document slotId sourceDead cause true d, slotId :: recorded, generated)
  else
    (d.kill slotId cause [sourceDead] true (deathRevealMode input slotId cause) [],
      slotId :: recorded, generated ++ [slotId])

/-- One link of a pass of `apply_lover_suicides`. -/
def loverLink (input : ResolutionInput F) (killedNow : List SlotId)
    (state : Deaths F × List SlotId × List SlotId) (link : LinkRecord) :
    Deaths F × List SlotId × List SlotId :=
  match state.1.killed.find? fun slotId => link.slots.contains slotId with
  | none => state
  | some sourceDead => link.slots.foldl (loverSuicide input killedNow sourceDead) state

/-- The `while changed` loop of `apply_lover_suicides`. -/
def loverLoop (input : ResolutionInput F) : Nat → Deaths F × List SlotId × List SlotId →
    Deaths F × List SlotId × List SlotId
  | 0, state => state
  | fuel + 1, state =>
    let next := input.state.linkedSlots.foldl (loverLink input state.1.killed) state
    if next.2.2.length = state.2.2.length then next else loverLoop input fuel next

/-- `apply_lover_suicides`: the state and the slots that died. Each pass but the last kills a linked
slot that no pass killed before, so one pass per linked slot and one more is enough fuel. -/
def applyLoverSuicides (input : ResolutionInput F) (d : Deaths F) : Deaths F × List SlotId :=
  let policy := input.pack.document.loverPolicy
  if !policy.enabled || !policy.suicideOnLoverDeath then (d, [])
  else
    let (d, _, generated) := loverLoop input
      ((input.state.linkedSlots.map (·.slots.length)).sum + 1) (d, [], [])
    (d, generated)

end Fmarch.Resolver
