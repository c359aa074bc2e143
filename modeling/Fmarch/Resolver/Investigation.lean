import Fmarch.Resolver.Trigger

/-!
# Visits and investigations

`resolver.rs`: which visits an observer can see, and the result of each investigation mode. Visit
readers walk the action list and skip the observer's own action, which is why they take its
position.
-/

namespace Fmarch.Resolver

open Fmarch.Domain Keyed StableSort

variable {F : Type} [Float64 F]

/-! ## Visits -/

def visibleVisit (action : Action F) (pack : Pack F) : Bool :=
  if action.blocked then false
  else
    let observes :=
      match action.template.mode with
      | some .watch | some .roleWatcher | some .roleGuard | some .securityGuard | some .voyeur
      | some .actionType => true
      | _ => false
    if observes then false
    else
      let ninjaHides :=
        match pack.visibility[IrAbility.investigate]? with
        | some rule => rule.unlessModifiers.contains .ninja
        | none => false
      !(ninjaHides && action.template.hasModifier .ninja)

/-- The visible actions other than the observer's own, in action order. -/
def observableActions (actions : List (Action F)) (observerIndex : Nat) (pack : Pack F) : List (Action F) :=
  ((indexed actions).filter fun (index, action) =>
    index != observerIndex && visibleVisit action pack).map (·.2)

def trackedVisits (actions : List (Action F)) (observerIndex : Nat) (tracked : SlotId)
    (pack : Pack F) : List SlotId :=
  (((observableActions actions observerIndex pack).filter (·.sub.actor == tracked)).flatMap
    (·.targets)).eraseDups

/-- The visible visits to a watched slot. -/
def visitsTo (actions : List (Action F)) (observerIndex : Nat) (watched : SlotId)
    (pack : Pack F) : List (Action F) :=
  (observableActions actions observerIndex pack).filter (·.targets.contains watched)

def watchedVisitors (actions : List (Action F)) (observerIndex : Nat) (watched : SlotId)
    (pack : Pack F) : List SlotId :=
  ((visitsTo actions observerIndex watched pack).map (·.sub.actor)).eraseDups

def watchedVisitorRoles (input : ResolutionInput F) (actions : List (Action F))
    (observerIndex : Nat) (watched : SlotId) (pack : Pack F) : List String :=
  ((watchedVisitors actions observerIndex watched pack).filterMap (slotRole input)).eraseDups

def watchedActionIds (actions : List (Action F)) (observerIndex : Nat) (watched : SlotId)
    (pack : Pack F) : List String :=
  ((visitsTo actions observerIndex watched pack).map (·.template.id)).eraseDups

def actionTypeCategory (template : ActionTemplate F) : String :=
  if template.hasAbility .kill then "killing"
  else if template.hasAbility .protect then "protection"
  else if template.hasAbility .investigate then "investigation"
  else if template.hasAbility .block || template.hasAbility .redirect ||
      template.hasAbility .mark || template.hasAbility .clear || template.hasAbility .convert then
    "manipulation"
  else "utility"

def followedActionTypes (actions : List (Action F)) (observerIndex : Nat) (followed : SlotId)
    (pack : Pack F) : List String :=
  sortBy compare
    (((observableActions actions observerIndex pack).filter (·.sub.actor == followed)).map
      (actionTypeCategory ·.template)).eraseDups

def detectedMotion (actions : List (Action F)) (observerIndex : Nat) (target : SlotId)
    (pack : Pack F) : Bool :=
  !(trackedVisits actions observerIndex target pack).isEmpty ||
    !(watchedVisitors actions observerIndex target pack).isEmpty

def priorDetectedMotion (input : ResolutionInput F) (target : SlotId) : Bool :=
  input.state.visitHistory.any fun visit =>
    visit.visible && (visit.actor == target || visit.target == target)

/-! ## Results -/

def parityResult (input : ResolutionInput F)
    (transientEffects : BTreeMap SlotId (BTreeSet String)) (target : SlotId)
    (mode : InvestigateMode) : String :=
  let policy := input.pack.document.investigationResults.parity
  let slot := input.state.slot? target
  let base :=
    match slot.bind (·.alignment) with
    | some alignment =>
      (policy.alignmentResults[alignment]?).getD
        (if alignment == "town" then policy.town else policy.nonTown)
    | none => policy.nonTown
  match slot, input.pack.document.investigationOverrides with
  | some slot, some overrides =>
    let transient := ((transientEffects[target]?).map (·.toList)).getD []
    ((slot.effects ++ transient).findSome? fun tag =>
      (overrides[tag]?).bind fun byMode => byMode[mode]?).getD base
  | _, _ => base

def roleSetContains (roleSet : List RoleKey) (input : ResolutionInput F) (target : SlotId) : Bool :=
  match slotRole input target with
  | some role => roleSet.contains role
  | none => false

def privateTopicAccess (input : ResolutionInput F) (target : SlotId) : List String :=
  ((∅ : BTreeSet String).insertMany ((input.state.privateChannels.filter fun record =>
      record.slotId == target && record.kind != "RolePm").map (·.channelId))).toList

def priorInvestigationResult (input : ResolutionInput F) (investigator target : SlotId)
    (mode : InvestigateMode) (scope : ResultMemoryScope) : Option InvestigationResultBody :=
  (input.state.investigationMemory.find? fun record =>
    record.investigator == investigator && record.mode == mode &&
      (scope == .investigator || record.target == target)).map (·.result)

/-- The result the investigator of a Parity action is shown. -/
def parityBody (input : ResolutionInput F) (action : Action F) (target : SlotId)
    (mode : InvestigateMode) (result : String) : InvestigationResultBody :=
  let memory := action.template.resultMemory
  let visibleResult :=
    (action.template.constraints.uncooperativeResult.filter fun _ =>
      action.template.hasModifier .uncooperative).getD result
  match memory.filter (·.comparePrevious) with
  | none => .label visibleResult
  | some memory =>
    let previous := priorInvestigationResult input action.sub.actor target mode memory.scope
    let changed :=
      match previous with
      | some previous => previous != .label result
      | none => false
    if memory.output = .sameDifferent then
      if previous.isSome then .label (if changed then "different" else "same")
      else .label visibleResult
    else
      .fields
        { previous := previous.bind (·.asLabel)
          current := some visibleResult
          changed := some changed }

/-- The result of every mode but Parity. -/
def investigationBody (input : ResolutionInput F) (actions : List (Action F)) (index : Nat)
    (target : SlotId) (mode : InvestigateMode) : InvestigationResultBody :=
  let pack := input.pack.document
  let roleSets := pack.investigationResults.roleSets
  match mode with
  | .parity => .label ""
  | .vanilla => .fields { vanilla := some (roleSetContains roleSets.vanillaRoles input target) }
  | .neapolitan =>
    .fields
      { vanillaTown := some (roleSetContains roleSets.vanillaRoles input target &&
          slotAlignment input target == some "town") }
  | .gunsmith => .fields { hasGun := some (roleSetContains roleSets.gunBearingRoles input target) }
  | .killer => .fields { killer := some (roleSetContains roleSets.killerRoles input target) }
  | .specialist =>
    .fields { specialist := some (roleSetContains roleSets.specialistRoles input target) }
  | .ptAccess => .fields { ptAccess := some (privateTopicAccess input target) }
  | .role => .fields { role := some ((slotRole input target).getD "") }
  | .fullRole =>
    .fields
      { role := some ((slotRole input target).getD "")
        alignment := some ((slotAlignment input target).getD "") }
  | .track => .track (trackedVisits actions index target pack)
  | .watch | .securityGuard =>
    .fields { visitors := some (watchedVisitors actions index target pack) }
  | .roleWatcher | .roleGuard =>
    .fields { visitorRoles := some (watchedVisitorRoles input actions index target pack) }
  | .voyeur => .fields { actions := some (watchedActionIds actions index target pack) }
  | .actionType => .fields { actionTypes := some (followedActionTypes actions index target pack) }
  | .motion => .fields { motion := some (detectedMotion actions index target pack) }
  | .priorMotion => .fields { priorMotion := some (priorDetectedMotion input target) }

/-- The memory a Parity action keeps of its result. -/
def rememberResult (input : ResolutionInput F) (action : Action F) (target : SlotId)
    (mode : InvestigateMode) (result : String) (d : Deaths F) : Deaths F :=
  match action.template.resultMemory.filter (·.record) with
  | some memory =>
    d.emit (.investigationMemoryRecorded action.sub.actor target mode memory.scope (.label result)
      action.sub.actionId action.template.id input.phaseId)
  | none => d

/-- The Parity branch of the Investigate stage: the result, its memory, and the death of a weak
investigator who found scum. -/
def investigateParity (input : ResolutionInput F)
    (transientEffects : BTreeMap SlotId (BTreeSet String)) (action : Action F) (target : SlotId)
    (mode : InvestigateMode) (d : Deaths F) : Deaths F :=
  let investigator := action.sub.actor
  let result := parityResult input transientEffects target mode
  let d := d.emit (.investigationResult mode investigator target (parityBody input action target mode result))
  let d := rememberResult input action target mode result d
  if action.template.hasModifier .weak && result == "scum" && !d.killed.contains investigator then
    d.kill investigator "weak" [target] true (deathRevealMode input investigator "weak")
      [{ target := investigator, attacker := target, cause := "weak" }]
  else d

/-- One target of the Investigate stage past its target-state gate. -/
def investigateTarget (input : ResolutionInput F) (actions : List (Action F))
    (transientEffects : BTreeMap SlotId (BTreeSet String)) (index : Nat) (action : Action F)
    (mode : InvestigateMode) (target : SlotId) (d : Deaths F) : Deaths F :=
  if mode = .parity then investigateParity input transientEffects action target mode d
  else
    d.emit (.investigationResult mode action.sub.actor target
      (investigationBody input actions index target mode))

end Fmarch.Resolver
