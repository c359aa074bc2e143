import Fmarch.Resolver.Intake

/-!
# The Block stage and empowered slots

`resolver/suppression.rs`: block sources are indexed by the slot they target, each unsuppressed
action is matched against the sources on its actor in action order, and the actors reached by the
empower fixpoint are exempt. `resolver/redirect.rs` then rewrites the targets of the eligible
actions of every other actor.
-/

namespace Fmarch.Resolver

open Fmarch.Domain Keyed StableSort

variable {F : Type} [Float64 F]

/-! ## Block sources -/

structure BlockSource where
  actor : SlotId
  sourceActionId : String
  templateId : String

def nightResolutionBlockParticipates (pack : Pack F) (template : ActionTemplate F) : Bool :=
  let night := pack.nightResolution
  !night.isExplicit || (night.blockActionIds ++ night.jailkeepActionIds).contains template.id

/-- `night_resolution_block_suppression_scope`. The validator requires a scope on every suppression
policy; a missing one, where the source panics, suppresses nothing here. -/
def nightResolutionBlockSuppressionScope (pack : Pack F) (source : BlockSource)
    (target : ActionTemplate F) : Option SuppressionScope :=
  if !pack.nightResolution.isExplicit then
    if target.constraints.roleblockable then some .allMatchingActions else none
  else
    match pack.nightResolution.suppressionPolicy[source.templateId]? with
    | none => none
    | some policy => if policy.suppresses.contains target.id then policy.scope else none

def indexBlockSources (actions : List (Action F)) (pack : Pack F) : BTreeMap SlotId (List BlockSource) :=
  ((abilityOrder actions .block).filter fun (_, action) =>
      !action.blocked && nightResolutionBlockParticipates pack action.template).foldl
    (fun sources (_, action) =>
      action.targets.foldl (fun sources target =>
          sources.insert target ((sources.getD target []) ++
            [{ actor := action.sub.actor, sourceActionId := action.sub.actionId,
               templateId := action.template.id }]))
        sources)
    ∅

/-- The sources that suppress one action, given the first-match sources already consumed. -/
def suppressingSources (pack : Pack F) (sources : List BlockSource)
    (consumed : List (SlotId × String)) (action : Action F) :
    List (BlockSource × SuppressionScope) :=
  sources.filterMap fun source =>
    match nightResolutionBlockSuppressionScope pack source action.template with
    | none => none
    | some scope =>
      if scope = .firstMatchingAction ∧ consumed.contains (action.sub.actor, source.sourceActionId) then none
      else some (source, scope)

/-- `select_block_candidates`: the positions and actions that some source suppresses. -/
def selectBlockCandidates (pack : Pack F) (blockSources : BTreeMap SlotId (List BlockSource)) :
    List (SlotId × String) → List (Nat × Action F) → List (Nat × Action F)
  | _, [] => []
  | consumed, (index, action) :: rest =>
    if action.blocked then selectBlockCandidates pack blockSources consumed rest
    else
      let suppressing :=
        suppressingSources pack (blockSources.getD action.sub.actor []) consumed action
      if suppressing.isEmpty then selectBlockCandidates pack blockSources consumed rest
      else
        let firstMatches := suppressing.filter fun (_, scope) => scope == .firstMatchingAction
        let consumed := consumed ++
          firstMatches.map fun (source, _) => (action.sub.actor, source.sourceActionId)
        (index, action) :: selectBlockCandidates pack blockSources consumed rest

/-! ## Empowered slots -/

/-- One action of a pass of `discover_empowered_slots`. -/
def empowerAction (effects : List Tag) (blockedIndices : List Nat) (empowered : BTreeSet SlotId)
    (entry : Nat × Action F) : BTreeSet SlotId :=
  let (index, action) := entry
  if action.blocked || !action.hasAbility .mark then empowered
  else
    match action.template.effect with
    | none => empowered
    | some effect =>
      if !effects.contains effect then empowered
      else if blockedIndices.contains index && !empowered.contains action.sub.actor then empowered
      else empowered.insertMany action.targets

/-- The loop of `discover_empowered_slots`: passes over the actions until one adds no slot. -/
def empowerLoop (effects : List Tag) (blockedIndices : List Nat) (entries : List (Nat × Action F)) :
    Nat → BTreeSet SlotId → BTreeSet SlotId
  | 0, empowered => empowered
  | fuel + 1, empowered =>
    let next := entries.foldl (empowerAction effects blockedIndices) empowered
    if next.size = empowered.size then next
    else empowerLoop effects blockedIndices entries fuel next

/-- The actions with their positions. -/
def indexed (actions : List (Action F)) : List (Nat × Action F) :=
  actions.zipIdx.map fun (action, index) => (index, action)

/-- `discover_empowered_slots`. Each pass but the last adds a target, so one pass per submitted
target and one more is enough fuel. -/
def discoverEmpoweredSlots (actions : List (Action F)) (pack : Pack F)
    (blockedIndices : List Nat) : BTreeSet SlotId :=
  if pack.nightResolution.empowerEffects.isEmpty then ∅
  else
    empowerLoop pack.nightResolution.empowerEffects blockedIndices (indexed actions)
      ((actions.map (·.targets.length)).sum + 1) ∅

/-- `resolve_suppression`: the actions, the events pushed, and the empowered slots. -/
def resolveSuppression (pack : Pack F) (actions : List (Action F)) :
    List (Action F) × List (InnerEvent F) × BTreeSet SlotId :=
  let sources := indexBlockSources actions pack
  let candidates := selectBlockCandidates pack sources [] (indexed actions)
  let empowered := discoverEmpoweredSlots actions pack (candidates.map (·.1))
  let newlyBlocked := candidates.filter fun (_, action) => !empowered.contains action.sub.actor
  (newlyBlocked.foldl (fun actions (index, _) => setBlocked actions index) actions,
    newlyBlocked.map fun (_, action) => .actionInterfered action.sub.actor "roleblocked",
    empowered)

/-! ## Redirects -/

/-- `RedirectRule`, less the attribution only traces read. -/
structure RedirectRule where
  group : Nat
  source : Option SlotId
  target : SlotId

def redirectEligible (action : Action F) : Bool :=
  action.hasAbility .kill || action.hasAbility .protect || action.hasAbility .convert ||
    action.hasAbility .grant || action.hasAbility .link || action.hasAbility .retaliate ||
    action.hasAbility .visit || action.hasAbility .investigate

/-- `redirect_target_space`: the targets of the eligible actions, first occurrences in order. -/
def redirectTargetSpace (actions : List (Action F)) : List SlotId :=
  ((actions.filter fun action =>
      !(action.blocked || action.hasAbility .redirect || !redirectEligible action)).flatMap
    (·.targets)).foldl (fun space target =>
      if space.contains target then space else space ++ [target]) []

/-- The rules one redirect action contributes. -/
def redirectActionRules (targetSpace : List SlotId) (group : Nat) (action : Action F) : List RedirectRule :=
  match action.template.redirect, action.targets with
  | some .swap, [first, second] =>
    if first = second then []
    else [⟨group, some first, second⟩, ⟨group, some second, first⟩]
  | some .rotate, first :: second :: third :: rest =>
    let targets := first :: second :: third :: rest
    ((targets.zip (targets.tail ++ [first])).filter fun (source, target) =>
      source != target).map fun (source, target) => ⟨group, some source, target⟩
  | some .retarget, [first, second] =>
    if first = second then [] else [⟨group, some first, second⟩]
  | some .pull, targets =>
    let destination := targets.head?.getD action.sub.actor
    (targetSpace.filter (· != destination)).map fun source => ⟨group, some source, destination⟩
  | _, _ => []

/-- The loop of `build_redirect_rules`: the rules and whether the loop cap cut them. -/
def collectRedirectRules (cap : Nat) (targetSpace : List SlotId) :
    List RedirectRule → List (Nat × Action F) → List RedirectRule × Bool
  | rules, [] => (rules, false)
  | rules, (group, action) :: rest =>
    if action.blocked then collectRedirectRules cap targetSpace rules rest
    else if cap ≤ rules.length then (rules, true)
    else
      collectRedirectRules cap targetSpace (rules ++ redirectActionRules targetSpace group action)
        rest

def buildRedirectRules (actions : List (Action F)) (pack : Pack F) : List RedirectRule × Bool :=
  let cap := pack.redirects.loopCap
  let groups := indexed ((abilityOrder actions .redirect).map (·.2))
  let (rules, truncated) := collectRedirectRules cap (redirectTargetSpace actions) [] groups
  (rules.take cap, truncated || decide (cap < rules.length))

/-- The loop of `apply_redirect_rules`: `applied` is `applied_groups`, one entry for each rule
applied. -/
def redirectTarget (cap : Nat) : List RedirectRule → List Nat → SlotId → SlotId
  | [], _, current => current
  | rule :: rules, applied, current =>
    if cap ≤ applied.length then current
    else if applied.contains rule.group then redirectTarget cap rules applied current
    else if rule.source.all (· == current) then
      redirectTarget cap rules (applied ++ [rule.group]) rule.target
    else redirectTarget cap rules applied current

def applyRedirectRules (target : SlotId) (rules : List RedirectRule) (loopCap : Nat) : SlotId :=
  redirectTarget loopCap rules [] target

/-- `resolve_redirects`: the actions with rewritten targets, and the notes pushed. -/
def resolveRedirects (pack : Pack F) (empowered : BTreeSet SlotId) (actions : List (Action F)) :
    List (Action F) × List String :=
  let (rules, truncated) := buildRedirectRules actions pack
  let notes :=
    if truncated then
      [s!"redirect loop_cap ({pack.redirects.loopCap}) reached; truncating redirect graph rules"]
    else []
  let rewritten := actions.map fun action =>
    if action.blocked || !redirectEligible action || empowered.contains action.sub.actor then
      action
    else
      { action with
        targets := action.targets.map fun target =>
          applyRedirectRules target rules pack.redirects.loopCap }
  (rewritten, notes)

end Fmarch.Resolver
