import Fmarch.Resolver.Ita

/-!
# Counting a day's votes

`resolver/outcome.rs`: weights, ballots in submission order with the hammer, tallies, thresholds and
tie breakers, up to the decision. Everything here reads the vote state, the snapshot with the day's
earlier events folded in.
-/

namespace Fmarch.Resolver

open Fmarch.Domain Keyed StableSort

variable {F : Type} [Float64 F]

/-! ## Weights -/

def noLynchTarget : SlotId := "no_lynch"

def activeBadgeVoteWeights (badges : List (BadgeRecord F)) : BTreeMap SlotId F :=
  (∅ : BTreeMap SlotId F).insertMany
    ((badges.filter (!·.destroyed)).filterMap fun badge => do
      let owner ← badge.owner
      let weight ← badge.voteWeight
      some (owner, weight))

def idiotVoteLossApplies (pack : Pack F) (slot : SlotState) : Bool :=
  pack.idiotPolicy.enabled && slot.effects.contains pack.idiotPolicy.voteLossEffect

def maxVoteWeightRule (current : Option (Int × String × F)) (candidate : Int × String × F) :
    Option (Int × String × F) :=
  match current with
  | some (priority, key, weight) =>
    if candidate.1 < priority ∨ (priority = candidate.1 ∧ (compare key candidate.2.1).isGE) then
      some (priority, key, weight)
    else some candidate
  | none => some candidate

def dynamicVoteWeight (policy : DynamicVoteWeightPolicy F) (slot : SlotState)
    (actionGrants : List (ActionGrantRecord F)) : F :=
  let effectRules := (policy.effectRules.filter fun rule => slot.effects.contains rule.effect).map
    fun rule => (rule.priority, "effect:" ++ rule.effect, rule.weight)
  let grantRules := policy.grantRules.flatMap fun rule =>
    (actionGrants.filter fun grant =>
      grant.target == slot.slotId && grant.kind == .voteWeight && grant.grantId == rule.grantId &&
        decide (0 < grant.uses)).filterMap fun grant =>
          grant.voteWeight.map fun weight => (rule.priority, "grant:" ++ rule.grantId, weight)
  match (effectRules ++ grantRules).foldl maxVoteWeightRule none with
  | some (_, _, weight) => weight
  | none => policy.base

/-- The weight of one living slot. -/
def voteWeight (pack : Pack F) (actionGrants : List (ActionGrantRecord F))
    (badgeWeights : BTreeMap SlotId F) (slot : SlotState) : F :=
  let roleWeight :=
    match pack.vote.weights with
    | .equal => Float64.one
    | .perRole weights => weights.getD slot.roleKey Float64.one
    | .dynamic policy => dynamicVoteWeight policy slot actionGrants
  let roleWeight := if idiotVoteLossApplies pack slot then Float64.zero else roleWeight
  badgeWeights.getD slot.slotId roleWeight

/-- The weights of the living slots. -/
def voteWeights (pack : Pack F) (voteState : StateSnapshot F) (badges : List (BadgeRecord F)) :
    BTreeMap SlotId F :=
  let badgeWeights := activeBadgeVoteWeights badges
  (∅ : BTreeMap SlotId F).insertMany
    ((voteState.slots.filter (·.isAlive)).map fun slot =>
      (slot.slotId, voteWeight pack voteState.actionGrants badgeWeights slot))

/-! ## Thresholds -/

/-- The majority of a vote method. -/
def voteMajority (method : VoteMethod) (totalWeight : F) : Option F :=
  match method with
  | .plurality => none
  | .majority =>
    some (Float64.add (Float64.floor (Float64.div totalWeight (Float64.ofNat 2))) Float64.one)
  | .supermajority num den =>
    some (Float64.ceil (Float64.div (Float64.mul totalWeight (Float64.ofNat num)) (Float64.ofNat den)))

/-- The slots of a vote duel. -/
abbrev VoteDuel := Option (List SlotId)

/-- The slot takes part in the duel, if there is one. -/
def inDuel (duel : VoteDuel) (slot : SlotId) : Bool := duel.any (·.contains slot)

/-- A ballot a duel lets stand. -/
def duelAllows (duel : VoteDuel) (target : SlotId) : Bool := duel.all (·.contains target)

/-- The threshold of each living slot. -/
def voteThresholds (policy : VotePolicy F) (voteState : StateSnapshot F) (duel : VoteDuel)
    (majority : Option F) : BTreeMap SlotId F :=
  match majority with
  | none => ∅
  | some base =>
    (∅ : BTreeMap SlotId F).insertMany
      ((voteState.slots.filter (·.isAlive)).map fun slot =>
        (slot.slotId,
          if inDuel duel slot.slotId then Float64.one
          else
            Float64.max (Float64.add base (policy.thresholdAdjustments.getD slot.roleKey Float64.zero))
              Float64.one))

/-! ## Ballots -/

/-- What the ballots are counted against. -/
structure VoteRules (F : Type) [Float64 F] where
  policy : VotePolicy F
  duel : VoteDuel
  weights : BTreeMap SlotId F
  majority : Option F
  thresholds : BTreeMap SlotId F
  /-- `valid_vote_targets`. -/
  valid : List SlotId

def tallyVotes (votes : BTreeMap SlotId SlotId) (weights : BTreeMap SlotId F) : BTreeMap SlotId F :=
  votes.toList.foldl
    (fun tallies (voter, target) =>
      tallies.insert target
        (Float64.add (tallies.getD target Float64.zero) (weights.getD voter Float64.zero)))
    ∅

/-- The votes a duel lets stand. -/
def retainDuel (duel : VoteDuel) (votes : BTreeMap SlotId SlotId) : BTreeMap SlotId SlotId :=
  votes.filter fun _ target => duelAllows duel target

/-- The hammer after a ballot for `target`: the votes it fixes, if it falls. -/
def hammerVotes (rules : VoteRules F) (votes : BTreeMap SlotId SlotId) (target : SlotId) :
    Option (BTreeMap SlotId SlotId) := do
  let counted := retainDuel rules.duel votes
  let base ← rules.majority
  let threshold :=
    if target == noLynchTarget then base else rules.thresholds.getD target base
  if Float64.le threshold ((tallyVotes counted rules.weights).getD target Float64.zero) then
    some counted
  else none

/-- One ballot: the votes, and whether the hammer fell. -/
def castBallot (rules : VoteRules F) (votes : BTreeMap SlotId SlotId) (sub : Submission) :
    BTreeMap SlotId SlotId × Bool :=
  if sub.withdrawn then (votes.erase sub.actor, false)
  else if !rules.weights.contains sub.actor then (votes, false)
  else
    match sub.targets with
    | [] => (votes, false)
    | target :: _ =>
      if !rules.valid.contains target then (votes, false)
      else
        let votes := votes.insert sub.actor target
        if !rules.policy.hammer then (votes, false)
        else
          match hammerVotes rules votes target with
          | some counted => (counted, true)
          | none => (votes, false)

/-- The ballot loop: the votes, the tally after each ballot, and whether the hammer fell. -/
def castBallots (rules : VoteRules F) : List Submission → BTreeMap SlotId SlotId → List (BTreeMap SlotId F) →
    BTreeMap SlotId SlotId × List (BTreeMap SlotId F) × Bool
  | [], votes, history => (votes, history, false)
  | sub :: subs, votes, history =>
    let (votes, hammered) := castBallot rules votes sub
    let history := history ++ [tallyVotes votes rules.weights]
    if hammered then (votes, history, true) else castBallots rules subs votes history

/-! ## The decision -/

def roleTiebreakerWinner (state : StateSnapshot F) (contenders : List SlotId)
    (tiebreakerRoles : List RoleKey) : Option SlotId :=
  contenders.find? fun contender =>
    match state.slot? contender with
    | some slot => tiebreakerRoles.contains slot.roleKey
    | none => false

/-- `(a - b).abs() < f64::EPSILON`. -/
def floatClose (a b : F) : Bool := Float64.lt (Float64.abs (Float64.sub a b)) Float64.epsilon

def earliestReachedWinner (tallyHistory : List (BTreeMap SlotId F)) (contenders : List SlotId)
    (finalTally : F) : Option SlotId :=
  tallyHistory.findSome? fun tallies =>
    contenders.find? fun contender =>
      match tallies[contender]? with
      | some tally => floatClose tally finalTally
      | none => false

/-- `OutcomeDecisionInput`. -/
structure OutcomeDecision (F : Type) where
  tallies : BTreeMap SlotId F
  topContenders : List SlotId
  maxTally : F
  majority : Option F
  thresholds : BTreeMap SlotId F
  tieBreaker : VoteTieBreaker
  roleTiebreakerWinner : Option SlotId
  earliestReachedWinner : Option SlotId
  seed : UInt64
  forceTopContenders : Bool
  hammerReached : Bool

/-- What `decide_outcome` returns. -/
structure VoteDecision where
  status : VoteStatus
  winner : Option SlotId := none
  contenders : List SlotId := []
  tiebreak : Option String := none
  reason : Option String := none

/-- The contenders a majority leaves, with their tallies; none when nobody reached a threshold. -/
def eligibleContenders (decision : OutcomeDecision F) (base : F) : Option (List SlotId) :=
  let eligible := decision.tallies.toList.filter fun (slotId, tally) =>
    Float64.lt Float64.zero tally && Float64.le (decision.thresholds.getD slotId base) tally
  if eligible.isEmpty then none
  else
    let top := (eligible.map (·.2)).foldl Float64.max Float64.zero
    some ((eligible.filter fun (_, tally) => floatClose tally top).map (·.1))

/-- A tied winner who may be the no-lynch option. -/
def tiedWinner (winner : SlotId) (contenders : List SlotId) (tiebreak reason : String) : VoteDecision :=
  if winner == noLynchTarget then
    { status := .noLynch, contenders, tiebreak := some tiebreak, reason := some reason }
  else
    { status := .lynch, winner := some winner, contenders, tiebreak := some tiebreak,
      reason := some reason }

/-- The tie among several contenders. -/
def breakTie (decision : OutcomeDecision F) (contenders : List SlotId) : VoteDecision :=
  match decision.roleTiebreakerWinner.filter (contenders.contains ·) with
  | some winner =>
    { status := .lynch, winner := some winner, contenders, tiebreak := some "RoleTiebreaker",
      reason := some ("role tiebreaker selected " ++ winner) }
  | none =>
    match decision.tieBreaker with
    | .noElimination =>
      { status := .tie, contenders, tiebreak := some "NoElimination",
        reason := some ("plurality tie between " ++ String.intercalate " and " contenders ++
          "; tie_breaker=NoElimination yields no elimination") }
    | .earliestReached =>
      let winner := decision.earliestReachedWinner.getD (contenders.head?.getD "")
      tiedWinner winner contenders "EarliestReached"
        ("earliest reached final tally selected " ++ winner)
    | .hostDecides => { status := .tie, contenders, tiebreak := some "HostDecides" }
    | .random =>
      let (bits, _) := (DetRng.mk (decision.seed ^^^ 0x4441595f564f5445)).nextU64
      let winner := contenders.getD (bits.toNat % contenders.length) ""
      tiedWinner winner contenders "Random" ("seeded random tie_breaker selected " ++ winner)

/-- The decision among the contenders left. -/
def decideContenders (decision : OutcomeDecision F) (contenders : List SlotId) : VoteDecision :=
  match contenders with
  | [contender] =>
    if contender == noLynchTarget then
      { status := .noLynch, contenders, reason := some "no_lynch reached the vote threshold" }
    else
      { status := if decision.hammerReached then .hammer else .lynch, winner := some contender,
        contenders }
  | contenders => breakTie decision contenders

def decideOutcome (decision : OutcomeDecision F) : VoteDecision :=
  if decision.topContenders.isEmpty ||
      (!decision.forceTopContenders && Float64.le decision.maxTally Float64.zero) then
    { status := .noLynch }
  else if decision.forceTopContenders then decideContenders decision decision.topContenders
  else
    match decision.majority with
    | none => decideContenders decision decision.topContenders
    | some base =>
      match eligibleContenders decision base with
      | none => { status := .noMajority, contenders := decision.topContenders }
      | some contenders => decideContenders decision contenders

/-! ## The count -/

/-- The day votes, in submission order. -/
def dayVotes (input : ResolutionInput F) : List Submission :=
  sortBy submissionCmp (input.submissions.filter (·.templateId == "day_vote"))

/-- The rules the ballots of this day are counted by. -/
def voteRules (input : ResolutionInput F) (voteState : StateSnapshot F)
    (badges : List (BadgeRecord F)) (duel : VoteDuel) : VoteRules F :=
  let policy := input.pack.document.vote
  let weights := voteWeights input.pack.document voteState badges
  let majority := voteMajority policy.method (Float64.sum weights.values)
  let alive := (voteState.slots.filter (·.isAlive)).map (·.slotId)
  { policy, duel, weights, majority
    thresholds := voteThresholds policy voteState duel majority
    valid := if policy.noLynchAllowed then noLynchTarget :: alive else alive }

/-- The tallies of the final votes; a duel's participants always have one. -/
def finalTallies (rules : VoteRules F) (votes : BTreeMap SlotId SlotId) : BTreeMap SlotId F :=
  ((rules.duel.getD []).filter (rules.valid.contains ·)).foldl
    (fun tallies participant =>
      if tallies.contains participant then tallies else tallies.insert participant Float64.zero)
    (tallyVotes votes rules.weights)

/-- The contenders with the top tally, in slot order. -/
def topContenders (duel : VoteDuel) (tallies : BTreeMap SlotId F) (maxTally : F) : List SlotId :=
  if duel.isSome && Float64.le maxTally Float64.zero then tallies.keys
  else
    (tallies.toList.filter fun (_, tally) =>
      Float64.lt Float64.zero maxTally && floatClose tally maxTally).map (·.1)

/-- `resolve_day_vote` up to its outcome. With a duel the tie breaker is the duel's, whose only
value is a random choice. -/
def countVotes (input : ResolutionInput F) (voteState : StateSnapshot F)
    (badges : List (BadgeRecord F)) (duel : VoteDuel) : DayVoteOutcome F :=
  let rules := voteRules input voteState badges duel
  let (votes, history, hammered) := castBallots rules (dayVotes input) ∅ []
  let votes := if hammered then votes else retainDuel duel votes
  let tallies := finalTallies rules votes
  let maxTally := tallies.values.foldl Float64.max Float64.zero
  let top := topContenders duel tallies maxTally
  let decision := decideOutcome
    { tallies
      topContenders := top
      maxTally
      majority := rules.majority
      thresholds := rules.thresholds
      tieBreaker := if duel.isSome then .random else rules.policy.tieBreaker
      roleTiebreakerWinner := roleTiebreakerWinner voteState top rules.policy.tiebreakerRoles
      earliestReachedWinner := earliestReachedWinner history top maxTally
      seed := input.seed
      forceTopContenders := duel.isSome
      hammerReached := hammered }
  { status := decision.status
    winner := decision.winner
    contenders := decision.contenders
    tallies
    votes
    weights := rules.weights
    majority := rules.majority
    thresholds := rules.thresholds
    totalWeight := Float64.sum rules.weights.values
    tiebreak := decision.tiebreak
    reason := decision.reason }

end Fmarch.Resolver
