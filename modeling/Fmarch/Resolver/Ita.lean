import Fmarch.Resolver.DayActions

/-!
# ITA sessions

`resolver.rs`: the host's session controls, the shots of the day (those submitted now and those
released from a session's buffer), and the closing report of each open session.
-/

namespace Fmarch.Resolver

open Fmarch.Domain Keyed StableSort

variable {F : Type} [Float64 F]

/-! ## Lifecycle controls -/

/-- `ItaLifecycleResolution`, with the statuses of the loop and the events pushed. -/
structure ItaLifecycle (F : Type) where
  opened : BTreeSet String := ∅
  blocked : BTreeMap String String := ∅
  statuses : BTreeMap String String := ∅
  events : List (InnerEvent F) := []

/-- `format!("{control:?}")`. -/
def controlName : ItaSessionControlKind → String
  | .opened => "Open"
  | .pause => "Pause"
  | .cancel => "Cancel"
  | .update => "Update"
  | .close => "Close"

/-- The order in which the controls apply. -/
def controlCmp : ItaSessionControlInput → ItaSessionControlInput → Ordering :=
  compareLex (compareOn (·.recordedAt))
    (compareLex (compareOn (·.sessionId)) (compareOn (controlName ·.control)))

/-- The status a control leads to. -/
def controlStatus (control : ItaSessionControlKind) (fromStatus : String) : String :=
  match control with
  | .opened => "open"
  | .pause => "paused"
  | .cancel => "cancelled"
  | .update => fromStatus
  | .close => "closed"

def itaSessionOpened (input : ResolutionInput F) (session : ItaSessionSpec F) : InnerEvent F :=
  .itaSessionOpened session.sessionId session.label session.day session.window "open"
    input.phaseId

/-- The events one control pushes. -/
def controlEvents (input : ResolutionInput F) (session : ItaSessionSpec F)
    (control : ItaSessionControlInput) (fromStatus : String) : List (InnerEvent F) :=
  let toStatus := controlStatus control.control fromStatus
  (if control.control = .opened then [itaSessionOpened input session] else []) ++
    [.itaSessionLifecycleChanged control.sessionId control.control fromStatus toStatus
        control.message control.recordedAt input.phaseId,
      .itaSessionAnnouncement control.sessionId toStatus control.message control.recordedAt input.phaseId] ++
    (if control.control = .close then
      [.itaSessionClosed control.sessionId fromStatus input.phaseId] else [])

/-- One control of `resolve_ita_lifecycle_controls`. -/
def itaControl (input : ResolutionInput F) (lifecycle : ItaLifecycle F)
    (control : ItaSessionControlInput) : ItaLifecycle F :=
  let policy := input.pack.document.ita
  match policy.sessions.reverse.find? (·.sessionId == control.sessionId) with
  | none => lifecycle
  | some session =>
    if !policy.lifecycle.allows control.control then lifecycle
    else
      let fromStatus := lifecycle.statuses.getD control.sessionId "scheduled"
      let toStatus := controlStatus control.control fromStatus
      { opened :=
          if control.control = .opened then lifecycle.opened.insert control.sessionId
          else lifecycle.opened
        blocked :=
          match control.control with
          | .pause | .cancel | .close => lifecycle.blocked.insert control.sessionId toStatus
          | .opened => lifecycle.blocked.erase control.sessionId
          | .update => lifecycle.blocked
        statuses := lifecycle.statuses.insert control.sessionId toStatus
        events := lifecycle.events ++ controlEvents input session control fromStatus }

def resolveItaLifecycleControls (input : ResolutionInput F) : ItaLifecycle F :=
  (sortBy controlCmp input.dayPhaseInputs.itaSessionControls).foldl (itaControl input) {}

/-! ## Sessions and chances -/

def itaSessionActive (input : ResolutionInput F) (session : ItaSessionSpec F) : Bool :=
  match session.day with
  | some day => day == input.state.phaseId.number
  | none => true

def itaSessionForSubmission (input : ResolutionInput F) (sub : Submission) : Option (ItaSessionSpec F) :=
  let sessions := input.pack.document.ita.sessions
  match (sub.metadata["ita_session_id"]?).bind (·.asStr) with
  | some sessionId => sessions.find? fun session =>
      session.sessionId == sessionId && itaSessionActive input session
  | none => sessions.find? (itaSessionActive input)

def itaHitChance (input : ResolutionInput F) (session : ItaSessionSpec F) (actor target : SlotState) : F :=
  let policy := input.pack.document.ita
  let actorOverride := policy.effectiveRoleOverride actor.roleKey
  let targetOverride := policy.effectiveRoleOverride target.roleKey
  let base := session.hitChance.getD policy.defaultHitChance
  Float64.clamp
    (Float64.sub (Float64.sub (Float64.add base actorOverride.hitBonus) actorOverride.hitPenalty)
      targetOverride.targetEvade)
    Float64.zero Float64.one

/-- `record`s of the buffer due now, as submissions. -/
def releasedSubmissions (input : ResolutionInput F) : List Submission :=
  (input.state.bufferedItaShots.filter fun record =>
      decide (record.releaseAt ≤ input.logicalTime) && input.pack.document.ita.sessions.any fun session =>
          session.sessionId == record.sessionId && itaSessionActive input session).map
    fun record =>
      { actionId := record.actionId
        actor := record.actor
        templateId := record.templateId
        targets := record.targets
        phaseId := input.phaseId
        submittedAt := record.submittedAt
        metadata := (∅ : BTreeMap String Json)
          |>.insert "ita_session_id" (.string record.sessionId)
          |>.insert "ita_buffer_release" (.bool true) }

/-! ## Shots -/

/-- The local variables of the shot loop. -/
structure Ita (F : Type) where
  day : Day F
  rng : DetRng
  opened : BTreeSet String
  counters : BTreeMap String ItaCounters := ∅
  resolved : BTreeMap String Nat := ∅
  invalidated : BTreeMap String Nat := ∅
  buffered : BTreeMap String Nat := ∅
  killsByTarget : BTreeMap SlotId String := ∅

/-- `*map.entry(key).or_insert(0) += 1`. -/
def bump (counts : BTreeMap String Nat) (key : String) : BTreeMap String Nat :=
  counts.insert key (counts.getD key 0 + 1)

def decrementItaCounter (counts : BTreeMap SlotId Nat) (key : SlotId) : BTreeMap SlotId Nat :=
  match counts[key]? with
  | none => counts
  | some value => if value - 1 = 0 then counts.erase key else counts.insert key (value - 1)

namespace Ita

variable {F : Type}

/-- Push one event. -/
def emit (ita : Ita F) (event : InnerEvent F) : Ita F := { ita with day := ita.day.emit event }

/-- Suppress a shot. -/
def interfere (ita : Ita F) (sub : Submission) (reason : String) : Ita F :=
  ita.emit (.actionInterfered sub.actor reason)

end Ita

/-- `opened.insert`, with its event the first time. -/
def openSession (input : ResolutionInput F) (session : ItaSessionSpec F) (ita : Ita F) : Ita F :=
  if ita.opened.contains session.sessionId then ita
  else
    { ita.emit (itaSessionOpened input session) with
      opened := ita.opened.insert session.sessionId }

/-- A shot enters its session's queue: the counters, and the event. -/
def queueShot (session : ItaSessionSpec F) (sub : Submission) (target : SlotId)
    (counters : ItaCounters) : ItaCounters × InnerEvent F :=
  let previous := counters.globalShotsFired
  let counters := { counters with
    globalShotsFired := previous + 1
    perShooter := bump counters.perShooter sub.actor
    perTarget := bump counters.perTarget target }
  (counters, .itaShotQueued session.sessionId sub.actionId sub.actor sub.targets sub.submittedAt
      (previous + 1) counters.globalShotsFired previous counters)

/-- A shot at a target dead before the session is refunded. -/
def refundShot (input : ResolutionInput F) (session : ItaSessionSpec F) (sub : Submission)
    (actorSlot targetSlot : SlotState) (ita : Ita F) : Ita F :=
  let target := targetSlot.slotId
  let (counters, queued) :=
    queueShot session sub target (ita.counters.getD session.sessionId {})
  let counters := { counters with
    globalShotsFired := counters.globalShotsFired - 1
    perShooter := decrementItaCounter counters.perShooter sub.actor
    perTarget := decrementItaCounter counters.perTarget target
    shotsRefunded := saturatingAddU32 counters.shotsRefunded 1
    refundedByReason := bump counters.refundedByReason "target_dead" }
  let (roll, rng) := (ita.rng.nextF64 : F × DetRng)
  { (ita.emit queued).emit
      (.itaShotRefunded session.sessionId sub.actionId sub.actor target "target_dead"
        (some "REFUND_SHOT") (some (itaHitChance input session actorSlot targetSlot)) (some roll)
        (some 0) (some 0) (some "hp") sub.submittedAt sub.submittedAt counters) with
    rng, counters := ita.counters.insert session.sessionId counters }

def itaShieldsBefore (input : ResolutionInput F) (counters : ItaCounters) (target : SlotState) : Nat :=
  counters.shieldsRemaining.getD target.slotId
    (input.pack.document.ita.effectiveRoleOverride target.roleKey).shields

def itaHpBefore (input : ResolutionInput F) (counters : ItaCounters) (target : SlotState) : Nat :=
  counters.hpRemaining.getD target.slotId
    (input.pack.document.ita.effectiveRoleOverride target.roleKey).hitPoints

/-- What a rolled shot does to its target. -/
structure ShotResult where
  outcome : ItaShotOutcome
  hit : Bool
  shieldBefore : Nat
  shieldAfter : Nat
  shieldSpent : Bool
  hpBefore : Nat
  hpAfter : Nat
  hpDamaged : Bool

/-- The arithmetic of one rolled shot. -/
def shotResult (shouldHit : Bool) (shieldBefore hpBefore : Nat) : ShotResult :=
  let shieldSpent := shouldHit && decide (0 < shieldBefore)
  let hpDamaged := shouldHit && !shieldSpent && decide (0 < hpBefore)
  let hpAfter := if hpDamaged then hpBefore - 1 else hpBefore
  let outcome : ItaShotOutcome :=
    if !shouldHit then .miss else if shieldSpent then .blocked else .hit
  { outcome
    hit := outcome == .hit && (hpBefore == 0 || hpAfter == 0)
    shieldBefore
    shieldAfter := if shieldSpent then shieldBefore - 1 else shieldBefore
    shieldSpent
    hpBefore
    hpAfter
    hpDamaged }

/-- The session counters after one rolled shot. -/
def countShot (target : SlotId) (shot : ShotResult) (counters : ItaCounters) : ItaCounters :=
  { counters with
    shieldsRemaining :=
      if 0 < shot.shieldBefore then counters.shieldsRemaining.insert target shot.shieldAfter
      else counters.shieldsRemaining
    shieldsSpent :=
      if shot.shieldSpent then bump counters.shieldsSpent target else counters.shieldsSpent
    hpRemaining :=
      if 0 < shot.hpBefore then counters.hpRemaining.insert target shot.hpAfter
      else counters.hpRemaining
    hpDamage := if shot.hpDamaged then bump counters.hpDamage target else counters.hpDamage
    shotsResolved := counters.shotsResolved + 1
    hitsLanded := counters.hitsLanded + if shot.outcome = .hit then 1 else 0
    shotsMissed := counters.shotsMissed + if shot.outcome = .miss then 1 else 0
    shotsBlocked := counters.shotsBlocked + if shot.outcome = .blocked then 1 else 0 }

/-- The events of one rolled shot. -/
def shotEvents (input : ResolutionInput F) (session : ItaSessionSpec F) (sub : Submission)
    (template : ActionTemplate F) (target : SlotId) (hitChance roll : F) (shot : ShotResult)
    (counters : ItaCounters) : List (InnerEvent F) :=
  let shielded := decide (0 < shot.shieldBefore)
  let hardy := decide (0 < shot.hpBefore)
  let resolved := .itaShotResolved session.sessionId sub.actionId sub.actor target shot.outcome
    hitChance roll shot.hit
    (if shielded then some shot.shieldBefore else none)
    (if shielded then some shot.shieldAfter else none) shot.shieldSpent
    (if hardy then some shot.hpBefore else none) (if hardy then some shot.hpAfter else none)
    (if shielded then some "shield" else if hardy then some "hp" else none) sub.submittedAt
    sub.submittedAt counters
  if shot.hit then
    [resolved, .playerKilled target template.id [sub.actor] true (deathRevealMode input target template.id)]
  else [resolved]

/-- A queued shot at a living target is rolled. -/
def rollShot (input : ResolutionInput F) (session : ItaSessionSpec F) (sub : Submission)
    (template : ActionTemplate F) (actorSlot targetSlot : SlotState) (ita : Ita F) : Ita F :=
  let target := targetSlot.slotId
  let counters := ita.counters.getD session.sessionId {}
  let hitChance := itaHitChance input session actorSlot targetSlot
  let (roll, rng) := (ita.rng.nextF64 : F × DetRng)
  let shot := shotResult (Float64.le roll hitChance) (itaShieldsBefore input counters targetSlot)
    (itaHpBefore input counters targetSlot)
  let counters := countShot target shot counters
  { ita with
    day := ita.day.commit
      (shotEvents input session sub template target hitChance roll shot counters)
    rng
    counters := ita.counters.insert session.sessionId counters
    resolved := bump ita.resolved session.sessionId
    killsByTarget :=
      if shot.hit then ita.killsByTarget.insert target sub.actionId else ita.killsByTarget }

/-- The session use a shot records when its session limits shots. -/
def countSessionUse (input : ResolutionInput F) (session : ItaSessionSpec F) (sub : Submission)
    (template : ActionTemplate F) (uses : Nat) (ita : Ita F) : Ita F :=
  match session.shotLimit with
  | some limit =>
    ita.emit (daySessionUseCounted input sub.actor session.sessionId template.id sub.actionId
      limit (saturatingAddU16 uses 1))
  | none => ita

/-- The notice that an earlier shot already killed the target, or the roll. -/
def settleShot (input : ResolutionInput F) (session : ItaSessionSpec F) (sub : Submission)
    (template : ActionTemplate F) (actorSlot targetSlot : SlotState)
    (invalidatedBy : Option String) (ita : Ita F) : Ita F :=
  match invalidatedBy with
  | some killer =>
    { ita.emit (.itaShotInvalidated session.sessionId sub.actionId sub.actor targetSlot.slotId
        "target_dead" (some killer) sub.submittedAt sub.submittedAt) with
      invalidated := bump ita.invalidated session.sessionId }
  | none => rollShot input session sub template actorSlot targetSlot ita

/-- A shot past its session, actor, target and buffer checks: the session limit, the queue, and then
the roll, or the notice that an earlier shot already killed the target. -/
def fireShot (input : ResolutionInput F) (session : ItaSessionSpec F) (sub : Submission)
    (template : ActionTemplate F) (actorSlot targetSlot : SlotState)
    (invalidatedBy : Option String) (ita : Ita F) : Ita F :=
  let counters := ita.counters.getD session.sessionId {}
  let prior := daySessionCounterUsed input.state.useCounters sub.actor session.sessionId template.id
  let current := min (counters.perShooter.getD sub.actor 0) (2 ^ 16 - 1)
  let uses := saturatingAddU16 prior current
  if session.shotLimit.any (decide <| · ≤ uses) then ita.interfere sub "day_session_exhausted"
  else
    let ita := countSessionUse input session sub template uses ita
    let (counters, queued) := queueShot session sub targetSlot.slotId counters
    settleShot input session sub template actorSlot targetSlot invalidatedBy
      { ita.emit queued with counters := ita.counters.insert session.sessionId counters }

/-- A shot with a living actor and a known target. -/
def aimedShot (input : ResolutionInput F) (session : ItaSessionSpec F) (sub : Submission)
    (template : ActionTemplate F) (actorSlot targetSlot : SlotState) (ita : Ita F) : Ita F :=
  let policy := input.pack.document.ita.resolutionPolicy
  let invalidatedBy :=
    if targetSlot.isAlive then none else ita.killsByTarget[targetSlot.slotId]?
  let deadBefore := !targetSlot.isAlive && invalidatedBy.isNone
  let refund := deadBefore && policy.onTargetAlreadyDead == .refundShot
  if deadBefore && !refund then ita.interfere sub "ita_target_dead"
  else
    let released := ((sub.metadata["ita_buffer_release"]?).bind (·.asBool)).getD false
    match session.bufferDelayMs.filter fun _ => !released with
    | some delay =>
      { ita.emit (.itaShotBuffered session.sessionId sub.actionId template.id sub.actor sub.targets
          sub.submittedAt (saturatingAddU64 sub.submittedAt delay) delay) with
        buffered := bump ita.buffered session.sessionId }
    | none =>
      if refund then refundShot input session sub actorSlot targetSlot ita
      else fireShot input session sub template actorSlot targetSlot invalidatedBy ita

/-- One shot of the loop of `resolve_ita_actions`. -/
def itaShot (input : ResolutionInput F) (blocked : BTreeMap String String) (ita : Ita F)
    (entry : Submission × ActionTemplate F) : Ita F :=
  let (sub, template) := entry
  match itaSessionForSubmission input sub with
  | none => ita.interfere sub "ita_session_missing"
  | some session =>
    match blocked[session.sessionId]? with
    | some status => ita.interfere sub ("ita_session_" ++ status)
    | none =>
      let ita := openSession input session ita
      match sub.targets with
      | [] => ita.interfere sub "ita_missing_target"
      | target :: _ =>
        match ita.day.state.slot? sub.actor with
        | none => ita.interfere sub "ita_actor_unknown"
        | some actorSlot =>
          if !actorSlot.isAlive then ita.interfere sub "ita_actor_dead"
          else
            match ita.day.state.slot? target with
            | none => ita.interfere sub "ita_target_unknown"
            | some targetSlot => aimedShot input session sub template actorSlot targetSlot ita

/-- The closing report of one session. -/
def sessionReport (input : ResolutionInput F) (blocked : BTreeMap String String) (ita : Ita F)
    (session : ItaSessionSpec F) : List (InnerEvent F) :=
  let id := session.sessionId
  if !ita.opened.contains id || blocked.contains id then []
  else
    let counters := ita.counters.getD id {}
    let resolved := ita.resolved.getD id 0
    let queueLength :=
      counters.globalShotsFired - saturatingAddU32 resolved (ita.invalidated.getD id 0)
    let updated := .itaSessionUpdated id queueLength
      ((queueLength : Int) - counters.globalShotsFired) resolved counters.globalShotsFired counters
      input.phaseId
    if input.pack.document.ita.autoClose && ita.buffered.getD id 0 == 0 then
      [updated, .itaSessionClosed id "open" input.phaseId]
    else [updated]

/-- The local variables of the shot loop before its first shot. -/
def itaStart (input : ResolutionInput F) (events : List (InnerEvent F)) : Ita F where
  day := { events, state := applyEvents input.state events }
  rng := ⟨input.seed ^^^ 0x4954415f53484f54⟩
  opened := (resolveItaLifecycleControls input).opened

/-- `resolve_ita_actions`: the events after those of the caller. -/
def resolveItaActions (input : ResolutionInput F) (events : List (InnerEvent F)) : List (InnerEvent F) :=
  if input.pack.document.ita.sessions.isEmpty then events
  else
    let lifecycle := resolveItaLifecycleControls input
    let events := events ++ lifecycle.events
    let shots := sortBy dayPriorityCmp (templatedOf input (openWith input .itaShot)
      (input.submissions ++ releasedSubmissions input))
    if shots.isEmpty && lifecycle.opened.isEmpty then events
    else
      let ita := shots.foldl (itaShot input lifecycle.blocked) (itaStart input events)
      ita.day.events ++ input.pack.document.ita.sessions.flatMap (sessionReport input lifecycle.blocked ita)

end Fmarch.Resolver
