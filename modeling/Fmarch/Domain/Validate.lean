import Fmarch.Domain.Events

/-!
# Validating a resolution payload

`events.rs`: the envelope of a resolution's inner events and the checks it must pass before it is
stored, `validate_resolution_applied` and `validate_resolution_trace`.
-/

namespace Fmarch.Domain

variable {F : Type} [Float64 F]

/-! ## Envelopes -/

def resultVersion : Nat := 21

def traceVersion : Nat := 1

structure IndexedEvent (F : Type) where
  index : Nat
  event : InnerEvent F

structure ResolutionCounts where
  events : Nat
  kills : Nat
  saves : Nat

structure ResolutionApplied (F : Type) where
  phaseId : PhaseId
  runId : String
  resultVersion : Nat
  seed : UInt64
  counts : ResolutionCounts
  events : List (IndexedEvent F)
  startedAt : Nat
  finishedAt : Nat

/-- `ResolutionTrace`, less the explanations: its identity and the determinism notes. -/
structure ResolutionTrace where
  phaseId : PhaseId
  runId : String
  traceVersion : Nat
  notes : List String

/-- `ResultValidationError`, as far as the two validators return it. -/
inductive ResultValidationError where
  | unsupportedResultVersion (expected actual : Nat)
  | unsupportedTraceVersion (expected actual : Nat)
  | emptyRunId
  | countMismatch (field : String) (expected actual : Nat)
  | indexMismatch (expected actual : Nat)
  | timeOrder (startedAt finishedAt : Nat)
  | investigationResultInvariant (message : String)
  | phaseAnnouncementInvariant (message : String)
  deriving DecidableEq

/-! ## Investigation results -/

def InvestigationResultFields.occupiedKeys (fields : InvestigationResultFields) : List String :=
  [(fields.vanilla.isSome, "vanilla"), (fields.vanillaTown.isSome, "vanilla_town"),
    (fields.hasGun.isSome, "has_gun"), (fields.killer.isSome, "killer"),
    (fields.specialist.isSome, "specialist"), (fields.ptAccess.isSome, "pt_access"),
    (fields.role.isSome, "role"), (fields.alignment.isSome, "alignment"),
    (fields.visited.isSome, "visited"), (fields.visitors.isSome, "visitors"),
    (fields.visitorRoles.isSome, "visitor_roles"), (fields.actions.isSome, "actions"),
    (fields.actionTypes.isSome, "action_types"), (fields.motion.isSome, "motion"),
    (fields.priorMotion.isSome, "prior_motion"), (fields.previous.isSome, "previous"),
    (fields.current.isSome, "current"), (fields.changed.isSome, "changed")].filterMap
    fun (occupied, key) => if occupied then some key else none

/-- `format!("{mode:?}")`. -/
def modeName : InvestigateMode → String
  | .parity => "Parity"
  | .vanilla => "Vanilla"
  | .neapolitan => "Neapolitan"
  | .gunsmith => "Gunsmith"
  | .killer => "Killer"
  | .specialist => "Specialist"
  | .ptAccess => "PtAccess"
  | .role => "Role"
  | .fullRole => "FullRole"
  | .track => "Track"
  | .watch => "Watch"
  | .roleWatcher => "RoleWatcher"
  | .roleGuard => "RoleGuard"
  | .securityGuard => "SecurityGuard"
  | .voyeur => "Voyeur"
  | .actionType => "ActionType"
  | .motion => "Motion"
  | .priorMotion => "PriorMotion"

/-- The keys a mode's result object must have. -/
def expectedKeys : InvestigateMode → List String
  | .parity => ["changed", "current", "previous"]
  | .vanilla => ["vanilla"]
  | .neapolitan => ["vanilla_town"]
  | .gunsmith => ["has_gun"]
  | .killer => ["killer"]
  | .specialist => ["specialist"]
  | .ptAccess => ["pt_access"]
  | .role => ["role"]
  | .fullRole => ["alignment", "role"]
  | .track => ["visited"]
  | .watch => ["visitors"]
  | .roleWatcher | .roleGuard => ["visitor_roles"]
  | .securityGuard => ["visitors"]
  | .voyeur => ["actions"]
  | .actionType => ["action_types"]
  | .motion => ["motion"]
  | .priorMotion => ["prior_motion"]

def validateInvestigationResultFields (index : Nat) (mode : InvestigateMode)
    (fields : InvestigationResultFields) (expected : List String) :
    Except ResultValidationError Unit :=
  let place := "event " ++ toString index ++ " mode " ++ modeName mode
  match fields.occupiedKeys.find? fun key => !expected.contains key with
  | some key =>
    .error (.investigationResultInvariant (place ++ " has unknown result key `" ++ key ++ "`"))
  | none =>
    match expected.find? fun key => key != "previous" && !fields.occupiedKeys.contains key with
    | some key => .error (.investigationResultInvariant (place ++ " missing result key `" ++ key ++ "`"))
    | none => .ok ()

/-- The body of the loop of `validate_investigation_result_invariant`. -/
def validateInvestigationResult (index : Nat) (mode : InvestigateMode)
    (result : InvestigationResultBody) : Except ResultValidationError Unit :=
  let fail (text : String) : Except ResultValidationError Unit :=
    .error (.investigationResultInvariant ("event " ++ toString index ++ " mode " ++ modeName mode ++ text))
  match mode, result with
  | .track, .track _ => .ok ()
  | .track, _ => fail " result must be a visited list"
  | .parity, .label _ => .ok ()
  | .parity, .fields fields =>
    match validateInvestigationResultFields index .parity fields (expectedKeys .parity) with
    | .error error => .error error
    | .ok () =>
      if fields.current.isNone || fields.changed.isNone then
        fail " result must be a string or comparison object"
      else .ok ()
  | .parity, .track _ => fail " result must be a string or comparison object"
  | mode, .fields fields => validateInvestigationResultFields index mode fields (expectedKeys mode)
  | _, _ => fail " result must be an object"

/-- `validate_investigation_result_invariant`. -/
def validateInvestigationResults : List (IndexedEvent F) → Except ResultValidationError Unit
  | [] => .ok ()
  | indexed :: rest =>
    match indexed.event with
    | .investigationResult mode _ _ result =>
      match validateInvestigationResult indexed.index mode result with
      | .error error => .error error
      | .ok () => validateInvestigationResults rest
    | _ => validateInvestigationResults rest

/-! ## The announcement -/

/-- The positions of the events satisfying `p`. -/
def eventIndexes (p : InnerEvent F → Bool) (events : List (IndexedEvent F)) : List Nat :=
  (events.zipIdx.filter fun (indexed, _) => p indexed.event).map (·.2)

/-- The first death of an announcement with a blank text, as its position and the text's field. -/
def blankDeathField (deaths : List Death) : Option (Nat × String) :=
  deaths.zipIdx.findSome? fun (death, index) =>
    if death.templateId.any isBlank then some (index, "template_id")
    else if death.audience.any isBlank then some (index, "audience")
    else none

/-- The checks of the announcement itself. -/
def validateAnnouncement (phaseId : PhaseId) (announcement : PhaseAnnouncement) :
    Except ResultValidationError Unit :=
  let fail (text : String) : Except ResultValidationError Unit :=
    .error (.phaseAnnouncementInvariant text)
  if announcement.phaseId != phaseId then
    fail ("PhaseAnnouncement.phase_id `" ++ announcement.phaseId.canonical ++
      "` must match envelope phase_id `" ++ phaseId.canonical ++ "`")
  else if announcement.templateId.any isBlank then
    fail "PhaseAnnouncement.template_id must not be empty"
  else if announcement.audience.any isBlank then
    fail "PhaseAnnouncement.audience must not be empty"
  else
    match blankDeathField announcement.deaths with
    | some (index, field) =>
      fail ("PhaseAnnouncement.deaths[" ++ toString index ++ "]." ++ field ++ " must not be empty")
    | none => .ok ()

/-- Where the announcement must stand: last, or just before the one win, which must be last. -/
def expectedAnnouncementIndex (winIndex : Option Nat) (length : Nat) : Except ResultValidationError Nat :=
  match winIndex with
  | some winIndex =>
    if winIndex + 1 != length then
      .error (.phaseAnnouncementInvariant "WinReached must be the final event")
    else if winIndex = 0 then
      .error (.phaseAnnouncementInvariant "PhaseAnnouncement must precede final WinReached")
    else .ok (winIndex - 1)
  | none =>
    if length = 0 then
      .error (.phaseAnnouncementInvariant "PhaseAnnouncement must be the final event")
    else .ok (length - 1)

/-- `validate_phase_announcement_invariant`. -/
def validatePhaseAnnouncement (applied : ResolutionApplied F) : Except ResultValidationError Unit :=
  let fail (text : String) : Except ResultValidationError Unit :=
    .error (.phaseAnnouncementInvariant text)
  match eventIndexes (·.isPhaseAnnouncement) applied.events with
  | [announcementIndex] =>
    let wins := eventIndexes (·.isWinReached) applied.events
    if 1 < wins.length then
      fail ("expected at most one trailing WinReached, found " ++ toString wins.length)
    else
      match expectedAnnouncementIndex wins.head? applied.events.length with
      | .error error => .error error
      | .ok expected =>
        if announcementIndex != expected then
          fail ("PhaseAnnouncement must be at index " ++ toString expected ++ ", found " ++
            toString announcementIndex)
        else
          match (applied.events[announcementIndex]?).map IndexedEvent.event with
          | some (.phaseAnnouncement announcement) =>
            validateAnnouncement applied.phaseId announcement
          | _ => .ok ()
  | indexes =>
    fail ("expected exactly one PhaseAnnouncement, found " ++ toString indexes.length)

/-! ## The validators -/

/-- The first event whose index is not its position. -/
def misplacedEvent (events : List (IndexedEvent F)) : Option (Nat × Nat) :=
  (events.zipIdx.find? fun (indexed, expected) => indexed.index != expected).map
    fun (indexed, expected) => (expected, indexed.index)

/-- The first aggregate count that is not the number of events it counts. -/
def miscount (applied : ResolutionApplied F) : Option (String × Nat × Nat) :=
  let events := applied.events.length
  let kills := applied.events.countP (·.event.isPlayerKilled)
  let saves := applied.events.countP (·.event.isPlayerSaved)
  if applied.counts.events != events then some ("events", events, applied.counts.events)
  else if applied.counts.kills != kills then some ("kills", kills, applied.counts.kills)
  else if applied.counts.saves != saves then some ("saves", saves, applied.counts.saves)
  else none

def validateResolutionApplied (applied : ResolutionApplied F) (expectedResultVersion : Nat) :
    Except ResultValidationError Unit :=
  if applied.resultVersion != expectedResultVersion then
    .error (.unsupportedResultVersion expectedResultVersion applied.resultVersion)
  else if applied.runId.isEmpty then .error .emptyRunId
  else if applied.finishedAt < applied.startedAt then
    .error (.timeOrder applied.startedAt applied.finishedAt)
  else
    match misplacedEvent applied.events with
    | some (expected, actual) => .error (.indexMismatch expected actual)
    | none =>
      match miscount applied with
      | some (field, expected, actual) => .error (.countMismatch field expected actual)
      | none =>
        match validateInvestigationResults applied.events with
        | .error error => .error error
        | .ok () => validatePhaseAnnouncement applied

def validateResolutionTrace (trace : ResolutionTrace) (expectedTraceVersion : Nat) :
    Except ResultValidationError Unit :=
  if trace.traceVersion != expectedTraceVersion then
    .error (.unsupportedTraceVersion expectedTraceVersion trace.traceVersion)
  else if trace.runId.isEmpty then .error .emptyRunId
  else .ok ()

end Fmarch.Domain
