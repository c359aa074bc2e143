import Fmarch.Lib.Fallible
import Fmarch.Platform.Values

/-!
# Memberships and invitations (`community_membership`)

Two state machines. A membership is founded, admitted by an invitation, or admitted for release
acceptance; it may be suspended and restored, withdrawn, and in the end redacted. An invitation is issued
by a sponsor and ends accepted or revoked. For each, a decision turns a command into events or rejects it,
and a fold turns the events into the state; the fold refuses what no decision emits.

`decideMembership_emits` and `decideInvitation_emits` say what a decision emits, and
**`foldMembership_emits`** and **`foldInvitation_emits`** that the fold takes it.
-/

namespace Fmarch.Community

open Platform

abbrev MembershipId := Uuid

abbrev InvitationId := Uuid

/-! ## Memberships -/

inductive MembershipStatus where
  | active
  | suspended
  | withdrawn
  | redacted
  deriving DecidableEq

def MembershipStatus.canInvite (status : MembershipStatus) : Bool := status == .active

inductive MembershipOrigin where
  | founder
  | invitation (invitationId : InvitationId) (sponsoringMembershipId : MembershipId)
  | releaseAcceptance
  deriving DecidableEq

structure MembershipState where
  membershipId : MembershipId
  status : MembershipStatus
  origin : MembershipOrigin
  revision : Nat

def MembershipState.canSponsor (state : MembershipState) : Bool :=
  state.status.canInvite && state.origin != .releaseAcceptance

inductive MembershipCommand where
  | found
  | admitInvited (invitationId : InvitationId) (sponsoringMembershipId : MembershipId)
  | admitForReleaseAcceptance
  | suspend (reason : String)
  | restore
  | withdraw
  | redact (retainedAlias : String)

inductive MembershipEvent where
  | founded
  | admitted (invitationId : InvitationId) (sponsoringMembershipId : MembershipId)
  | admittedForReleaseAcceptance
  | suspended (reason : String)
  | restored
  | withdrawn
  | redacted (retainedAlias : String)

inductive MembershipReject where
  | alreadyExists
  | notFound
  | notActive
  | alreadySuspended
  | notSuspended
  | terminal
  | invalidReason
  | invalidAlias
  | selfSponsorship

/-- The `Withdrawn | Redacted` of `decide_membership`. -/
def MembershipStatus.isTerminal (status : MembershipStatus) : Bool :=
  status == .withdrawn || status == .redacted

/-- The check of a trimmed text against a greatest number of characters. -/
def textOk (text : String) (most : Nat) : Bool := !text.isEmpty && decide (text.length ≤ most)

def decideMembership (membershipId : MembershipId) (state : Option MembershipState)
    (command : MembershipCommand) : Except MembershipReject (List MembershipEvent) :=
  match state, command with
  | none, .found => .ok [.founded]
  | none, .admitForReleaseAcceptance => .ok [.admittedForReleaseAcceptance]
  | none, .admitInvited invitationId sponsoringMembershipId =>
    if sponsoringMembershipId = membershipId then .error .selfSponsorship
    else .ok [.admitted invitationId sponsoringMembershipId]
  | none, _ => .error .notFound
  | some _, .found | some _, .admitInvited .. | some _, .admitForReleaseAcceptance => .error .alreadyExists
  | some state, .suspend reason =>
    if state.status = .suspended then .error .alreadySuspended
    else if state.status.isTerminal then .error .terminal
    else if textOk (trim reason) 280 then .ok [.suspended (trim reason)]
    else .error .invalidReason
  | some state, .restore =>
    if state.status ≠ .suspended then .error .notSuspended else .ok [.restored]
  | some state, .withdraw =>
    if state.status.isTerminal then .error .terminal else .ok [.withdrawn]
  | some state, .redact retainedAlias =>
    if state.status = .redacted then .error .terminal
    else if textOk (trim retainedAlias) 128 then .ok [.redacted (trim retainedAlias)]
    else .error .invalidAlias

def foldMembership (membershipId : MembershipId) (state : Option MembershipState)
    (event : MembershipEvent) : Except MembershipReject MembershipState :=
  match state, event with
  | none, .founded => .ok { membershipId, status := .active, origin := .founder, revision := 1 }
  | none, .admittedForReleaseAcceptance =>
    .ok { membershipId, status := .active, origin := .releaseAcceptance, revision := 1 }
  | none, .admitted invitationId sponsoringMembershipId =>
    .ok { membershipId, status := .active
          origin := .invitation invitationId sponsoringMembershipId, revision := 1 }
  | none, _ => .error .notFound
  | some _, .founded | some _, .admitted .. | some _, .admittedForReleaseAcceptance =>
    .error .alreadyExists
  | some state, .suspended _ =>
    .ok { state with status := .suspended, revision := state.revision + 1 }
  | some state, .restored => .ok { state with status := .active, revision := state.revision + 1 }
  | some state, .withdrawn =>
    .ok { state with status := .withdrawn, revision := state.revision + 1 }
  | some state, .redacted _ =>
    .ok { state with status := .redacted, revision := state.revision + 1 }

/-! ## Invitations -/

inductive InvitationStatus where
  | issued
  | accepted
  | revoked
  deriving DecidableEq

structure InvitationState where
  invitationId : InvitationId
  sponsoringMembershipId : MembershipId
  targetIndex : String
  expiresAt : Int
  status : InvitationStatus
  admittedMembershipId : Option MembershipId
  revision : Nat

inductive InvitationCommand where
  | issue (sponsoringMembershipId : MembershipId) (targetIndex : String) (expiresAt now : Int)
  | accept (admittedMembershipId : MembershipId) (presentedTargetIndex : String) (now : Int)
  | revoke

inductive InvitationEvent where
  | issued (sponsoringMembershipId : MembershipId) (targetIndex : String) (expiresAt : Int)
  | accepted (admittedMembershipId : MembershipId)
  | revoked

inductive InvitationReject where
  | alreadyExists
  | notFound
  | sponsorIneligible
  | invalidExpiry
  | invalidTarget
  | terminal
  | expired
  | targetMismatch

/-- The sponsor named is the one loaded, and may sponsor. -/
def sponsors (sponsor : Option MembershipState) (sponsoringMembershipId : MembershipId) : Bool :=
  sponsor.any fun state => state.membershipId == sponsoringMembershipId && state.canSponsor

variable {sponsor : Option MembershipState}

theorem sponsors_iff {sponsoringMembershipId : MembershipId} :
    sponsors sponsor sponsoringMembershipId ↔ ∃ state, sponsor = some state ∧
      state.membershipId = sponsoringMembershipId ∧ state.status = .active ∧
      state.origin ≠ .releaseAcceptance := by
  cases sponsor with
  | none => simp [sponsors]
  | some state =>
    simp [sponsors, MembershipState.canSponsor, MembershipStatus.canInvite]

def decideInvitation (state : Option InvitationState) (sponsor : Option MembershipState)
    (command : InvitationCommand) : Except InvitationReject (List InvitationEvent) :=
  match state, command with
  | none, .issue sponsoringMembershipId targetIndex expiresAt now =>
    if !sponsors sponsor sponsoringMembershipId then .error .sponsorIneligible
    else if expiresAt ≤ now then .error .invalidExpiry
    else if (trim targetIndex).isEmpty ∨ 128 < targetIndex.utf8ByteSize then .error .invalidTarget
    else .ok [.issued sponsoringMembershipId targetIndex expiresAt]
  | some _, .issue .. => .error .alreadyExists
  | none, _ => .error .notFound
  | some state, .revoke =>
    if state.status ≠ .issued then .error .terminal else .ok [.revoked]
  | some state, .accept admittedMembershipId presentedTargetIndex now =>
    if state.status ≠ .issued then .error .terminal
    else if state.expiresAt ≤ now then .error .expired
    else if !sponsors sponsor state.sponsoringMembershipId then .error .sponsorIneligible
    else if presentedTargetIndex ≠ state.targetIndex then .error .targetMismatch
    else .ok [.accepted admittedMembershipId]

def foldInvitation (invitationId : InvitationId) (state : Option InvitationState)
    (event : InvitationEvent) : Except InvitationReject InvitationState :=
  match state, event with
  | none, .issued sponsoringMembershipId targetIndex expiresAt =>
    .ok { invitationId, sponsoringMembershipId, targetIndex, expiresAt, status := .issued
          admittedMembershipId := none, revision := 1 }
  | none, _ => .error .notFound
  | some _, .issued .. => .error .alreadyExists
  | some state, .accepted admittedMembershipId =>
    .ok { state with
      status := .accepted, admittedMembershipId := some admittedMembershipId
      revision := state.revision + 1 }
  | some state, .revoked => .ok { state with status := .revoked, revision := state.revision + 1 }

/-! ## What decisions emit -/

/-- The events a membership decision emits in a state. -/
inductive MembershipEmits (membershipId : MembershipId) :
    Option MembershipState → MembershipEvent → Prop where
  | founded : MembershipEmits membershipId none .founded
  | admitted {invitationId : InvitationId} {sponsor : MembershipId} (other : sponsor ≠ membershipId) :
      MembershipEmits membershipId none (.admitted invitationId sponsor)
  | admittedForReleaseAcceptance :
      MembershipEmits membershipId none .admittedForReleaseAcceptance
  | suspended {state : MembershipState} {reason : String} (active : state.status = .active) :
      MembershipEmits membershipId (some state) (.suspended reason)
  | restored {state : MembershipState} (suspended : state.status = .suspended) :
      MembershipEmits membershipId (some state) .restored
  | withdrawn {state : MembershipState} (live : state.status.isTerminal = false) :
      MembershipEmits membershipId (some state) .withdrawn
  | redacted {state : MembershipState} {retainedAlias : String} (kept : state.status ≠ .redacted) :
      MembershipEmits membershipId (some state) (.redacted retainedAlias)

/-- A decision about a membership emits one event; it is an admission only if one was asked for. -/
theorem decideMembership_emits {membershipId : MembershipId} {state : Option MembershipState}
    {command : MembershipCommand} {events : List MembershipEvent}
    (h : decideMembership membershipId state command = .ok events) :
    ∃ event, events = [event] ∧ MembershipEmits membershipId state event ∧
      ∀ invitationId sponsor, event = .admitted invitationId sponsor →
        command = .admitInvited invitationId sponsor := by
  unfold decideMembership at h
  split at h
  case h_1 => exact ⟨_, (Except.ok.inj h).symm, .founded, by simp⟩
  case h_2 => exact ⟨_, (Except.ok.inj h).symm, .admittedForReleaseAcceptance, by simp⟩
  case h_3 =>
    split at h
    · cases h
    · exact ⟨_, (Except.ok.inj h).symm, .admitted (by assumption), by simp⟩
  case h_8 state _ =>
    split at h
    · cases h
    split at h
    · cases h
    split at h
    · refine ⟨_, (Except.ok.inj h).symm, .suspended ?_, by simp⟩
      cases hstatus : state.status <;> simp_all [MembershipStatus.isTerminal]
    · cases h
  case h_9 =>
    split at h
    · cases h
    · exact ⟨_, (Except.ok.inj h).symm, .restored (not_not.1 (by assumption)), by simp⟩
  case h_10 =>
    split at h
    · cases h
    · exact ⟨_, (Except.ok.inj h).symm, .withdrawn (Bool.eq_false_iff.2 (by assumption)), by simp⟩
  case h_11 =>
    split at h
    · cases h
    split at h
    · exact ⟨_, (Except.ok.inj h).symm, .redacted (by assumption), by simp⟩
    · cases h
  all_goals cases h

theorem decideMembership_admission {membershipId sponsor : MembershipId} {invitationId : InvitationId}
    {events : List MembershipEvent} :
    decideMembership membershipId none (.admitInvited invitationId sponsor) = .ok events ↔
      sponsor ≠ membershipId ∧ events = [.admitted invitationId sponsor] := by
  simp only [decideMembership]
  by_cases hself : sponsor = membershipId
  · simp [hself]
  · simp [hself, eq_comm]

theorem foldMembership_emits {membershipId : MembershipId} {state : Option MembershipState}
    {event : MembershipEvent} (h : MembershipEmits membershipId state event) :
    ∃ next, foldMembership membershipId state event = .ok next ∧
      next.revision = (state.elim 0 (·.revision)) + 1 ∧
      ((∀ before ∈ state, before.membershipId = membershipId) → next.membershipId = membershipId) ∧
      ∀ before ∈ state, next.origin = before.origin := by
  cases h <;> exact ⟨_, rfl, by simp, by simp, by simp⟩

/-- The events an invitation decision emits in a state, with the time it is decided at. -/
inductive InvitationEmits (sponsor : Option MembershipState) (command : InvitationCommand) :
    Option InvitationState → InvitationEvent → Prop where
  | issued {sponsoringMembershipId : MembershipId} {targetIndex : String} {expiresAt now : Int}
      (asked : command = .issue sponsoringMembershipId targetIndex expiresAt now)
      (eligible : sponsors sponsor sponsoringMembershipId) (future : now < expiresAt) :
      InvitationEmits sponsor command none (.issued sponsoringMembershipId targetIndex expiresAt)
  | accepted {state : InvitationState} {admittedMembershipId : MembershipId} {now : Int}
      (asked : command = .accept admittedMembershipId state.targetIndex now)
      (open_ : state.status = .issued) (unexpired : now < state.expiresAt)
      (eligible : sponsors sponsor state.sponsoringMembershipId) :
      InvitationEmits sponsor command (some state) (.accepted admittedMembershipId)
  | revoked {state : InvitationState} (asked : command = .revoke) (open_ : state.status = .issued) :
      InvitationEmits sponsor command (some state) .revoked

/-- A decision about an invitation emits one event. -/
theorem decideInvitation_emits {state : Option InvitationState}
    {command : InvitationCommand} {events : List InvitationEvent}
    (h : decideInvitation state sponsor command = .ok events) :
    ∃ event, events = [event] ∧ InvitationEmits sponsor command state event := by
  unfold decideInvitation at h
  split at h
  case h_1 =>
    split at h
    · cases h
    split at h
    · cases h
    split at h
    · cases h
    · exact ⟨_, (Except.ok.inj h).symm, .issued rfl (by simp_all) (by omega)⟩
  case h_4 =>
    split at h
    · cases h
    · exact ⟨_, (Except.ok.inj h).symm, .revoked rfl (not_not.1 (by assumption))⟩
  case h_5 =>
    split at h
    · cases h
    split at h
    · cases h
    split at h
    · cases h
    split at h
    · cases h
    · rename_i htarget
      obtain rfl := not_not.1 htarget
      exact ⟨_, (Except.ok.inj h).symm, .accepted rfl (not_not.1 (by assumption)) (by omega) (by simp_all)⟩
  all_goals cases h

theorem foldInvitation_emits {invitationId : InvitationId}
    {command : InvitationCommand} {state : Option InvitationState} {event : InvitationEvent}
    (h : InvitationEmits sponsor command state event) :
    ∃ next, foldInvitation invitationId state event = .ok next ∧
      next.revision = (state.elim 0 (·.revision)) + 1 ∧
      ∀ before ∈ state, next.sponsoringMembershipId = before.sponsoringMembershipId := by
  cases h <;> exact ⟨_, rfl, by simp, by simp⟩

end Fmarch.Community
