import Fmarch.Community.Membership
import Fmarch.Lib.Forest
import Fmarch.Lib.Steps

/-!
# Runs of memberships and invitations (`membership_application`)

The two state machines run together: each aggregate is a log of events, a command is decided in the
states folded from the logs, and what it emits is appended. An invitation is accepted together with the
admission of a fresh membership under the invitation's sponsor; nothing else admits.

**`community_lawful`**: in every run the folds refuse nothing and the revisions count the events; the
memberships form a forest under their sponsors, whose roots are founders and release acceptances, the
latter without anybody below them; sponsors were active when they sponsored; what is withdrawn, redacted
or ended stays so; and an invitation admits at most one membership.
-/

namespace Fmarch.Community

open Function (update update_self update_of_ne)

open Relation Forest

/-- The logs of all aggregates. -/
structure Logs where
  memberships : MembershipId → List MembershipEvent := fun _ => []
  invitations : InvitationId → List InvitationEvent := fun _ => []

namespace Logs

/-- The fold of a membership's log. -/
def loadMembership (logs : Logs) (membershipId : MembershipId) :
    Except MembershipReject (Option MembershipState) :=
  (logs.memberships membershipId).foldlM
    (fun state event => some <$> foldMembership membershipId state event) none

/-- The fold of an invitation's log. -/
def loadInvitation (logs : Logs) (invitationId : InvitationId) :
    Except InvitationReject (Option InvitationState) :=
  (logs.invitations invitationId).foldlM
    (fun state event => some <$> foldInvitation invitationId state event) none

/-- `append_membership_events`. -/
def appendMembership (logs : Logs) (membershipId : MembershipId) (events : List MembershipEvent) : Logs :=
  { logs with
    memberships := update logs.memberships membershipId
      (logs.memberships membershipId ++ events) }

/-- `append_invitation_events`. -/
def appendInvitation (logs : Logs) (invitationId : InvitationId) (events : List InvitationEvent) : Logs :=
  { logs with
    invitations := update logs.invitations invitationId
      (logs.invitations invitationId ++ events) }

end Logs

/-- The commands. -/
inductive Command where
  | membership (membershipId : MembershipId) (command : MembershipCommand)
  | issue (invitationId : InvitationId) (sponsor : MembershipId) (targetIndex : String)
      (expiresAt now : Int)
  | revoke (invitationId : InvitationId)
  | accept (invitationId : InvitationId) (membershipId : MembershipId)
      (presentedTargetIndex : String) (now : Int)

/-- A command that is accepted, with its events appended. -/
inductive Step (logs : Logs) : Command → Logs → Prop where
  | membership {membershipId : MembershipId} {command : MembershipCommand}
      {state : Option MembershipState} {events : List MembershipEvent}
      (plain : ∀ invitationId sponsor, command ≠ .admitInvited invitationId sponsor)
      (loaded : logs.loadMembership membershipId = .ok state)
      (accepted : decideMembership membershipId state command = .ok events) :
      Step logs (.membership membershipId command)
        (logs.appendMembership membershipId events)
  | issue {invitationId : InvitationId} {sponsorId : MembershipId} {targetIndex : String}
      {expiresAt now : Int} {state : Option InvitationState} {sponsor : Option MembershipState}
      {events : List InvitationEvent}
      (loaded : logs.loadInvitation invitationId = .ok state)
      (sponsorLoaded : logs.loadMembership sponsorId = .ok sponsor)
      (accepted : decideInvitation state sponsor (.issue sponsorId targetIndex expiresAt now) = .ok events) :
      Step logs (.issue invitationId sponsorId targetIndex expiresAt now)
        (logs.appendInvitation invitationId events)
  | revoke {invitationId : InvitationId} {state : Option InvitationState}
      {sponsor : Option MembershipState} {events : List InvitationEvent}
      (loaded : logs.loadInvitation invitationId = .ok state)
      (accepted : decideInvitation state sponsor .revoke = .ok events) :
      Step logs (.revoke invitationId) (logs.appendInvitation invitationId events)
  | accept {invitationId : InvitationId} {membershipId : MembershipId}
      {presentedTargetIndex : String} {now : Int} {invitation : InvitationState}
      {sponsor : Option MembershipState} {events : List InvitationEvent}
      {admission : List MembershipEvent}
      (loaded : logs.loadInvitation invitationId = .ok (some invitation))
      (sponsorLoaded : logs.loadMembership invitation.sponsoringMembershipId = .ok sponsor)
      (accepted : decideInvitation (some invitation) sponsor
        (.accept membershipId presentedTargetIndex now) = .ok events)
      (fresh : logs.memberships membershipId = [])
      (admitted : decideMembership membershipId none
        (.admitInvited invitationId invitation.sponsoringMembershipId) = .ok admission) :
      Step logs (.accept invitationId membershipId presentedTargetIndex now)
        ((logs.appendMembership membershipId admission).appendInvitation invitationId events)

/-- Some command that is accepted leads from one to the next. -/
def Next (before after : Logs) : Prop := ∃ command, Step before command after

/-- One comes later in a run than the other. -/
def Later : Logs → Logs → Prop := ReflTransGen Next

/-- The logs that runs lead to. -/
def Reachable (logs : Logs) : Prop := Later {} logs

/-! ## What the logs say -/

/-- The sponsor an origin names. -/
def MembershipOrigin.sponsor : MembershipOrigin → Option MembershipId
  | .invitation _ sponsoringMembershipId => some sponsoringMembershipId
  | _ => none

namespace Logs

/-- The state of a membership. -/
def membership (logs : Logs) (membershipId : MembershipId) : Option MembershipState :=
  (logs.loadMembership membershipId).toOption.join

/-- The state of an invitation. -/
def invitation (logs : Logs) (invitationId : InvitationId) : Option InvitationState :=
  (logs.loadInvitation invitationId).toOption.join

/-- The membership exists. -/
def Present (logs : Logs) (membershipId : MembershipId) : Prop :=
  logs.membership membershipId ≠ none

/-- The membership has a status. -/
def HasStatus (logs : Logs) (membershipId : MembershipId) (status : MembershipStatus) : Prop :=
  (logs.membership membershipId).map (·.status) = some status

/-- The membership has an origin. -/
def HasOrigin (logs : Logs) (membershipId : MembershipId) (origin : MembershipOrigin) : Prop :=
  (logs.membership membershipId).map (·.origin) = some origin

/-- The sponsor of a membership. -/
def sponsor (logs : Logs) (membershipId : MembershipId) : Option MembershipId :=
  (logs.membership membershipId).bind (·.origin.sponsor)

end Logs

/-- What holds at every point of a run, and from there on. -/
structure Lawful (logs : Logs) : Prop where
  /-- Folding the memberships' events refuses none, and the revision counts them. -/
  memberships : ∀ membershipId, ∃ state, logs.loadMembership membershipId = .ok state ∧
    state.elim 0 (·.revision) = (logs.memberships membershipId).length
  /-- Folding the invitations' events refuses none, and the revision counts them. -/
  invitations : ∀ invitationId, ∃ state, logs.loadInvitation invitationId = .ok state ∧
    state.elim 0 (·.revision) = (logs.invitations invitationId).length
  forest : IsForest logs.Present logs.sponsor
  roots : ∀ membershipId, logs.Present membershipId → (logs.sponsor membershipId = none ↔
      logs.HasOrigin membershipId .founder ∨ logs.HasOrigin membershipId .releaseAcceptance)
  /-- A release-acceptance membership sponsors nobody. -/
  releases : ∀ membershipId sponsor, logs.sponsor membershipId = some sponsor →
    ¬ logs.HasOrigin sponsor .releaseAcceptance
  /-- A sponsor is active when its membership is admitted. -/
  sponsored : ∀ command next, Step logs command next → ∀ membershipId sponsor,
    ¬ logs.Present membershipId → next.sponsor membershipId = some sponsor →
    logs.HasStatus sponsor .active
  /-- An invitation admits at most one membership. -/
  single : ∀ invitationId first second sponsor sponsor',
    logs.HasOrigin first (.invitation invitationId sponsor) →
    logs.HasOrigin second (.invitation invitationId sponsor') → first = second
  /-- An invitation is accepted before it expires. -/
  unexpired : ∀ invitationId membershipId target now next,
    Step logs (.accept invitationId membershipId target now) next →
    ∃ state, logs.invitation invitationId = some state ∧ state.status = .issued ∧ now < state.expiresAt
  withdrawn : ∀ later, Later logs later → ∀ membershipId, logs.HasStatus membershipId .withdrawn →
    later.HasStatus membershipId .withdrawn ∨ later.HasStatus membershipId .redacted
  redacted : ∀ later, Later logs later → ∀ membershipId, logs.HasStatus membershipId .redacted →
    later.memberships membershipId = logs.memberships membershipId
  /-- An invitation that has ended, accepted or revoked, is not changed again. -/
  ended : ∀ later, Later logs later → ∀ invitationId state,
    logs.invitation invitationId = some state → state.status ≠ .issued →
    later.invitations invitationId = logs.invitations invitationId

/-! ## Appending -/

section Append

variable {logs : Logs} {membershipId other : MembershipId}
  {invitationId : InvitationId} {state : Option MembershipState}

theorem membership_of_load (h : logs.loadMembership membershipId = .ok state) :
    logs.membership membershipId = state := by
  simp [Logs.membership, h, Except.toOption]

theorem invitation_of_load {state : Option InvitationState}
    (h : logs.loadInvitation invitationId = .ok state) :
    logs.invitation invitationId = state := by
  simp [Logs.invitation, h, Except.toOption]

theorem loadMembership_append (h : logs.loadMembership membershipId = .ok state)
    {event : MembershipEvent} {next : MembershipState}
    (hfold : foldMembership membershipId state event = .ok next) :
    (logs.appendMembership membershipId [event]).loadMembership membershipId = .ok (some next) := by
  have hlog : (logs.appendMembership membershipId [event]).memberships membershipId =
      logs.memberships membershipId ++ [event] := update_self ..
  unfold Logs.loadMembership at *
  rw [hlog, List.foldlM_append, h]
  show (some <$> foldMembership membershipId state event >>= fun state => pure state) = _
  rw [hfold]
  rfl

theorem loadMembership_append_other {events : List MembershipEvent} (h : other ≠ membershipId) :
    (logs.appendMembership membershipId events).loadMembership other = logs.loadMembership other := by
  have hlog : (logs.appendMembership membershipId events).memberships other =
      logs.memberships other := update_of_ne h ..
  unfold Logs.loadMembership
  rw [hlog]

theorem loadInvitation_append {state : Option InvitationState}
    (h : logs.loadInvitation invitationId = .ok state) {event : InvitationEvent}
    {next : InvitationState} (hfold : foldInvitation invitationId state event = .ok next) :
    (logs.appendInvitation invitationId [event]).loadInvitation invitationId = .ok (some next) := by
  have hlog : (logs.appendInvitation invitationId [event]).invitations invitationId =
      logs.invitations invitationId ++ [event] := update_self ..
  unfold Logs.loadInvitation at *
  rw [hlog, List.foldlM_append, h]
  show (some <$> foldInvitation invitationId state event >>= fun state => pure state) = _
  rw [hfold]
  rfl

theorem loadInvitation_append_other {other : InvitationId} {events : List InvitationEvent}
    (h : other ≠ invitationId) :
    (logs.appendInvitation invitationId events).loadInvitation other = logs.loadInvitation other := by
  have hlog : (logs.appendInvitation invitationId events).invitations other =
      logs.invitations other := update_of_ne h ..
  unfold Logs.loadInvitation
  rw [hlog]

theorem membership_append (h : logs.loadMembership membershipId = .ok state)
    {event : MembershipEvent} {next : MembershipState}
    (hfold : foldMembership membershipId state event = .ok next) :
    (logs.appendMembership membershipId [event]).membership =
      update logs.membership membershipId (some next) := by
  funext other
  by_cases hother : other = membershipId
  · subst hother
    rw [update_self, membership_of_load (loadMembership_append h hfold)]
  · rw [update_of_ne hother]
    unfold Logs.membership
    rw [loadMembership_append_other hother]

theorem invitation_append {state : Option InvitationState}
    (h : logs.loadInvitation invitationId = .ok state) {event : InvitationEvent}
    {next : InvitationState} (hfold : foldInvitation invitationId state event = .ok next) :
    (logs.appendInvitation invitationId [event]).invitation =
      update logs.invitation invitationId (some next) := by
  funext other
  by_cases hother : other = invitationId
  · subst hother
    rw [update_self, invitation_of_load (loadInvitation_append h hfold)]
  · rw [update_of_ne hother]
    unfold Logs.invitation
    rw [loadInvitation_append_other hother]

end Append

/-! ## The invariant -/

/-- What every step keeps. -/
structure Ok (logs : Logs) : Prop where
  memberships : ∀ membershipId, ∃ state, logs.loadMembership membershipId = .ok state ∧
    state.elim 0 (·.revision) = (logs.memberships membershipId).length ∧
    ∀ loaded ∈ state, loaded.membershipId = membershipId
  invitations : ∀ invitationId, ∃ state, logs.loadInvitation invitationId = .ok state ∧
    state.elim 0 (·.revision) = (logs.invitations invitationId).length
  forest : IsForest logs.Present logs.sponsor
  /-- A membership that was invited is the one its invitation admitted, under a sponsor that may. -/
  admitted : ∀ membershipId state, logs.membership membershipId = some state →
    ∀ invitationId sponsor, state.origin = .invitation invitationId sponsor →
      (∃ invitation, logs.invitation invitationId = some invitation ∧
        invitation.status ≠ .issued ∧ invitation.admittedMembershipId = some membershipId) ∧
      ∃ sponsorState, logs.membership sponsor = some sponsorState ∧ sponsorState.origin ≠ .releaseAcceptance

section Invariant

variable {logs : Logs} {membershipId : MembershipId} {invitationId : InvitationId}

/-- An event of an invitation touches none that has admitted. -/
theorem Ok.appendInvitation (ok : Ok logs) {state : Option InvitationState}
    (hload : logs.loadInvitation invitationId = .ok state) {sponsor : Option MembershipState}
    {command : InvitationCommand} {event : InvitationEvent}
    (hemits : InvitationEmits sponsor command state event) :
    Ok (logs.appendInvitation invitationId [event]) := by
  obtain ⟨next, hfold, hrevision, -⟩ := @foldInvitation_emits _ invitationId _ _ _ hemits
  have hopen : ∀ before ∈ state, before.status = .issued := by
    cases hemits <;> simp_all
  refine ⟨ok.memberships, fun other => ?_, ok.forest, fun id member hmember i s horigin => ?_⟩
  · by_cases hother : other = invitationId
    · subst hother
      obtain ⟨loaded, hloaded, hcount⟩ := ok.invitations other
      obtain rfl := Except.ok.inj (hloaded.symm.trans hload)
      refine ⟨some next, loadInvitation_append hload hfold, ?_⟩
      have hlog : (logs.appendInvitation other [event]).invitations other =
          logs.invitations other ++ [event] := update_self ..
      rw [hlog, List.length_append, ← hcount]
      exact hrevision
    · rw [loadInvitation_append_other hother]
      have hlog : (logs.appendInvitation invitationId [event]).invitations other =
          logs.invitations other := update_of_ne hother ..
      rw [hlog]
      exact ok.invitations other
  · obtain ⟨⟨invitation, hinvitation, hended, hadmitted⟩, hsponsor⟩ :=
      ok.admitted id member hmember i s horigin
    refine ⟨⟨invitation, ?_, hended, hadmitted⟩, hsponsor⟩
    rw [invitation_append hload hfold]
    refine (update_of_ne ?_ ..).trans hinvitation
    rintro rfl
    rw [invitation_of_load hload] at hinvitation
    exact hended (hopen invitation hinvitation)

variable {event : MembershipEvent} {next : Logs}

/-- An event of a membership keeps the revisions counted. -/
theorem Ok.counted (ok : Ok logs) {state : Option MembershipState}
    (hload : logs.loadMembership membershipId = .ok state)
    (hemits : MembershipEmits membershipId state event) (other : MembershipId) :
    ∃ loaded, (logs.appendMembership membershipId [event]).loadMembership other = .ok loaded ∧
      loaded.elim 0 (·.revision) = ((logs.appendMembership membershipId [event]).memberships other).length ∧
      ∀ member ∈ loaded, member.membershipId = other := by
  by_cases hother : other = membershipId
  · subst hother
    obtain ⟨next, hfold, hrevision, hid, -⟩ := foldMembership_emits hemits
    obtain ⟨loaded, hloaded, hcount, hids⟩ := ok.memberships other
    obtain rfl := Except.ok.inj (hloaded.symm.trans hload)
    refine ⟨some next, loadMembership_append hload hfold, ?_, by simpa using hid hids⟩
    have hlog : (logs.appendMembership other [event]).memberships other =
        logs.memberships other ++ [event] := update_self ..
    rw [hlog, List.length_append, ← hcount]
    exact hrevision
  · rw [loadMembership_append_other hother]
    have hlog : (logs.appendMembership membershipId [event]).memberships other =
        logs.memberships other := update_of_ne hother ..
    rw [hlog]
    exact ok.memberships other

/-- An event of an existing membership keeps everyone's origin. -/
theorem Ok.appendMembership (ok : Ok logs) {state : MembershipState}
    (hload : logs.loadMembership membershipId = .ok (some state))
    (hemits : MembershipEmits membershipId (some state) event) :
    Ok (logs.appendMembership membershipId [event]) := by
  obtain ⟨next, hfold, -, -, horigin⟩ := foldMembership_emits hemits
  have hmembership := membership_append hload hfold
  -- Everybody who is there was there with the same origin.
  have hsame (id : MembershipId) :
      ((logs.appendMembership membershipId [event]).membership id).map (·.origin) =
        (logs.membership id).map (·.origin) := by
    rw [hmembership]
    by_cases hid : id = membershipId
    · subst hid
      rw [update_self, membership_of_load hload]
      simp [horigin state rfl]
    · rw [update_of_ne hid]
  refine ⟨ok.counted hload hemits, ok.invitations, ok.forest.congr ?_ ?_, ?_⟩
  · intro id hpresent hnone
    refine hpresent ?_
    simpa [hnone] using hsame id
  · intro id
    have := congrArg (Option.bind · MembershipOrigin.sponsor) (hsame id)
    simpa [Logs.sponsor, Option.bind_map] using this
  · intro id member hmember i s hinvited
    have hbefore : (logs.membership id).map (·.origin) = some member.origin := by
      rw [← hsame id, hmember]
      rfl
    obtain ⟨before, hbefore, hequal⟩ := Option.map_eq_some_iff.1 hbefore
    obtain ⟨hinvitation, sponsorState, hsponsor, hrelease⟩ :=
      ok.admitted id before hbefore i s (hequal.trans hinvited)
    refine ⟨hinvitation, ?_⟩
    have hafter : ((logs.appendMembership membershipId [event]).membership s).map (·.origin) =
        some sponsorState.origin := by
      rw [hsame s, hsponsor]
      rfl
    obtain ⟨after, hafter, hequal⟩ := Option.map_eq_some_iff.1 hafter
    exact ⟨after, hafter, hequal ▸ hrelease⟩

/-- A membership that enters, as a root or under a sponsor, with its invitation ended by it. -/
theorem Ok.genesis (ok : Ok logs) (hload : logs.loadMembership membershipId = .ok none)
    (hemits : MembershipEmits membershipId none event)
    (hadmitted : ∀ invitationId sponsor, event = .admitted invitationId sponsor → (∃ invitation, logs.invitation invitationId = some invitation ∧ invitation.status ≠ .issued ∧ invitation.admittedMembershipId = some membershipId) ∧ ∃ sponsorState, logs.membership sponsor = some sponsorState ∧ sponsorState.origin ≠ .releaseAcceptance) :
    Ok (logs.appendMembership membershipId [event]) := by
  obtain ⟨next, hfold, -, -, -⟩ := foldMembership_emits hemits
  have hmembership := membership_append hload hfold
  have hnone := membership_of_load hload
  have hinvited : ∀ i s, next.origin = .invitation i s → event = .admitted i s := by
    cases hemits <;> obtain rfl := Except.ok.inj hfold <;> simp
  have hself : (logs.appendMembership membershipId [event]).membership membershipId = some next := by
    rw [hmembership, update_self]
  have hother {id : MembershipId} (hid : id ≠ membershipId) :
      (logs.appendMembership membershipId [event]).membership id = logs.membership id := by
    rw [hmembership, update_of_ne hid]
  have hsponsors {id : MembershipId} {state : MembershipState}
      (hstate : logs.membership id = some state) :
      (logs.appendMembership membershipId [event]).membership id = some state := by
    refine (hother ?_).trans hstate
    rintro rfl
    simp [hnone] at hstate
  refine ⟨ok.counted hload hemits, ok.invitations, ?_, ?_⟩
  · refine @IsForest.insert _ _ _ _ _ membershipId ok.forest (by simp [Logs.Present, hnone]) ?_ ?_ ?_
    · intro id
      by_cases hid : id = membershipId
      · simp [Logs.Present, hid, hself]
      · simp [Logs.Present, hid, hother hid]
    · intro above habove
      rw [Logs.sponsor, hself] at habove
      cases horigin : next.origin with
      | invitation i s =>
        obtain ⟨-, sponsorState, hsponsor, -⟩ := hadmitted i s (hinvited i s horigin)
        simp only [Option.bind_some, horigin, MembershipOrigin.sponsor, Option.some.injEq] at habove
        simp [Logs.Present, ← habove, hsponsor]
      | founder | releaseAcceptance => simp [horigin, MembershipOrigin.sponsor] at habove
    · intro id hid
      rw [Logs.sponsor, hother hid, Logs.sponsor]
  · intro id member hmember i s horigin
    by_cases hid : id = membershipId
    · subst hid
      obtain rfl := Option.some.inj (hself.symm.trans hmember)
      obtain ⟨hinvitation, sponsorState, hsponsor, hrelease⟩ := hadmitted i s (hinvited i s horigin)
      exact ⟨hinvitation, sponsorState, hsponsors hsponsor, hrelease⟩
    · rw [hother hid] at hmember
      obtain ⟨hinvitation, sponsorState, hsponsor, hrelease⟩ := ok.admitted id member hmember i s horigin
      exact ⟨hinvitation, sponsorState, hsponsors hsponsor, hrelease⟩

/-- What an accepted invitation and its admission are. -/
theorem accept_cases {membershipId : MembershipId} {presentedTargetIndex : String} {now : Int}
    (step : Step logs (.accept invitationId membershipId presentedTargetIndex now) next) :
    ∃ invitation sponsor, logs.loadInvitation invitationId = .ok (some invitation) ∧
      logs.loadMembership invitation.sponsoringMembershipId = .ok sponsor ∧
      logs.loadMembership membershipId = .ok none ∧
      InvitationEmits sponsor (.accept membershipId presentedTargetIndex now) (some invitation)
        (.accepted membershipId) ∧
      invitation.sponsoringMembershipId ≠ membershipId ∧
      next = (logs.appendInvitation invitationId [.accepted membershipId]).appendMembership membershipId
        [.admitted invitationId invitation.sponsoringMembershipId] := by
  cases step with
  | accept loaded sponsorLoaded accepted fresh admitted =>
    obtain ⟨event, rfl, hemits⟩ := decideInvitation_emits accepted
    obtain ⟨hother, rfl⟩ := decideMembership_admission.1 admitted
    have hevent : event = .accepted membershipId := by
      cases hemits with
      | accepted asked => simp_all
      | revoked asked => simp at asked
    subst hevent
    refine ⟨_, _, loaded, sponsorLoaded, ?_, hemits, hother, rfl⟩
    rw [Logs.loadMembership, fresh]
    rfl

/-- An accepted invitation ends, and its sponsor gets a member below. -/
theorem Ok.accept (ok : Ok logs) {membershipId : MembershipId} {presentedTargetIndex : String}
    {now : Int} (step : Step logs (.accept invitationId membershipId presentedTargetIndex now) next) : Ok next := by
  obtain ⟨invitation, sponsor, hload, hsponsor, hfresh, hemits, hother, rfl⟩ := accept_cases step
  obtain ⟨_, hfold, -, -⟩ := @foldInvitation_emits _ invitationId _ _ _ hemits
  have hended := invitation_of_load (loadInvitation_append hload hfold)
  obtain rfl := Except.ok.inj hfold
  refine (ok.appendInvitation hload hemits).genesis hfresh (.admitted hother) fun i s hadmitted => ?_
  obtain ⟨rfl, rfl⟩ := hadmitted
  refine ⟨⟨_, hended, by simp, rfl⟩, ?_⟩
  cases hemits with
  | accepted _ _ _ eligible =>
    obtain ⟨state, rfl, -, -, hrelease⟩ := sponsors_iff.1 eligible
    exact ⟨state, membership_of_load hsponsor, hrelease⟩

/-- The state an admission gives. -/
theorem membership_admitted {events : List InvitationEvent} {sponsor : MembershipId}
    (hfresh : logs.loadMembership membershipId = .ok none) :
    ((logs.appendInvitation invitationId events).appendMembership membershipId
      [.admitted invitationId sponsor]).membership membershipId =
      some { membershipId, status := .active, origin := .invitation invitationId sponsor
             revision := 1 } := by
  have hload : (logs.appendInvitation invitationId events).loadMembership membershipId = .ok none :=
    hfresh
  have hfold : foldMembership membershipId none (.admitted invitationId sponsor) =
      .ok { membershipId, status := .active, origin := .invitation invitationId sponsor
            revision := 1 } := rfl
  rw [membership_append hload hfold, update_self]

/-- What a step appends. -/
theorem step_cases {command : Command} (step : Step logs command next) :
    (∃ membershipId state event, logs.loadMembership membershipId = .ok state ∧
      MembershipEmits membershipId state event ∧ (∀ i s, event ≠ .admitted i s) ∧
      next = logs.appendMembership membershipId [event]) ∨
    (∃ invitationId state event sponsor asked, logs.loadInvitation invitationId = .ok state ∧
      InvitationEmits sponsor asked state event ∧
      next = logs.appendInvitation invitationId [event]) ∨
    ∃ invitationId membershipId target now, command = .accept invitationId membershipId target now := by
  cases step with
  | membership plain loaded accepted =>
    obtain ⟨event, rfl, hemits, hadmission⟩ := decideMembership_emits accepted
    exact .inl ⟨_, _, event, loaded, hemits, fun i s h => plain i s (hadmission i s h), rfl⟩
  | issue loaded sponsorLoaded accepted | revoke loaded accepted =>
    obtain ⟨event, rfl, hemits⟩ := decideInvitation_emits accepted
    exact .inr (.inl ⟨_, _, event, _, _, loaded, hemits, rfl⟩)
  | accept => exact .inr (.inr ⟨_, _, _, _, rfl⟩)

/-- Every step keeps the invariant. -/
theorem Ok.step {command : Command} (ok : Ok logs) (step : Step logs command next) : Ok next := by
  rcases step_cases step with ⟨_, state, _, loaded, hemits, hplain, rfl⟩ |
    ⟨_, _, _, _, _, loaded, hemits, rfl⟩ | ⟨_, _, _, _, rfl⟩
  · cases state with
    | none => exact ok.genesis loaded hemits fun i s h => absurd h (hplain i s)
    | some state => exact ok.appendMembership loaded hemits
  · exact ok.appendInvitation loaded hemits
  · exact ok.accept step

theorem Ok.empty : Ok {} where
  memberships _ := ⟨none, rfl, rfl, by simp⟩
  invitations _ := ⟨none, rfl, rfl⟩
  forest := .empty fun _ => rfl
  admitted _ _ h := nomatch show none = some _ from h

theorem Reachable.ok (reachable : Reachable logs) : Ok logs :=
  Steps.preserved Ok (fun _ _ ⟨_, step⟩ ok => ok.step step) reachable .empty

end Invariant

/-! ## What a step does to one aggregate -/

section Aggregate

variable {logs next : Logs} {command : Command}

/-- A step leaves a membership as it is, or appends to it what its state lets a decision emit. -/
theorem step_membership (step : Step logs command next) (membershipId : MembershipId) :
    next.memberships membershipId = logs.memberships membershipId ∨
    ∃ state event after, logs.loadMembership membershipId = .ok state ∧
      MembershipEmits membershipId state event ∧
      foldMembership membershipId state event = .ok after ∧
      next.membership membershipId = some after := by
  rcases step_cases step with ⟨id, state, event, loaded, hemits, -, rfl⟩ |
    ⟨_, _, _, _, _, _, _, rfl⟩ | ⟨invitationId, id, _, _, rfl⟩
  · by_cases hid : membershipId = id
    · subst hid
      obtain ⟨after, hfold, -⟩ := foldMembership_emits hemits
      refine .inr ⟨state, event, after, loaded, hemits, hfold, ?_⟩
      rw [membership_append loaded hfold, update_self]
    · exact .inl (update_of_ne hid ..)
  · exact .inl rfl
  · obtain ⟨invitation, _, _, _, hfresh, _, hother, rfl⟩ := accept_cases step
    by_cases hid : membershipId = id
    · subst hid
      exact .inr ⟨none, .admitted invitationId _, _, hfresh, .admitted hother, rfl,
        membership_admitted hfresh⟩
    · exact .inl (update_of_ne hid ..)

/-- A step leaves an invitation as it is, or appends to it what its state lets a decision emit. -/
theorem step_invitation (step : Step logs command next) (invitationId : InvitationId) :
    next.invitations invitationId = logs.invitations invitationId ∨
    ∃ state event sponsor asked, logs.loadInvitation invitationId = .ok state ∧
      InvitationEmits sponsor asked state event := by
  rcases step_cases step with ⟨_, _, _, _, _, -, rfl⟩ |
    ⟨id, state, event, sponsor, asked, loaded, hemits, rfl⟩ | ⟨id, _, _, _, rfl⟩
  · exact .inl rfl
  · by_cases hid : invitationId = id
    · subst hid
      exact .inr ⟨state, event, sponsor, asked, loaded, hemits⟩
    · exact .inl (update_of_ne hid ..)
  · obtain ⟨invitation, sponsor, hload, -, -, hemits, -, rfl⟩ := accept_cases step
    by_cases hid : invitationId = id
    · subst hid
      exact .inr ⟨_, _, _, _, hload, hemits⟩
    · exact .inl (update_of_ne hid ..)

variable {membershipId : MembershipId}

/-- A step leaves a withdrawn or redacted membership in one of these. -/
theorem step_withdrawn (step : Step logs command next)
    (h : logs.HasStatus membershipId .withdrawn ∨ logs.HasStatus membershipId .redacted) :
    next.HasStatus membershipId .withdrawn ∨ next.HasStatus membershipId .redacted := by
  rcases step_membership step membershipId with hsame |
    ⟨state, event, after, loaded, hemits, hfold, hafter⟩
  · unfold Logs.HasStatus Logs.membership Logs.loadMembership at *
    rwa [hsame]
  · unfold Logs.HasStatus at *
    rw [membership_of_load loaded] at h
    rw [hafter]
    cases hemits <;> obtain rfl := Except.ok.inj hfold <;> simp_all

theorem step_redacted (step : Step logs command next) (h : logs.HasStatus membershipId .redacted) :
    next.memberships membershipId = logs.memberships membershipId := by
  rcases step_membership step membershipId with hsame | ⟨state, event, after, loaded, hemits, -⟩
  · exact hsame
  · unfold Logs.HasStatus at h
    rw [membership_of_load loaded] at h
    cases hemits <;> simp_all [MembershipStatus.isTerminal]

/-- A step leaves the log of an invitation that has ended. -/
theorem step_ended (step : Step logs command next) {invitationId : InvitationId}
    {state : InvitationState} (h : logs.invitation invitationId = some state)
    (hended : state.status ≠ .issued) :
    next.invitations invitationId = logs.invitations invitationId := by
  rcases step_invitation step invitationId with hsame | ⟨loaded, _, _, _, hload, hemits⟩
  · exact hsame
  · obtain rfl := (invitation_of_load hload).symm.trans h
    cases hemits with
    | accepted _ open_ => exact absurd open_ hended
    | revoked _ open_ => exact absurd open_ hended

/-- A sponsor that a step gives somebody is active before it. -/
theorem step_sponsored (step : Step logs command next) {sponsor : MembershipId}
    (hfresh : ¬ logs.Present membershipId) (hsponsor : next.sponsor membershipId = some sponsor) :
    logs.HasStatus sponsor .active := by
  have hnone : logs.membership membershipId = none := not_not.1 hfresh
  have hkept (hsame : next.memberships membershipId = logs.memberships membershipId) :
      logs.HasStatus sponsor .active := by
    unfold Logs.sponsor Logs.membership Logs.loadMembership at hsponsor hnone
    rw [hsame, hnone] at hsponsor
    cases hsponsor
  rcases step_cases step with ⟨id, state, event, loaded, hemits, hplain, rfl⟩ |
    ⟨_, _, _, _, _, _, _, rfl⟩ | ⟨_, id, _, _, rfl⟩
  · by_cases hid : membershipId = id
    · subst hid
      obtain rfl := (membership_of_load loaded).symm.trans hnone
      obtain ⟨after, hfold, -⟩ := foldMembership_emits hemits
      rw [Logs.sponsor, membership_append loaded hfold, update_self] at hsponsor
      cases hemits <;> obtain rfl := Except.ok.inj hfold <;> simp_all [MembershipOrigin.sponsor]
    · exact hkept (update_of_ne hid ..)
  · exact hkept rfl
  · obtain ⟨invitation, _, -, hload, hload', hemits, -, rfl⟩ := accept_cases step
    by_cases hid : membershipId = id
    · subst hid
      rw [Logs.sponsor, membership_admitted hload'] at hsponsor
      obtain rfl : invitation.sponsoringMembershipId = sponsor := by
        simpa [MembershipOrigin.sponsor] using hsponsor
      cases hemits with
      | accepted _ _ _ eligible =>
        obtain ⟨state, rfl, -, hactive, -⟩ := sponsors_iff.1 eligible
        simp [Logs.HasStatus, membership_of_load hload, hactive]
    · exact hkept (update_of_ne hid ..)

end Aggregate

/-! ## Every run -/

section Runs

variable {logs later : Logs}

variable {membershipId : MembershipId}

theorem later_withdrawn (h : Later logs later) (hstatus : logs.HasStatus membershipId .withdrawn) :
    later.HasStatus membershipId .withdrawn ∨ later.HasStatus membershipId .redacted :=
  Steps.preserved
    (fun now => now.HasStatus membershipId .withdrawn ∨ now.HasStatus membershipId .redacted)
    (fun _ _ ⟨_, step⟩ => step_withdrawn step) h (.inl hstatus)

theorem later_redacted (h : Later logs later) (hstatus : logs.HasStatus membershipId .redacted) :
    later.memberships membershipId = logs.memberships membershipId := by
  refine Steps.preserved (fun now => now.memberships membershipId = logs.memberships membershipId)
    (fun now next ⟨_, step⟩ hsame => ?_) h rfl
  -- The same log folds to the same state.
  have hnow : now.HasStatus membershipId .redacted := by
    unfold Logs.HasStatus Logs.membership Logs.loadMembership at *
    rwa [hsame]
  exact (step_redacted step hnow).trans hsame

theorem later_ended (h : Later logs later) {invitationId : InvitationId} {state : InvitationState}
    (hstate : logs.invitation invitationId = some state) (hended : state.status ≠ .issued) :
    later.invitations invitationId = logs.invitations invitationId := by
  refine Steps.preserved (fun now => now.invitations invitationId = logs.invitations invitationId)
    (fun now next ⟨_, step⟩ hsame => ?_) h rfl
  have hnow : now.invitation invitationId = some state := by
    unfold Logs.invitation Logs.loadInvitation at *
    rwa [hsame]
  exact (step_ended step hnow hended).trans hsame

theorem root_iff (hpresent : logs.Present membershipId) : logs.sponsor membershipId = none ↔
      logs.HasOrigin membershipId .founder ∨ logs.HasOrigin membershipId .releaseAcceptance := by
  unfold Logs.sponsor Logs.HasOrigin
  cases hstate : logs.membership membershipId with
  | none => exact absurd hstate hpresent
  | some state => cases horigin : state.origin <;> simp [horigin, MembershipOrigin.sponsor]

theorem Ok.releases (ok : Ok logs) {sponsor : MembershipId}
    (h : logs.sponsor membershipId = some sponsor) : ¬ logs.HasOrigin sponsor .releaseAcceptance := by
  obtain ⟨state, hstate, horigin⟩ := Option.bind_eq_some_iff.1 h
  cases hcase : state.origin with
  | invitation i s =>
    obtain rfl : s = sponsor := by simpa [hcase, MembershipOrigin.sponsor] using horigin
    obtain ⟨-, sponsorState, hsponsor, hrelease⟩ := ok.admitted membershipId state hstate i s hcase
    simp [Logs.HasOrigin, hsponsor, hrelease]
  | founder | releaseAcceptance => simp [hcase, MembershipOrigin.sponsor] at horigin

theorem Ok.single (ok : Ok logs) {invitationId : InvitationId} {first second sponsor sponsor' : MembershipId}
    (h : logs.HasOrigin first (.invitation invitationId sponsor))
    (h' : logs.HasOrigin second (.invitation invitationId sponsor')) : first = second := by
  obtain ⟨state, hstate, horigin⟩ := Option.map_eq_some_iff.1 h
  obtain ⟨state', hstate', horigin'⟩ := Option.map_eq_some_iff.1 h'
  obtain ⟨⟨invitation, hinvitation, -, hfirst⟩, -⟩ :=
    ok.admitted first state hstate invitationId sponsor horigin
  obtain ⟨⟨invitation', hinvitation', -, hsecond⟩, -⟩ :=
    ok.admitted second state' hstate' invitationId sponsor' horigin'
  obtain rfl := Option.some.inj (hinvitation.symm.trans hinvitation')
  exact Option.some.inj (hfirst.symm.trans hsecond)

/-- **Every run of memberships and invitations is lawful.** -/
theorem community_lawful (reachable : Reachable logs) : Lawful logs where
  memberships id :=
    have ⟨state, hload, hcount, _⟩ := reachable.ok.memberships id
    ⟨state, hload, hcount⟩
  invitations := reachable.ok.invitations
  forest := reachable.ok.forest
  roots _ := root_iff
  releases _ _ := reachable.ok.releases
  sponsored _ _ step _ _ := step_sponsored step
  single _ _ _ _ _ := reachable.ok.single
  unexpired invitationId membershipId target now next step := by
    obtain ⟨invitation, _, hload, -, -, hemits, -⟩ := accept_cases step
    cases hemits with
    | accepted asked open_ unexpired =>
      obtain ⟨-, -, rfl⟩ := InvitationCommand.accept.inj asked
      exact ⟨invitation, invitation_of_load hload, open_, unexpired⟩
  withdrawn _ h _ := later_withdrawn h
  redacted _ h _ := later_redacted h
  ended _ h _ _ := later_ended h

end Runs

/-- A run: a founder invites the second membership, who accepts. -/
def invitedLogs : Logs :=
  let founded := ({} : Logs).appendMembership 1 [.founded]
  ((founded.appendInvitation 7 [.issued 1 "target" 100]).appendMembership 2
    [.admitted 7 1]).appendInvitation 7 [.accepted 2]

theorem invitedLogs_reachable : Reachable invitedLogs :=
  have found : Next {} (({} : Logs).appendMembership 1 [.founded]) :=
    ⟨.membership 1 .found, @Step.membership {} 1 .found none _ (by simp) rfl rfl⟩
  have issue : Next (({} : Logs).appendMembership 1 [.founded])
      ((({} : Logs).appendMembership 1 [.founded]).appendInvitation 7 [.issued 1 "target" 100]) :=
    ⟨.issue 7 1 "target" 100 0, .issue rfl rfl rfl⟩
  have accept : Next _ invitedLogs := ⟨.accept 7 2 "target" 50, .accept rfl rfl rfl rfl rfl⟩
  ((ReflTransGen.single found).tail issue).tail accept

theorem invitedLogs_lawful : Lawful invitedLogs := community_lawful invitedLogs_reachable

end Fmarch.Community
