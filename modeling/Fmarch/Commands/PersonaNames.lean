import Fmarch.Platform.UuidText
import Fmarch.Projections.PersonaErasure

/-!
# Names of personas (`assign_slot_with_name`, `rename_game_persona`, `process_replacement`)

A seat and a rename ask `persona_name_claim_owner` whose the name is. A replacement registers the incoming
persona under its generated name and does not ask; the fold inserts the claim with `ON CONFLICT DO NOTHING`.

**`names_owned`**: in a run, every name is claimed by the one persona that has it as long as no replacement
registers one under a name that is claimed. **`replacement_impersonates`**: a host had called another by it before.

A rejected transaction is rolled back, `none`. An imported archive is complete, and takes no commands.
-/

namespace Fmarch.Commands.PersonaNames

open Function (update update_self update_of_ne)
open Projections.PersonaErasure

variable {ctx : Context} (uuids : Nat → String)

/-! ## Commands -/

/-- Trimming leaves nothing to trim. -/
def Trims (ctx : Context) : Prop := ∀ text, ctx.trim (ctx.trim text) = ctx.trim text

/-- What a command draws, and whether its checks of the game, the capabilities and the slot admit it. -/
structure Call where
  admitted : Bool
  personaId : Nat
  claimId : Nat
  seq : Nat

/-- The persona of the subject of a principal. -/
def personaIdForPrincipal (rows : Rows) (subjectId : Nat) : Option Nat :=
  (rows.subjectIdx subjectId).filter fun personaId =>
    (rows.bindings personaId).any (·.lifecycle ≠ .redacted)

/-- A name trimmed, in lower case. -/
def normalized (ctx : Context) (name : String) : String := ctx.toLowercase (ctx.trim name)

def personaNameClaimOwner (ctx : Context) (rows : Rows) (publicName : String) : Option Nat :=
  (rows.nameClaims (normalized ctx publicName)).map (·.personaId)

def generatedPersonaName (slot : String) (personaId : Nat) : String :=
  "Player " ++ slot ++ " " ++ String.ofList ((uuids personaId).toList.take 8)

/-- `issue_presentation_claim` and `persist`: the event's claim opens to the name, trimmed. -/
def persist (db : Db ctx) (event : PersonaEvent) (publicName : String) : Option (Db ctx) :=
  if ctx.openClaim event.claimId = ctx.trim publicName then step db (.append event) else none

/-- `game_persona_application::register`. -/
def register (db : Db ctx) (call : Call) (personaId subjectId : Nat) (publicName : String) :
    Option (Db ctx) :=
  if (db.rows.bindings personaId).isSome ∨ (ctx.detachedAlias subjectId).isSome ∨
      (db.privacy.overlay subjectId).isSome ∨ (db.rows.subjectIdx subjectId).isSome then none
  else persist db ⟨.registered, personaId, subjectId, call.claimId, call.seq⟩ publicName

def assignSlotWithName (db : Db ctx) (call : Call) (slot : String) (subjectId : Nat)
    (publicName : Option String) : Option (Db ctx) :=
  let personaId := (personaIdForPrincipal db.rows subjectId).getD call.personaId
  let name := ((publicName.map ctx.trim).filter (· ≠ "")).getD (generatedPersonaName uuids slot personaId)
  if !call.admitted then none
  else if (db.rows.gamePersona personaId).isSome then some db
  else if (personaNameClaimOwner ctx db.rows name).isSome then none
  else register db call personaId subjectId name

def seatPersona (db : Db ctx) (call : Call) (slot : String) (subjectId : Nat) (publicName : String) :
    Option (Db ctx) :=
  if ctx.trim publicName = "" then none else assignSlotWithName uuids db call slot subjectId (some publicName)

/-- `rename_game_persona`, with `game_persona_application::rename`. -/
def renamePersona (db : Db ctx) (call : Call) (personaId : Nat) (publicName : String) : Option (Db ctx) :=
  if !call.admitted ∨ ctx.trim publicName = "" ∨ (db.rows.gamePersona personaId).isNone ∨
      (personaNameClaimOwner ctx db.rows publicName).any (· ≠ personaId) then none
  else
    match db.rows.bindings personaId with
    | some ⟨subjectId, .active _⟩ =>
      persist db ⟨.renamed, personaId, subjectId, call.claimId, call.seq⟩ publicName
    | _ => none

def processReplacement (db : Db ctx) (call : Call) (slot : String) (subjectId : Nat) : Option (Db ctx) :=
  let personaId := (personaIdForPrincipal db.rows subjectId).getD call.personaId
  if !call.admitted then none
  else if (db.rows.gamePersona personaId).isSome then some db
  else register db call personaId subjectId (generatedPersonaName uuids slot personaId)

/-! ## Runs -/

inductive Act (ctx : Context) where
  | seatPersona (call : Call) (slot : String) (subjectId : Nat) (publicName : String)
  | renameGamePersona (call : Call) (personaId : Nat) (publicName : String)
  | processReplacement (call : Call) (slot : String) (subjectId : Nat)
  | requestErasure (subjectId : Nat) (pseudonym : Alias ctx) (now : Nat)
  | finaliseErasure (subjectId : Nat)

def perform (db : Db ctx) : Act ctx → Option (Db ctx)
  | .seatPersona call slot subjectId publicName => seatPersona uuids db call slot subjectId publicName
  | .renameGamePersona call personaId publicName => renamePersona db call personaId publicName
  | .processReplacement call slot subjectId => processReplacement uuids db call slot subjectId
  | .requestErasure subjectId pseudonym now => step db (.requestErasure subjectId pseudonym now)
  | .finaliseErasure subjectId => step db (.finaliseErasure subjectId)

/-- The database after an act, which is what it was where the act is rejected. -/
def after (db : Db ctx) (act : Act ctx) : Db ctx := (perform uuids db act).getD db

/-- A replacement does not register a persona under a name that is claimed. -/
def Unclaimed (db : Db ctx) : Act ctx → Prop
  | .processReplacement call slot subjectId =>
    let personaId := (personaIdForPrincipal db.rows subjectId).getD call.personaId
    call.admitted = true → db.rows.gamePersona personaId = none →
      personaNameClaimOwner ctx db.rows (generatedPersonaName uuids slot personaId) = none
  | _ => True

/-- No replacement of a run does. -/
def UnclaimedRun (db : Db ctx) : List (Act ctx) → Prop
  | [] => True
  | act :: acts => Unclaimed uuids db act ∧ UnclaimedRun (after uuids db act) acts

def reached (db : Db ctx) (acts : List (Act ctx)) : Db ctx := acts.foldl (after uuids) db

/-- The names in a run: each that a persona has had since its redaction is claimed by it, no two personas are
shown under one, one of a persona that is not erased is no other's later, and a rejection changes nothing. -/
structure NamesOwned (acts : List (Act ctx)) : Prop where
  claimed : ∀ personaId seq name, (reached uuids {} acts).rows.nameHistory personaId seq = some name →
    personaNameClaimOwner ctx (reached uuids {} acts).rows name = some personaId
  distinct : ∀ personaId row other row', (reached uuids {} acts).rows.publics personaId = some row →
    (reached uuids {} acts).rows.publics other = some row' →
    normalized ctx row.currentPublicName = normalized ctx row'.currentPublicName → personaId = other
  kept : ∀ before later, acts = before ++ later → ∀ personaId seq name,
    (reached uuids {} before).rows.nameHistory personaId seq = some name →
    (reached uuids {} acts).rows.redactions personaId = none → ∀ other seq' name',
    (reached uuids {} acts).rows.nameHistory other seq' = some name' →
    normalized ctx name' = normalized ctx name → other = personaId
  rejected : ∀ act, perform uuids (reached uuids {} acts) act = none →
    after uuids (reached uuids {} acts) act = reached uuids {} acts

/-! ## What keeps names -/

variable {rows base next : Rows} {db db' : Db ctx} {event : PersonaEvent}

/-- Each name of a persona is claimed by it, and the one it is shown under is of its history. -/
structure Owned (ctx : Context) (rows : Rows) : Prop where
  claimed : ∀ personaId seq name, rows.nameHistory personaId seq = some name →
    personaNameClaimOwner ctx rows name = some personaId
  shown : ∀ personaId row, rows.publics personaId = some row →
    ∃ seq, rows.nameHistory personaId seq = some row.currentPublicName

/-- A persona that is not redacted was not, and has the names that it had. -/
def Keeps (rows next : Rows) : Prop :=
  ∀ personaId, next.redactions personaId = none → rows.redactions personaId = none ∧
    ∀ seq name, rows.nameHistory personaId seq = some name → next.nameHistory personaId seq = some name

theorem Keeps.refl (rows : Rows) : Keeps rows rows := fun _ hredacted => ⟨hredacted, fun _ _ => id⟩

theorem Owned.eq (h : Owned ctx rows) {personaId other seq seq' : Nat} {name name' : String}
    (hname : rows.nameHistory personaId seq = some name) (hname' : rows.nameHistory other seq' = some name')
    (hsame : normalized ctx name = normalized ctx name') : personaId = other := by
  have howner := h.claimed personaId seq name hname
  rw [personaNameClaimOwner, hsame] at howner
  exact Option.some.inj (howner.symm.trans (h.claimed other seq' name' hname'))

theorem personaNameClaimOwner_eq_some {name : String} {personaId : Nat} :
    personaNameClaimOwner ctx rows name = some personaId ↔
      ∃ claim, rows.nameClaims (normalized ctx name) = some claim ∧ claim.personaId = personaId :=
  Option.map_eq_some_iff

/-- A persona is shown under a name that no other has claimed. -/
theorem Owned.named (htrim : Trims ctx) (h : Owned ctx rows)
    {publicName : String} {row : PersonaPublic} (hpublics : base.publics = rows.publics)
    (hhistory : base.nameHistory = rows.nameHistory) (hclaims : base.nameClaims = rows.nameClaims)
    (hredactions : base.redactions = rows.redactions) (hrow : row.currentPublicName = ctx.trim publicName)
    (hnew : rows.nameHistory event.personaId event.seq = none)
    (howner : ∀ owner, personaNameClaimOwner ctx rows publicName = some owner → owner = event.personaId) :
    Owned ctx (showName ctx base event publicName row) ∧
      Keeps rows (showName ctx base event publicName row) := by
  have hkept : ∀ {personaId seq name}, rows.nameHistory personaId seq = some name →
      (showName ctx base event publicName row).nameHistory personaId seq = some name := fun hname =>
    showName_history_mono publicName row (by rw [hhistory, hnew]) (by rw [hhistory, hname])
  refine ⟨⟨fun personaId seq name hname => ?_, fun personaId shown hshown => ?_⟩,
    fun personaId hredacted => ?_⟩
  · rw [personaNameClaimOwner_eq_some]
    show ∃ claim, claimName base.nameClaims (normalized ctx publicName) event.personaId event.seq _ = _ ∧ _
    rw [showName_history, hhistory] at hname
    rw [hclaims]
    split at hname
    · rename_i hsame
      obtain rfl := Option.some.inj hname
      rw [hsame.1, show normalized ctx (ctx.trim publicName) = normalized ctx publicName from
        congrArg ctx.toLowercase (htrim publicName)]
      cases hclaim : rows.nameClaims (normalized ctx publicName) with
      | none => exact ⟨_, by rw [claimName_apply, if_pos ⟨rfl, hclaim⟩], rfl⟩
      | some claim =>
        exact ⟨claim, claimName_mono hclaim _ _ _,
          howner _ (personaNameClaimOwner_eq_some.2 ⟨claim, hclaim, rfl⟩)⟩
    · obtain ⟨claim, hclaim, hpersona⟩ := personaNameClaimOwner_eq_some.1 (h.claimed personaId seq name hname)
      exact ⟨claim, claimName_mono hclaim _ _ _, hpersona⟩
  · have hrows : update base.publics event.personaId (some row) personaId = some shown := hshown
    by_cases hpersona : personaId = event.personaId
    · subst hpersona
      rw [update_self, Option.some.injEq] at hrows
      exact ⟨event.seq, by rw [showName_history, if_pos ⟨rfl, rfl⟩, ← hrows, hrow]⟩
    · rw [update_of_ne hpersona, hpublics] at hrows
      obtain ⟨seq, hname⟩ := h.shown personaId shown hrows
      exact ⟨seq, hkept hname⟩
  · exact ⟨hredactions ▸ hredacted, fun _ _ => hkept⟩

/-- The redaction of a persona leaves the others their names, and their claims. -/
theorem Owned.redact (h : Owned ctx rows) {subjectId redactedAt : Nat} {pseudonym : Alias ctx}
    (hnext : redactSubject rows subjectId pseudonym redactedAt = some next) :
    Owned ctx next ∧ Keeps rows next := by
  rcases redactSubject_inv hnext with ⟨-, rfl⟩ | ⟨own, registeredSeq, -, -, hclaimed, rfl⟩
  · exact ⟨h, .refl _⟩
  refine ⟨⟨fun personaId seq name hname => ?_, fun personaId shown hshown => ?_⟩,
    fun personaId hredacted => ?_⟩
  · rw [personaNameClaimOwner_eq_some]
    by_cases hown : personaId = own
    · simp only [hown, update_self, Option.map_eq_some_iff] at hname
      obtain ⟨_, -, rfl⟩ := hname
      rw [normalized, pseudonym.key, hown]
      exact ⟨⟨own, registeredSeq⟩, by simp, rfl⟩
    · simp only [update_of_ne hown] at hname
      obtain ⟨claim, hclaim, hpersona⟩ := personaNameClaimOwner_eq_some.1 (h.claimed personaId seq name hname)
      have hother : normalized ctx name ≠ pseudonym.name := fun he =>
        hown (hpersona.symm.trans (hclaimed claim (he ▸ hclaim)))
      refine ⟨claim, ?_, hpersona⟩
      simp [update_of_ne hother, hclaim, hpersona, hown]
  · by_cases hown : personaId = own
    · simp only [hown, update_self, Option.map_eq_some_iff] at hshown ⊢
      obtain ⟨row, hrow, rfl⟩ := hshown
      obtain ⟨seq, hname⟩ := h.shown own row hrow
      exact ⟨seq, _, hname, rfl⟩
    · simp only [update_of_ne hown] at hshown ⊢
      exact h.shown personaId shown hshown
  · have hown : personaId ≠ own := by
      rintro rfl
      simp only [update_self] at hredacted
      split at hredacted <;> cases hredacted
    simp only [update_of_ne hown] at hredacted ⊢
    exact ⟨hredacted, fun _ _ => id⟩

/-! ## Acts -/

/-- A registration under a name that is not claimed. -/
theorem Owned.register (htrim : Trims ctx) (h : Owned ctx db.rows)
    {call : Call} {personaId subjectId : Nat} {publicName : String}
    (hnext : register db call personaId subjectId publicName = some db')
    (hfree : personaNameClaimOwner ctx db.rows publicName = none) :
    Owned ctx db'.rows ∧ Keeps db.rows db'.rows := by
  simp only [PersonaNames.register, persist, Option.ite_none_left_eq_some, Option.ite_none_right_eq_some,
    not_or, Bool.not_eq_true, Option.isSome_eq_false_iff, Option.isNone_iff_eq_none] at hnext
  obtain ⟨⟨-, hdetached, hoverlay, -⟩, hopens, hnext⟩ := hnext
  obtain ⟨rows, hfold, hdb⟩ := Option.bind_eq_some_iff.1 hnext
  obtain rfl := Option.some.inj hdb
  simp only [foldEvent, resolveGamePersonaPresentation, hdetached, hoverlay, hopens] at hfold
  obtain ⟨-, hconflicts, rfl⟩ := registerGamePersona_eq_some.1 hfold
  simp only [Rows.conflicts, Bool.or_eq_false_iff, Option.isSome_eq_false_iff, Option.isNone_iff_eq_none]
    at hconflicts
  refine h.named htrim rfl rfl rfl rfl rfl hconflicts.1.1.2 fun owner howner => ?_
  have htrimmed : personaNameClaimOwner ctx db.rows (ctx.trim publicName) = none := by
    rw [← hfree, personaNameClaimOwner, normalized, htrim]
    rfl
  cases htrimmed.symm.trans howner

theorem Owned.rename (htrim : Trims ctx) (h : Owned ctx db.rows)
    {call : Call} {personaId : Nat} {publicName : String}
    (hnext : renamePersona db call personaId publicName = some db') :
    Owned ctx db'.rows ∧ Keeps db.rows db'.rows := by
  simp only [renamePersona, Option.ite_none_left_eq_some, not_or] at hnext
  obtain ⟨⟨-, -, -, howner⟩, hnext⟩ := hnext
  split at hnext
  case h_2 => cases hnext
  case h_1 subjectId current hbinding =>
    obtain ⟨hopens, hnext⟩ := Option.ite_none_right_eq_some.1 hnext
    obtain ⟨rows, hfold, hdb⟩ := Option.bind_eq_some_iff.1 hnext
    obtain rfl := Option.some.inj hdb
    simp only [foldEvent] at hfold
    obtain ⟨-, hnew, row, bound, -, hbound, rfl⟩ := renameGamePersona_eq_some.1 hfold
    obtain ⟨hrebinds, rfl⟩ := rebindSubject_eq_some.1 hbound
    -- The binding is active, so that the claim is opened and not the erasure shown.
    have hactive : resolveGamePersonaPresentation db.privacy subjectId call.claimId =
        .active (ctx.trim publicName) := by
      rw [← hopens]
      rw [hbinding] at hrebinds
      unfold resolveGamePersonaPresentation at hrebinds ⊢
      split
      · rename_i hdetached
        simp [hdetached, Rebinds] at hrebinds
      · rename_i hdetached
        split
        · rename_i hoverlay
          simp [hdetached, hoverlay, Rebinds] at hrebinds
        · rfl
    rw [hactive]
    refine h.named htrim rfl rfl rfl rfl rfl hnew fun owner hsame => ?_
    have htrimmed : personaNameClaimOwner ctx db.rows publicName = some owner := by
      rw [← hsame, Presentation.publicName, personaNameClaimOwner, personaNameClaimOwner, normalized,
        normalized, htrim]
    simpa [htrimmed] using howner

theorem Owned.act (htrim : Trims ctx) (h : Owned ctx db.rows)
    {act : Act ctx} (hfree : Unclaimed uuids db act) (hnext : perform uuids db act = some db') :
    Owned ctx db'.rows ∧ Keeps db.rows db'.rows := by
  have hsame : Owned ctx db.rows ∧ Keeps db.rows db.rows := ⟨h, .refl _⟩
  cases act with
  | seatPersona call slot subjectId publicName =>
    obtain ⟨-, hnext⟩ := Option.ite_none_left_eq_some.1 hnext
    simp only [assignSlotWithName, Option.ite_none_left_eq_some] at hnext
    obtain ⟨-, hnext⟩ := hnext
    split at hnext
    · exact Option.some.inj hnext ▸ hsame
    · obtain ⟨hunclaimed, hnext⟩ := Option.ite_none_left_eq_some.1 hnext
      exact h.register htrim hnext (by simpa using hunclaimed)
  | renameGamePersona call personaId publicName => exact h.rename htrim hnext
  | processReplacement call slot subjectId =>
    simp only [perform, processReplacement, Option.ite_none_left_eq_some] at hnext
    obtain ⟨hadmitted, hnext⟩ := hnext
    split at hnext
    · exact Option.some.inj hnext ▸ hsame
    · rename_i hgame
      exact h.register htrim hnext (hfree (by simpa using hadmitted) (by simpa using hgame))
  | requestErasure subjectId pseudonym now =>
    rcases step_request hnext with ⟨-, rfl⟩ | ⟨-, rows, hredact, rfl⟩
    · exact hsame
    · exact h.redact hredact
  | finaliseErasure subjectId =>
    obtain ⟨erasure, rows, -, -, hscrub, rfl⟩ := step_finalise hnext
    exact h.redact hscrub

theorem unclaimedRun_append {before later : List (Act ctx)} : UnclaimedRun uuids db (before ++ later) ↔
    UnclaimedRun uuids db before ∧ UnclaimedRun uuids (reached uuids db before) later := by
  induction before generalizing db with
  | nil => simp [UnclaimedRun, reached]
  | cons act before ih => simp only [List.cons_append, UnclaimedRun, ih, and_assoc, reached, List.foldl_cons]

/-- What an act keeps, a run does. -/
theorem Owned.run (htrim : Trims ctx) (h : Owned ctx db.rows) {acts : List (Act ctx)}
    (hfree : UnclaimedRun uuids db acts) :
    Owned ctx (reached uuids db acts).rows ∧ Keeps db.rows (reached uuids db acts).rows := by
  induction acts generalizing db with
  | nil => exact ⟨h, .refl _⟩
  | cons act acts ih =>
    have hstep : Owned ctx (after uuids db act).rows ∧ Keeps db.rows (after uuids db act).rows := by
      unfold after
      cases hnext : perform uuids db act with
      | none => exact ⟨h, .refl _⟩
      | some db' => exact h.act uuids htrim hfree.1 hnext
    obtain ⟨howned, hkeeps⟩ := ih hstep.1 hfree.2
    refine ⟨howned, fun personaId hredacted => ?_⟩
    obtain ⟨hbefore, hnames⟩ := hkeeps personaId hredacted
    obtain ⟨hfirst, hnames'⟩ := hstep.2 personaId hbefore
    exact ⟨hfirst, fun seq name hname => hnames seq name (hnames' seq name hname)⟩

/-- In a run, a name is its persona's alone, as long as no replacement registers one that is claimed. -/
theorem names_owned (htrim : Trims ctx) (acts : List (Act ctx)) (hfree : UnclaimedRun uuids {} acts) :
    NamesOwned uuids acts := by
  have hempty : Owned ctx ({} : Db ctx).rows := ⟨by simp, by simp⟩
  obtain ⟨howned, -⟩ := hempty.run uuids htrim hfree
  refine ⟨howned.claimed, fun personaId row other row' hrow hrow' hsame => ?_, ?_, fun act hnone => ?_⟩
  · obtain ⟨seq, hname⟩ := howned.shown personaId row hrow
    obtain ⟨seq', hname'⟩ := howned.shown other row' hrow'
    exact howned.eq hname hname' hsame
  · rintro before later rfl personaId seq name hname hredacted other seq' name' hname' hsame
    obtain ⟨hbefore, hlater⟩ := (unclaimedRun_append uuids).1 hfree
    obtain ⟨-, hkeeps⟩ := (hempty.run uuids htrim hbefore).1.run uuids htrim hlater
    rw [reached, List.foldl_append] at hredacted howned hname'
    exact howned.eq hname' ((hkeeps personaId hredacted).2 seq name hname) hsame
  · rw [after, hnone, Option.getD_none]

/-! ## A generated name -/

/-- Ascii names, and three claims. -/
def ascii : Context where
  trim text := text
  toLowercase text := String.ofList (text.toList.map Char.toLower)
  openClaim
    | 1 => "Player slot_7 00000000"
    | 2 => "Wren"
    | _ => "Mira"
  detachedAlias _ := none

def uuidText (id : Nat) : String := Platform.hyphenated.text (BitVec.ofNat 128 id)

/-- A host seats a persona under a name, and then replaces the player of the seventh slot. -/
def hostCalls (publicName : String) (claimId : Nat) : List (Act ascii) :=
  [.seatPersona ⟨true, 11, claimId, 1⟩ "slot_3" 21 publicName,
    .seatPersona ⟨true, 12, 2, 2⟩ "slot_7" 22 "Wren",
    .processReplacement ⟨true, 13, 1, 4⟩ "slot_7" 23]

theorem hostCalls_owned : NamesOwned uuidText (hostCalls "Mira" 3) :=
  names_owned uuidText (fun _ => rfl) _ ⟨trivial, trivial, by unfold Unclaimed; decide +kernel, trivial⟩

/-- The replacement is shown under the name that the host has called another persona by. -/
theorem replacement_impersonates : ¬ NamesOwned uuidText (hostCalls "Player slot_7 00000000" 1) := by
  intro h
  have hrow : ∀ personaId ∈ [11, 13], ((reached uuidText {} (hostCalls "Player slot_7 00000000" 1)).rows.publics
      personaId).map (·.currentPublicName) = some "Player slot_7 00000000" := by decide +kernel
  obtain ⟨row, hpublic, hname⟩ := Option.map_eq_some_iff.1 (hrow 11 (by decide))
  obtain ⟨row', hpublic', hname'⟩ := Option.map_eq_some_iff.1 (hrow 13 (by decide))
  exact absurd (h.distinct 11 row 13 row' hpublic hpublic' (by rw [hname, hname'])) (by decide)

end Fmarch.Commands.PersonaNames
