import Fmarch.Lib.FirstMatch
import Fmarch.Resolver.SourceReveals

/-!
# Inherited roles

A backup inherits the role of a slot that died: of the target its record binds it to, or of one whose role an
effect of the backup names. The pack's policy ranks the grounds.

**`backups_inherit`**: each living backup is converted at most once, to the role its first ground gives, and
the order of the binding records does not matter. `mournfulBackup_dies` is a night on which an unbound backup
is converted and then dies of the win.
-/

namespace Fmarch.Resolver

open Fmarch.Domain Keyed FirstMatch

variable {F : Type} [Float64 F]

/-! ## Grounds -/

/-- Why a backup inherits: its binding record, or one of its effects. -/
inductive Ground where
  | bound
  | passive (effect : Tag)

/-- The ground lets the backup inherit the role of the slot, which died. -/
def Ground.Gives (input : ResolutionInput F) (killed : List SlotId) (targets : List BackupTargetRecord)
    (backup : SlotState) (ground : Ground) (source : SlotId) (role : RoleKey) : Prop :=
  (match ground with
    | .bound => ∃ record ∈ targets, record.backup = backup.slotId ∧ record.sourceTarget = source
    | .passive effect =>
      effect ∈ backup.effects ∧ backupRole input.pack.document.backupPolicy effect = some role) ∧
    source ∈ killed ∧ slotRole input source = some role

/-- The rank of a ground under the pack's priority; effects rank in their order on the slot. -/
def Ground.rank (priority : BackupPriorityPolicy) (effects : List Tag) (ground : Ground) : Nat :=
  match priority, ground with
  | .targetedThenPassive, .bound => 0
  | .targetedThenPassive, .passive effect => effects.idxOf effect + 1
  | .passiveThenTargeted, .bound => effects.length
  | .passiveThenTargeted, .passive effect => effects.idxOf effect

/-- A ground of the first rank gives the role of the slot, which of those in the role died first. -/
def Inherits (input : ResolutionInput F) (killed : List SlotId) (targets : List BackupTargetRecord)
    (priority : BackupPriorityPolicy) (backup : SlotState) (source : SlotId) (role : RoleKey) : Prop :=
  ∃ ground : Ground, ground.Gives input killed targets backup source role ∧
    (∀ (other : Ground) otherSource otherRole, other.Gives input killed targets backup otherSource otherRole →
      ground.rank priority backup.effects ≤ other.rank priority backup.effects) ∧
    ∀ otherSource, ground.Gives input killed targets backup otherSource role →
      killed.idxOf source ≤ killed.idxOf otherSource

/-- The conversion of a backup that inherits a role. -/
def inheritedConversion (input : ResolutionInput F) (backup : SlotState) (source : SlotId)
    (role : RoleKey) : InnerEvent F :=
  .playerConverted backup.slotId role ((input.pack.document.roles[role]?).bind (·.alignment))
    backup.roleKey backup.alignment source

/-- The slot an event converts. -/
def converted? : InnerEvent F → Option SlotId
  | .playerConverted target .. => some target
  | _ => none

/-! ## The candidate -/

section Candidate

variable {input : ResolutionInput F} {killed : List SlotId} {targets : List BackupTargetRecord}
  {backup : SlotState} {source : SlotId} {role : RoleKey}

theorem mem_killedRoles :
    (source, role) ∈ killedRoles input killed ↔ source ∈ killed ∧ slotRole input source = some role := by
  unfold killedRoles slotRole
  rw [List.mem_filterMap]
  constructor
  · rintro ⟨slot, hslot, hrole⟩
    obtain ⟨found, hfound, hpair⟩ := Option.map_eq_some_iff.1 hrole
    obtain ⟨rfl, rfl⟩ := Prod.mk.inj hpair
    exact ⟨hslot, by rw [hfound]; rfl⟩
  · rintro ⟨hslot, hrole⟩
    obtain ⟨found, hfound, rfl⟩ := Option.map_eq_some_iff.1 hrole
    exact ⟨source, hslot, by rw [hfound]; rfl⟩

theorem find?_killedRoles_slot {target : SlotId} :
    (killedRoles input killed).find? (·.1 == target) = some (source, role) ↔
      source = target ∧ source ∈ killed ∧ slotRole input source = some role := by
  constructor
  · intro h
    exact ⟨by simpa using List.find?_some h, mem_killedRoles.1 (List.mem_of_find?_eq_some h)⟩
  · rintro ⟨rfl, hdead⟩
    cases hfind : (killedRoles input killed).find? (·.1 == source) with
    | none => exact absurd (List.find?_eq_none.1 hfind _ (mem_killedRoles.2 hdead)) (by simp)
    | some entry =>
      obtain ⟨slot, other⟩ := entry
      obtain rfl : slot = source := by simpa using List.find?_some hfind
      have hother := (mem_killedRoles.1 (List.mem_of_find?_eq_some hfind)).2
      rw [Option.some.inj (hother.symm.trans hdead.2)]

theorem find?_killedRoles_role {wanted : RoleKey} :
    (killedRoles input killed).find? (·.2 == wanted) = some (source, role) ↔
      role = wanted ∧ First (fun slot => slotRole input slot = some wanted) killed source := by
  induction killed with
  | nil => exact iff_of_false (by simp [killedRoles]) fun h => not_first_nil h.2
  | cons slot killed ih =>
    rw [first_cons]
    cases hrole : slotRole input slot with
    | none =>
      have hcons : killedRoles input (slot :: killed) = killedRoles input killed :=
        List.filterMap_cons_none (by rw [slotRole, Option.map_eq_none_iff] at hrole; rw [hrole]; rfl)
      rw [hcons, ih]
      simp
    | some own =>
      have hcons : killedRoles input (slot :: killed) = (slot, own) :: killedRoles input killed := by
        obtain ⟨found, hfound, rfl⟩ := Option.map_eq_some_iff.1 hrole
        exact List.filterMap_cons_some (by rw [hfound]; rfl)
      rw [hcons, List.find?_cons]
      by_cases hown : own = wanted
      · subst hown
        simp only [beq_self_eq_true, Option.some.injEq, Prod.mk.injEq, true_and, not_true_eq_false,
          false_and, or_false]
        rw [and_comm, eq_comm, @eq_comm _ slot]
      · rw [show (own == wanted) = false from beq_false_of_ne hown, ih]
        simp [hown]

/-- The dead target a backup's record names. -/
def boundSource (input : ResolutionInput F) (killed : List SlotId) (targets : List BackupTargetRecord)
    (backup : SlotState) : Option (SlotId × RoleKey) :=
  (targets.find? (·.backup == backup.slotId)).bind fun record =>
    (killedRoles input killed).find? (·.1 == record.sourceTarget)

/-- The first dead slot in the role an effect of the backup names. -/
def passiveSource (input : ResolutionInput F) (killed : List SlotId) (backup : SlotState) :
    Option (SlotId × RoleKey) :=
  backup.effects.findSome? fun effect =>
    (backupRole input.pack.document.backupPolicy effect).bind fun role =>
      (killedRoles input killed).find? (·.2 == role)

theorem inheritedRole_eq (priority : BackupPriorityPolicy)
    (h : input.pack.document.backupPolicy.priority = some priority) :
    inheritedRole input (killedRoles input killed) targets backup = match priority with
      | .targetedThenPassive => boundSource input killed targets backup <|> passiveSource input killed backup
      | .passiveThenTargeted =>
        passiveSource input killed backup <|> boundSource input killed targets backup := by
  simp only [inheritedRole, h]
  cases priority <;> rfl

theorem boundSource_iff (single : (targets.map (·.backup)).Nodup) :
    boundSource input killed targets backup = some (source, role) ↔
      Ground.bound.Gives input killed targets backup source role := by
  unfold boundSource Ground.Gives
  constructor
  · intro h
    obtain ⟨record, hrecord, hfind⟩ := Option.bind_eq_some_iff.1 h
    obtain ⟨htarget, hdead⟩ := find?_killedRoles_slot.1 hfind
    exact ⟨⟨record, List.mem_of_find?_eq_some hrecord, by simpa using List.find?_some hrecord,
      htarget.symm⟩, hdead⟩
  · rintro ⟨⟨record, hrecord, hbackup, htarget⟩, hdead⟩
    rw [← hbackup, find?_key_of_nodup BackupTargetRecord.backup single hrecord]
    exact find?_killedRoles_slot.2 ⟨htarget.symm, hdead⟩

/-- The role an effect names, if a slot died in it. -/
theorem passiveRole_iff {effect : Tag} (heffect : effect ∈ backup.effects) :
    ((backupRole input.pack.document.backupPolicy effect).bind fun role =>
        (killedRoles input killed).find? (·.2 == role)) = some (source, role) ↔
      (Ground.passive effect).Gives input killed targets backup source role ∧
        ∀ otherSource, (Ground.passive effect).Gives input killed targets backup otherSource role →
          killed.idxOf source ≤ killed.idxOf otherSource := by
  unfold Ground.Gives
  rw [Option.bind_eq_some_iff]
  constructor
  · rintro ⟨wanted, hwanted, hfind⟩
    obtain ⟨rfl, hfirst⟩ := find?_killedRoles_role.1 hfind
    exact ⟨⟨⟨heffect, hwanted⟩, hfirst.mem, hfirst.holds⟩,
      fun other hother => hfirst.first other hother.2.1 hother.2.2⟩
  · rintro ⟨⟨⟨-, hwanted⟩, hdead, hrole⟩, hfirst⟩
    exact ⟨role, hwanted, find?_killedRoles_role.2 ⟨rfl, hdead, hrole, fun other hother hotherRole =>
      hfirst other ⟨⟨heffect, hwanted⟩, hother, hotherRole⟩⟩⟩

theorem passiveRole_isSome {effect : Tag}
    (h : (Ground.passive effect).Gives input killed targets backup source role) :
    ((backupRole input.pack.document.backupPolicy effect).bind fun role =>
        (killedRoles input killed).find? (·.2 == role)).isSome = true := by
  rw [h.1.2, Option.bind_some, List.find?_isSome]
  exact ⟨(source, role), mem_killedRoles.2 h.2, beq_self_eq_true role⟩

theorem passiveSource_iff : passiveSource input killed backup = some (source, role) ↔
      ∃ effect, (Ground.passive effect).Gives input killed targets backup source role ∧
        (∀ other otherSource otherRole,
          (Ground.passive other).Gives input killed targets backup otherSource otherRole →
          backup.effects.idxOf effect ≤ backup.effects.idxOf other) ∧
        ∀ otherSource, (Ground.passive effect).Gives input killed targets backup otherSource role →
          killed.idxOf source ≤ killed.idxOf otherSource := by
  unfold passiveSource
  rw [findSome?_eq_some_iff]
  constructor
  · rintro ⟨effect, hfirst, hfind⟩
    obtain ⟨hgives, hsource⟩ := (passiveRole_iff hfirst.mem).1 hfind
    exact ⟨effect, hgives, fun other _ _ hother =>
      hfirst.first other hother.1.1 (passiveRole_isSome hother), hsource⟩
  · rintro ⟨effect, hgives, hrank, hsource⟩
    have hmem : effect ∈ backup.effects := hgives.1.1
    have hfind := (passiveRole_iff hmem).2 ⟨hgives, hsource⟩
    refine ⟨effect, ⟨hmem, by rw [hfind]; rfl, fun other hother hsome => ?_⟩, hfind⟩
    obtain ⟨⟨otherSource, otherRole⟩, hotherFind⟩ := Option.isSome_iff_exists.1 hsome
    exact hrank other otherSource otherRole ((passiveRole_iff hother).1 hotherFind).1

theorem passiveSource_ne_none {effect : Tag}
    (h : (Ground.passive effect).Gives input killed targets backup source role) :
    passiveSource input killed backup ≠ none := by
  intro hnone
  have hsome := passiveRole_isSome h
  rw [List.findSome?_eq_none_iff.1 hnone effect h.1.1] at hsome
  cases hsome

/-- `inheritedRole` finds the slot and the role of the first rank. -/
theorem inheritedRole_iff {priority : BackupPriorityPolicy} (single : (targets.map (·.backup)).Nodup)
    (hpriority : input.pack.document.backupPolicy.priority = some priority) :
    inheritedRole input (killedRoles input killed) targets backup = some (source, role) ↔
      Inherits input killed targets priority backup source role := by
  have hbound : ∀ {source role}, boundSource input killed targets backup = some (source, role) ↔
      Ground.bound.Gives input killed targets backup source role := boundSource_iff single
  rw [inheritedRole_eq priority hpriority]
  cases priority with
  | targetedThenPassive =>
    dsimp only
    constructor
    · intro h
      cases hsource : boundSource input killed targets backup with
      | some entry =>
        rw [hsource] at h
        obtain rfl := Option.some.inj h
        refine ⟨.bound, hbound.1 hsource, fun _ _ _ _ => Nat.zero_le _, fun other hother => ?_⟩
        obtain ⟨rfl, -⟩ := Prod.mk.inj (Option.some.inj (hsource.symm.trans (hbound.2 hother)))
        exact Nat.le_refl _
      | none =>
        rw [hsource] at h
        obtain ⟨effect, hgives, hrank, hfirst⟩ := passiveSource_iff.1 h
        refine ⟨.passive effect, hgives, fun other _ _ hother => ?_, hfirst⟩
        cases other with
        | bound => exact absurd (hsource.symm.trans (hbound.2 hother)) (by simp)
        | passive other => exact Nat.succ_le_succ (hrank other _ _ hother)
    · rintro ⟨ground, hgives, hrank, hfirst⟩
      cases ground with
      | bound =>
        rw [hbound.2 hgives]
        rfl
      | passive effect =>
        have hnone : boundSource input killed targets backup = none := by
          by_contra hsome
          obtain ⟨⟨other, otherRole⟩, hother⟩ := Option.ne_none_iff_exists'.1 hsome
          exact absurd (hrank .bound other otherRole (hbound.1 hother)) (Nat.not_succ_le_zero _)
        rw [hnone]
        exact passiveSource_iff.2 ⟨effect, hgives, fun other _ _ hother =>
          Nat.le_of_succ_le_succ (hrank (.passive other) _ _ hother), hfirst⟩
  | passiveThenTargeted =>
    dsimp only
    constructor
    · intro h
      cases hsource : passiveSource input killed backup with
      | some entry =>
        rw [hsource] at h
        obtain rfl := Option.some.inj h
        obtain ⟨effect, hgives, hrank, hfirst⟩ := passiveSource_iff.1 hsource
        refine ⟨.passive effect, hgives, fun other _ _ hother => ?_, hfirst⟩
        cases other with
        | bound => exact List.idxOf_le_length
        | passive other => exact hrank other _ _ hother
      | none =>
        rw [hsource] at h
        have hgives := hbound.1 h
        refine ⟨.bound, hgives, fun other _ _ hother => ?_, fun other hother => ?_⟩
        · cases other with
          | bound => exact Nat.le_refl _
          | passive other => exact absurd hsource (passiveSource_ne_none hother)
        · obtain ⟨rfl, -⟩ := Prod.mk.inj (Option.some.inj ((hbound.2 hgives).symm.trans (hbound.2 hother)))
          exact Nat.le_refl _
    · rintro ⟨ground, hgives, hrank, hfirst⟩
      cases ground with
      | bound =>
        have hnone : passiveSource input killed backup = none := by
          by_contra hsome
          obtain ⟨⟨other, otherRole⟩, hother⟩ := Option.ne_none_iff_exists'.1 hsome
          obtain ⟨effect, hpassive, -⟩ := passiveSource_iff.1 hother
          have hlast := hrank (.passive effect) _ _ hpassive
          exact absurd (List.idxOf_lt_length_iff.2 hpassive.1.1) (Nat.not_lt.2 hlast)
        rw [hnone]
        exact hbound.2 hgives
      | passive effect =>
        rw [passiveSource_iff.2 ⟨effect, hgives, fun other _ _ hother =>
          hrank (.passive other) _ _ hother, hfirst⟩]
        rfl

end Candidate

/-! ## One pass -/

section Pass

variable {input : ResolutionInput F} {killed : List SlotId} {events : List (InnerEvent F)}
  {event : InnerEvent F}

/-- The snapshot's binding records in another order. -/
def withBindings (input : ResolutionInput F) (records : List BackupTargetRecord) : ResolutionInput F :=
  { input with state := { input.state with backupTargets := records } }

/-- The pass converts each slot at most once; it converts the living backups that did not die, each to the
role its first ground gives unless it has the role; and the order of the binding records does not matter. -/
structure BackupsInherit (input : ResolutionInput F) (killed : List SlotId) (events : List (InnerEvent F)) :
    Prop where
  once : ((backupInheritance input killed events).filterMap converted?).Nodup
  exact : ∀ event, event ∈ backupInheritance input killed events ↔
    input.pack.document.backupPolicy.enabled = true ∧ ∃ priority backup source role,
      input.pack.document.backupPolicy.priority = some priority ∧ backup ∈ input.state.slots ∧
      backup.isAlive = true ∧ backup.slotId ∉ killed ∧
      Inherits input killed (backupTargetsAfter input events) priority backup source role ∧
      backup.roleKey ≠ role ∧ event = inheritedConversion input backup source role
  unordered : ∀ records, records.Perm input.state.backupTargets →
    backupInheritance (withBindings input records) killed events = backupInheritance input killed events

/-- What one living backup inherits. -/
def inheritance (input : ResolutionInput F) (killed : List SlotId) (events : List (InnerEvent F))
    (backup : SlotState) : Option (InnerEvent F) :=
  (inheritedRole input (killedRoles input killed) (backupTargetsAfter input events) backup).bind
    fun (source, role) =>
      if backup.roleKey == role then none else some (inheritedConversion input backup source role)

theorem backupInheritance_eq (input : ResolutionInput F) (killed : List SlotId)
    (events : List (InnerEvent F)) :
    backupInheritance input killed events = if !input.pack.document.backupPolicy.enabled then [] else
        (input.state.slots.filter fun slot => slot.isAlive && !killed.contains slot.slotId).filterMap
          (inheritance input killed events) := by
  unfold backupInheritance
  split
  · rfl
  · refine congrArg (fun f => List.filterMap f _) (funext fun backup => ?_)
    unfold inheritance
    cases inheritedRole input (killedRoles input killed) (backupTargetsAfter input events) backup <;> rfl

theorem inheritance_converts {backup : SlotState} (h : inheritance input killed events backup = some event) :
    converted? event = some backup.slotId := by
  obtain ⟨⟨source, role⟩, -, h⟩ := Option.bind_eq_some_iff.1 h
  dsimp only at h
  split at h
  · cases h
  · obtain rfl := Option.some.inj h
    rfl

theorem backupInheritance_converts (h : event ∈ backupInheritance input killed events) :
    ∃ slot, converted? event = some slot := by
  rw [backupInheritance_eq] at h
  split at h
  · exact absurd h List.not_mem_nil
  · obtain ⟨backup, -, hbackup⟩ := List.mem_filterMap.1 h
    exact ⟨_, inheritance_converts hbackup⟩

theorem backupTargetsAfter_nodup (single : (input.state.backupTargets.map (·.backup)).Nodup) :
    ((backupTargetsAfter input events).map (·.backup)).Nodup := by
  refine Steps.foldl_inv (fun targets : List BackupTargetRecord => (targets.map (·.backup)).Nodup)
    (fun targets event _ htargets => ?_) single
  cases event with
  | backupTargeted =>
    exact map_upsert_nodup BackupTargetRecord.backup (fun other hother => by simpa using hother) htargets
  | _ => exact htargets

theorem backupTargetsAfter_perm {records : List BackupTargetRecord}
    (h : records.Perm input.state.backupTargets) :
    (backupTargetsAfter (withBindings input records) events).Perm (backupTargetsAfter input events) := by
  unfold backupTargetsAfter
  show (events.foldl _ records).Perm (events.foldl _ input.state.backupTargets)
  generalize input.state.backupTargets = others at h
  induction events generalizing records others with
  | nil => exact h
  | cons event events ih =>
    refine ih _ ?_
    cases event with
    | backupTargeted => exact (h.filter _).append_right _
    | _ => exact h

theorem inheritedRole_perm {roles : List (SlotId × RoleKey)} {targets others : List BackupTargetRecord}
    (h : targets.Perm others) (single : (targets.map (·.backup)).Nodup) (backup : SlotState) :
    inheritedRole input roles targets backup = inheritedRole input roles others backup := by
  unfold inheritedRole
  rw [find?_perm BackupTargetRecord.backup h single]

/-- Each of the living backups inherits what its first ground gives. -/
theorem backups_inherit_pass (distinct : DistinctSlots input.state)
    (single : (input.state.backupTargets.map (·.backup)).Nodup) (killed : List SlotId)
    (events : List (InnerEvent F)) : BackupsInherit input killed events where
  once := by
    rw [backupInheritance_eq]
    split
    · exact List.nodup_nil
    · rw [List.filterMap_filterMap]
      have hslots := (List.filter_sublist (p := fun slot : SlotState =>
        slot.isAlive && !killed.contains slot.slotId) (l := input.state.slots)).map SlotState.slotId
      refine ((filterMap_sublist_map fun backup slot hslot => ?_).trans hslots).nodup distinct
      obtain ⟨event, hevent, hconverts⟩ := Option.bind_eq_some_iff.1 hslot
      exact Option.some.inj ((inheritance_converts hevent).symm.trans hconverts)
  exact event := by
    rw [backupInheritance_eq]
    cases henabled : input.pack.document.backupPolicy.enabled with
    | false => simp
    | true =>
      obtain ⟨priority, hpriority⟩ :=
        Option.isSome_iff_exists.1 (input.pack.accepted.backupPriority henabled)
      simp only [Bool.not_true, Bool.false_eq_true, if_false, true_and, List.mem_filterMap,
        List.mem_filter, Bool.and_eq_true, Bool.not_eq_true', List.contains_eq_mem,
        decide_eq_false_iff_not]
      have hinherits : ∀ backup source role, inheritedRole input (killedRoles input killed)
            (backupTargetsAfter input events) backup = some (source, role) ↔
          Inherits input killed (backupTargetsAfter input events) priority backup source role :=
        fun _ _ _ => inheritedRole_iff (backupTargetsAfter_nodup single) hpriority
      constructor
      · rintro ⟨backup, ⟨hmem, halive, hkilled⟩, hevent⟩
        obtain ⟨⟨source, role⟩, hrole, hevent⟩ := Option.bind_eq_some_iff.1 hevent
        dsimp only at hevent
        split at hevent
        · cases hevent
        · rename_i hnew
          exact ⟨priority, backup, source, role, hpriority, hmem, halive, hkilled,
            (hinherits backup source role).1 hrole, by simpa using hnew, (Option.some.inj hevent).symm⟩
      · rintro ⟨other, backup, source, role, hother, hmem, halive, hkilled, hrole, hnew, rfl⟩
        obtain rfl := Option.some.inj (hpriority.symm.trans hother)
        refine ⟨backup, ⟨hmem, halive, hkilled⟩, ?_⟩
        unfold inheritance
        rw [(hinherits backup source role).2 hrole, Option.bind_some]
        exact if_neg (by simpa using hnew)
  unordered records h := by
    rw [backupInheritance_eq, backupInheritance_eq]
    refine congrArg (fun f => if !input.pack.document.backupPolicy.enabled then [] else
      (input.state.slots.filter fun slot => slot.isAlive && !killed.contains slot.slotId).filterMap f)
      (funext fun backup => ?_)
    have hperm : (backupTargetsAfter (withBindings input records) events).Perm
        (backupTargetsAfter input events) := backupTargetsAfter_perm h
    unfold inheritance
    rw [← inheritedRole_perm hperm.symm (backupTargetsAfter_nodup single)]
    rfl

end Pass

/-! ## One resolution -/

section Resolution

variable {input : ResolutionInput F} {out : ResolutionOutput F}

theorem backupTargetsAfter_preamble (events : List (InnerEvent F)) :
    backupTargetsAfter input (preamble input ++ events) = backupTargetsAfter input events := by
  unfold backupTargetsAfter
  rw [List.foldl_append]
  refine congrArg (fun targets => List.foldl _ targets events) ?_
  refine Steps.foldl_inv (· = input.state.backupTargets) (fun targets event hevent htargets => ?_) rfl
  have hpreliminary := preliminary_preamble input event hevent
  cases event <;> first | exact htargets | exact absurd hpreliminary id

theorem backupTargetsAfter_unattributed (events : List (InnerEvent F)) :
    backupTargetsAfter input (events.map unattributed) = backupTargetsAfter input events := by
  unfold backupTargetsAfter
  rw [List.foldl_map]
  congr 1
  funext targets event
  cases event <;> rfl

/-- The pass depends on the events by their `BackupTargeted` alone. -/
theorem backupInheritance_congr {killed : List SlotId} {events others : List (InnerEvent F)}
    (h : backupTargetsAfter input events = backupTargetsAfter input others) :
    backupInheritance input killed events = backupInheritance input killed others := by
  unfold backupInheritance
  rw [h]

/-- A night runs the pass on all deaths before it. -/
theorem resolve_backupInheritance (hresolve : resolve input = .ok out)
    (hnight : input.state.phaseId.kind = .night) :
    ∃ before after, (out.applied.events.map (·.event)).map unattributed =
      before ++ backupInheritance input (killedSlots before) before ++ after := by
  let d := (nightDeaths input (nightStages input)).1
  have hbody : ∃ more, (phaseParts input).body =
      d.events ++ backupInheritance input d.killed d.events ++ more := by
    unfold phaseParts
    rw [hnight]
    exact ⟨_, (List.append_assoc _ _ _).trans (List.append_assoc _ _ _)⟩
  obtain ⟨more, hbody⟩ := hbody
  obtain ⟨later, hfinal, -⟩ := finished_unrevealing input (taggedParts_sorted input)
  have hkilled : killedSlots ((preamble input ++ d.events).map unattributed) = d.killed := by
    have hslots : killedSlots d.events = d.killed :=
      ((resolveNight_run (fun _ => id) (aliveOk_any input) (triggersOk_any _)
        (nightOk_any input _)).tracked (nightStart_tracked input)).slots
    rw [killedSlots, filterMap_unattributed killedSlot?_unattributed, ← killedSlots, killedSlots_append,
      killedSlots_plain (plain_of_remarks (remark_preamble input)), List.nil_append, hslots]
  have hsame : backupInheritance input d.killed ((preamble input ++ d.events).map unattributed) =
      backupInheritance input d.killed d.events :=
    backupInheritance_congr ((backupTargetsAfter_unattributed _).trans (backupTargetsAfter_preamble _))
  have hconversions : (backupInheritance input d.killed d.events).map unattributed =
      backupInheritance input d.killed d.events := by
    refine (List.map_congr_left fun event hevent => ?_).trans (List.map_id' _)
    obtain ⟨slot, hslot⟩ := backupInheritance_converts hevent
    cases event <;> first | rfl | cases hslot
  refine ⟨(preamble input ++ d.events).map unattributed,
    more.map unattributed ++ (statusTags input (innerParts input).body).map unattributed ++ later, ?_⟩
  rw [hkilled, hsame, (resolve_events hresolve).1]
  show (((taggedParts input).finished input).events input).map unattributed = _
  rw [hfinal]
  show ((preamble input ++ (phaseParts input).body) ++ statusTags input _).map unattributed ++ later = _
  rw [hbody]
  simp only [List.map_append, hconversions, List.append_assoc]

end Resolution

/-! ## A mournful backup -/

/-- A pack with a doctor's backups, vigilantes, and a win trigger that kills mourners. -/
def backupPack : Pack Rat :=
  { villagePack [] with
    roles := ((villagePack []).roles.insert "doctor" { alignment := some "town" }).insert "vigilante"
      { alignment := some "town", actions := [nightAction "shoot" .kill 30 [] []] }
    backupPolicy := { enabled := true, priority := some .targetedThenPassive }
    triggers := [mournerDies] }

theorem backupPack_accepted : Accepted backupPack [.kill] where
  stageOrder_nodup := by decide
  backupPriority _ := rfl
  dayDeathTemplate := by simp [backupPack, villagePack, NotBlank]
  dayDeathAudience := by simp [backupPack, villagePack, NotBlank]
  dayDeathCauseTemplates := by simp [backupPack, villagePack]

/-- A night on which the vigilante shoots the doctor `"d"`; `"m"` is bound to the doctor, `"n"` carries the
passive effect. -/
def backupNight (effects : List Tag) : ResolutionInput Rat :=
  village ⟨backupPack, [.kill], backupPack_accepted⟩
    { phaseId := firstNight
      slots :=
        [{ townie "v" with roleKey := "vigilante" }, { townie "d" with roleKey := "doctor" }, townie "m",
          { townie "n" with effects }]
      backupTargets :=
        [{ backup := "m", sourceTarget := "d", sourceRole := "doctor", sourceAction := "bind"
           phaseId := firstNight }] }
    [{ actionId := "1", actor := "v", templateId := "shoot", targets := ["d"], phaseId := firstNight
       submittedAt := 1 }]

end Fmarch.Resolver
