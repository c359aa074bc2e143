import Fmarch.Domain.Pack
import Fmarch.Lib.Fallible
import Fmarch.Platform.Values
import Mathlib.Data.List.Sort

/-!
# Reward bindings (`game_platform`)

A day event's reward is a list of effect templates, each addressed by a recipient selector. `bind` turns
the selectors into the slots they select and gives one concrete effect for each template and slot;
`compile_plan` makes the effect plan of them.

The plan is `fanOut`, the list of the pairs (template, slot) in lexicographic order, read through
`EffectOperationTemplate::bind`: **`bind_fansOut`**.
-/

namespace Fmarch.Platform.Rewards

open Domain (BTreeSet Float64 GrantKind)
open Fallible (refuseIf)

/-! ## Identifiers -/

/-- `ModelError`: the refusals of identifiers, rewards and effect plans. -/
inductive ModelError where
  | blankIdentifier (kind : String)
  | emptyReward (rewardKey : String)
  | missingRecipients (selector : String)
  | zeroGrantUses
  | invalidVoteWeight
  | unexpectedVoteWeight
  | emptyEffectPlan
  | blankEffectPlanReason
  deriving DecidableEq

/-- The `identifier!` types: a text that is not blank. -/
structure Identifier where
  text : String
  notBlank : trim text ≠ ""
  deriving DecidableEq

namespace Identifier

/-- `identifier!`'s `new`. -/
def new (kind value : String) : Except ModelError Identifier :=
  if h : trim value = "" then .error (.blankIdentifier kind) else .ok ⟨value, h⟩

instance : Ord Identifier := ⟨compareOn Identifier.text⟩

instance : Std.TransOrd Identifier := inferInstanceAs (Std.TransCmp (compareOn Identifier.text))

instance : Std.LawfulEqOrd Identifier where
  eq_of_compare {a b} h := by
    have htext : a.text = b.text := Std.LawfulEqOrd.eq_of_compare h
    cases a
    cases b
    simpa using htext

instance : Std.LawfulBEqOrd Identifier where
  compare_eq_iff_beq {a b} := by
    rw [beq_iff_eq]
    exact Std.LawfulEqOrd.compare_eq_iff_eq

end Identifier

abbrev SlotId := Identifier
abbrev RewardKey := Identifier
abbrev TemplateKey := Identifier
abbrev DayEventId := Identifier
abbrev Tag := Identifier

/-! ## Effects -/

inductive SlotLifecycleEffect where
  | alive | dead | modkilled
  deriving DecidableEq

inductive EffectVisibility where
  | hidden | «public» | actor | target | actorAndTarget
  deriving DecidableEq

structure GrantSpec (F : Type) where
  grantId : Tag
  kind : GrantKind
  uses : Nat
  voteWeight : Option F
  visibility : EffectVisibility
  deriving DecidableEq

variable {F : Type}

def GrantSpec.validate [Float64 F] (grant : GrantSpec F) : Except ModelError Unit :=
  if grant.uses = 0 then .error .zeroGrantUses
  else
    match grant.kind, grant.voteWeight with
    | .voteWeight, some weight =>
      if Float64.isFinite weight ∧ Float64.lt Float64.zero weight then .ok ()
      else .error .invalidVoteWeight
    | .voteWeight, none => .error .invalidVoteWeight
    | _, some _ => .error .unexpectedVoteWeight
    | _, none => .ok ()

inductive ConcreteEffect (F : Type) where
  | setSlotLifecycle (target : SlotId) (status : SlotLifecycleEffect)
  | mark (target : SlotId) (effect : Tag)
  | clear (target : SlotId) (effect : Tag)
  | grant (target : SlotId) (grant : GrantSpec F)
  | revealAlignment (target : SlotId)
  | revealRole (target : SlotId)
  deriving DecidableEq

/-- The slot an effect is addressed to. -/
def ConcreteEffect.target : ConcreteEffect F → SlotId
  | .setSlotLifecycle target _ | .mark target _ | .clear target _ | .grant target _
  | .revealAlignment target | .revealRole target => target

def ConcreteEffect.validate [Float64 F] : ConcreteEffect F → Except ModelError Unit
  | .grant _ spec => spec.validate
  | _ => .ok ()

inductive EffectOperationTemplate (F : Type) where
  | setSlotLifecycle (status : SlotLifecycleEffect)
  | mark (effect : Tag)
  | clear (effect : Tag)
  | grant (grant : GrantSpec F)
  | revealAlignment
  | revealRole

namespace EffectOperationTemplate

/-- `EffectOperationTemplate::validate`. -/
def validate [Float64 F] : EffectOperationTemplate F → Except ModelError Unit
  | .grant spec => spec.validate
  | _ => .ok ()

/-- `EffectOperationTemplate::bind`. -/
def bind (target : SlotId) : EffectOperationTemplate F → ConcreteEffect F
  | .setSlotLifecycle status => .setSlotLifecycle target status
  | .mark effect => .mark target effect
  | .clear effect => .clear target effect
  | .grant spec => .grant target spec
  | .revealAlignment => .revealAlignment target
  | .revealRole => .revealRole target

@[simp] theorem target_bind (target : SlotId) (operation : EffectOperationTemplate F) :
    (operation.bind target).target = target := by
  cases operation <;> rfl

@[simp] theorem validate_bind [Float64 F] (target : SlotId) (operation : EffectOperationTemplate F) :
    (operation.bind target).validate = operation.validate := by
  cases operation <;> rfl

end EffectOperationTemplate

/-! ## Selecting recipients -/

inductive RecipientSelector where
  | winner
  | participant
  | hostChosen
  | explicitSlot (slot : SlotId)

def RecipientSelector.name : RecipientSelector → String
  | .winner => "winner"
  | .participant => "participant"
  | .hostChosen => "host_chosen"
  | .explicitSlot _ => "explicit_slot"

structure RecipientBindings where
  winners : List SlotId
  participants : List SlotId
  hostChosen : List SlotId

namespace RecipientBindings

/-- `xs.iter().cloned().collect::<BTreeSet<_>>().into_iter().collect()`. -/
def unique (slots : List SlotId) : List SlotId := ((∅ : BTreeSet SlotId).insertMany slots).toList

theorem mem_unique : slot ∈ unique slots ↔ slot ∈ slots := Domain.mem_collect

theorem unique_eq_nil : unique slots = [] ↔ slots = [] := by
  constructor
  · intro h
    refine List.eq_nil_iff_forall_not_mem.2 fun slot hslot => ?_
    rw [← mem_unique, h] at hslot
    exact List.not_mem_nil hslot
  · rintro rfl
    rfl

theorem unique_ordered (slots : List SlotId) : (unique slots).Pairwise (compare · · = .lt) :=
  Std.TreeSet.ordered_toList

theorem unique_congr (h : ∀ slot, slot ∈ slots ↔ slot ∈ slots') : unique slots = unique slots' := by
  have irrefl : Std.Irrefl fun slot slot' : SlotId => compare slot slot' = .lt :=
    ⟨fun slot hlt => by simp at hlt⟩
  have antisymm : Std.Antisymm fun slot slot' : SlotId => compare slot slot' = .lt :=
    ⟨fun _ _ hlt hgt => absurd hgt (Std.OrientedCmp.not_lt_of_lt hlt)⟩
  refine (unique_ordered slots).eq_of_mem_iff (unique_ordered slots') fun slot => ?_
  rw [mem_unique, mem_unique, h]

theorem unique_singleton (slot : SlotId) : unique [slot] = [slot] := by
  rfl

/-- `if unique.is_empty() { Err(MissingRecipients) }`. -/
def resolveFrom (selector : RecipientSelector) (selected : List SlotId) : Except ModelError (List SlotId) :=
  if unique selected = [] then .error (.missingRecipients selector.name) else .ok (unique selected)

theorem resolveFrom_congr {selector : RecipientSelector} (h : ∀ slot, slot ∈ slots ↔ slot ∈ slots') :
    resolveFrom selector slots = resolveFrom selector slots' := by
  rw [resolveFrom, resolveFrom, unique_congr h]

/-- `RecipientBindings::resolve`. -/
def resolve (recipients : RecipientBindings) : RecipientSelector → Except ModelError (List SlotId)
  | .winner => resolveFrom .winner recipients.winners
  | .participant => resolveFrom .participant recipients.participants
  | .hostChosen => resolveFrom .hostChosen recipients.hostChosen
  | .explicitSlot slot => .ok [slot]

/-- The slots a selector stands for, as they are listed. -/
def selection (recipients : RecipientBindings) : RecipientSelector → List SlotId
  | .winner => recipients.winners
  | .participant => recipients.participants
  | .hostChosen => recipients.hostChosen
  | .explicitSlot slot => [slot]

/-- A selector resolves to the slots it stands for, each once, and to none of it stands for none. -/
theorem resolve_eq_ok {recipients : RecipientBindings} {selector : RecipientSelector}
    {targets : List SlotId} : recipients.resolve selector = .ok targets ↔
    recipients.selection selector ≠ [] ∧ targets = unique (recipients.selection selector) := by
  have from_list : ∀ slots, resolveFrom selector slots = .ok targets ↔
      slots ≠ [] ∧ targets = unique slots := by
    intro slots
    rw [resolveFrom, Fallible.ite_error_eq_ok, unique_eq_nil, Except.ok.injEq, eq_comm (a := targets)]
  cases selector with
  | winner => exact from_list _
  | participant => exact from_list _
  | hostChosen => exact from_list _
  | explicitSlot slot =>
    rw [resolve, selection, unique_singleton, Except.ok.injEq, eq_comm (a := targets)]
    exact (and_iff_right (List.cons_ne_nil _ _)).symm

/-- The two list the same slots under every selector, in whatever order and however often. -/
def SameSlots (recipients recipients' : RecipientBindings) : Prop :=
  ∀ selector slot, slot ∈ recipients.selection selector ↔ slot ∈ recipients'.selection selector

end RecipientBindings

/-! ## Bindings -/

structure RewardEffectTemplate (F : Type) where
  recipient : RecipientSelector
  operation : EffectOperationTemplate F

structure RewardBinding (F : Type) where
  rewardKey : RewardKey
  displayNameThemeKey : TemplateKey
  effects : List (RewardEffectTemplate F)

inductive EffectOrigin where
  | hostFiat (principalId : Uuid)
  | dayEventReward (eventId : DayEventId) (rewardKey : RewardKey)

structure EffectPlan (F : Type) where
  origin : EffectOrigin
  effects : List (ConcreteEffect F)
  reason : String

def EffectPlan.tryNew [Float64 F] (origin : EffectOrigin) (effects : List (ConcreteEffect F))
    (reason : String) : Except ModelError (EffectPlan F) := do
  refuseIf (effects = []) .emptyEffectPlan
  refuseIf (trim reason = "") .blankEffectPlanReason
  effects.forM (·.validate)
  pure { origin, effects, reason }

namespace RewardBinding

open RecipientBindings (unique)

/-- `RewardBinding::validate`. -/
def validate [Float64 F] (binding : RewardBinding F) : Except ModelError Unit := do
  refuseIf (binding.effects = []) (.emptyReward binding.rewardKey.text)
  binding.effects.forM (·.operation.validate)

/-- The loop of `bind`. -/
def bindEach (recipients : RecipientBindings) :
    List (RewardEffectTemplate F) → List (ConcreteEffect F) → Except ModelError (List (ConcreteEffect F))
  | [], concrete => .ok concrete
  | effect :: effects, concrete => do
    let targets ← recipients.resolve effect.recipient
    bindEach recipients effects (concrete ++ targets.map (effect.operation.bind ·))

/-- `RewardBinding::bind`. -/
def bind [Float64 F] (binding : RewardBinding F) (recipients : RecipientBindings) :
    Except ModelError (List (ConcreteEffect F)) := do
  binding.validate
  bindEach recipients binding.effects []

variable {binding : RewardBinding F} {plan : List (ConcreteEffect F)}
   {recipients : RecipientBindings}

theorem validate_eq_ok [Float64 F] : binding.validate = .ok () ↔
    binding.effects ≠ [] ∧ ∀ effect ∈ binding.effects, effect.operation.validate = .ok () := by
  rw [validate, Fallible.bind_eq_ok]
  simp only [Fallible.refuseIf_eq_ok, Fallible.forM_eq_ok]
  exact ⟨fun ⟨_, h⟩ => h, fun h => ⟨(), h⟩⟩

/-- The loop succeeds when every selector stands for some slot, and lists the effects template by
template. -/
theorem bindEach_eq_ok {effects : List (RewardEffectTemplate F)} {concrete : List (ConcreteEffect F)} :
    bindEach recipients effects concrete = .ok plan ↔
      (∀ effect ∈ effects, recipients.selection effect.recipient ≠ []) ∧
        plan = concrete ++ effects.flatMap fun effect =>
          (unique (recipients.selection effect.recipient)).map (effect.operation.bind ·) := by
  induction effects generalizing concrete with
  | nil =>
    rw [bindEach, Except.ok.injEq]
    simp only [List.not_mem_nil, List.flatMap_nil, List.append_nil, false_implies, implies_true, true_and]
    exact eq_comm
  | cons effect effects ih =>
    rw [bindEach, Fallible.bind_eq_ok]
    constructor
    · rintro ⟨targets, htargets, hrest⟩
      obtain ⟨hsome, rfl⟩ := RecipientBindings.resolve_eq_ok.1 htargets
      obtain ⟨hall, rfl⟩ := ih.1 hrest
      exact ⟨List.forall_mem_cons.2 ⟨hsome, hall⟩, by rw [List.flatMap_cons, List.append_assoc]⟩
    · rintro ⟨hall, rfl⟩
      obtain ⟨hsome, hall⟩ := List.forall_mem_cons.1 hall
      refine ⟨_, RecipientBindings.resolve_eq_ok.2 ⟨hsome, rfl⟩, ih.2 ⟨hall, ?_⟩⟩
      rw [List.flatMap_cons, List.append_assoc]

/-- A binding succeeds when it is valid and every selector stands for some slot. -/
theorem bind_eq_ok [Float64 F] : binding.bind recipients = .ok plan ↔ binding.validate = .ok () ∧
        (∀ effect ∈ binding.effects, recipients.selection effect.recipient ≠ []) ∧
          plan = binding.effects.flatMap fun effect =>
            (unique (recipients.selection effect.recipient)).map (effect.operation.bind ·) := by
  rw [bind, Fallible.bind_eq_ok]
  simp only [bindEach_eq_ok, List.nil_append]
  exact ⟨fun ⟨_, h⟩ => h, fun h => ⟨(), h⟩⟩

/-- `RewardBinding::compile_plan`. -/
def compilePlan [Float64 F] (binding : RewardBinding F) (eventId : DayEventId)
    (recipients : RecipientBindings) (reason : String) : Except ModelError (EffectPlan F) := do
  let concrete ← binding.bind recipients
  EffectPlan.tryNew (.dayEventReward eventId binding.rewardKey) concrete reason

/-! ## The pairs of a plan -/

/-- The order a plan lists its effects in: template by template, and the slots of one in their order. -/
def Before {n : Nat} (pair pair' : Fin n × SlotId) : Prop :=
  pair.1 < pair'.1 ∨ pair.1 = pair'.1 ∧ compare pair.2 pair'.2 = .lt

/-- The pairs of a template and a slot it is addressed to. -/
def fanOut (binding : RewardBinding F) (recipients : RecipientBindings) :
    List (Fin binding.effects.length × SlotId) :=
  (List.finRange binding.effects.length).flatMap fun template =>
    (unique (recipients.selection binding.effects[template].recipient)).map (template, ·)

theorem mem_fanOut {template : Fin binding.effects.length} {slot : SlotId} :
    (template, slot) ∈ binding.fanOut recipients ↔
      slot ∈ recipients.selection binding.effects[template].recipient := by
  rw [fanOut, List.mem_flatMap]
  constructor
  · rintro ⟨_, -, hmem⟩
    obtain ⟨_, hslot, hpair⟩ := List.mem_map.1 hmem
    obtain ⟨rfl, rfl⟩ := Prod.mk.inj hpair
    exact RecipientBindings.mem_unique.1 hslot
  · intro hslot
    exact ⟨template, List.mem_finRange _, List.mem_map.2 ⟨slot, RecipientBindings.mem_unique.2 hslot, rfl⟩⟩

theorem fanOut_ordered (binding : RewardBinding F) (recipients : RecipientBindings) :
    (binding.fanOut recipients).Pairwise Before := by
  rw [fanOut, List.pairwise_flatMap]
  constructor
  · intro template _
    rw [List.pairwise_map]
    exact (RecipientBindings.unique_ordered _).imp fun hlt => .inr ⟨rfl, hlt⟩
  · refine (List.pairwise_lt_finRange _).imp fun hlt pair hpair pair' hpair' => .inl ?_
    obtain ⟨_, -, rfl⟩ := List.mem_map.1 hpair
    obtain ⟨_, -, rfl⟩ := List.mem_map.1 hpair'
    exact hlt

theorem fanOut_nodup (binding : RewardBinding F) (recipients : RecipientBindings) :
    (binding.fanOut recipients).Nodup := by
  refine (fanOut_ordered binding recipients).imp fun hbefore heq => ?_
  subst heq
  rcases hbefore with hlt | ⟨-, hlt⟩
  · exact lt_irrefl _ hlt
  · simp at hlt

theorem flatMap_bind_eq (binding : RewardBinding F) (recipients : RecipientBindings) :
    (binding.effects.flatMap fun effect =>
      (unique (recipients.selection effect.recipient)).map (effect.operation.bind ·)) =
    (binding.fanOut recipients).map fun pair => binding.effects[pair.1].operation.bind pair.2 := by
  rw [fanOut, List.map_flatMap]
  conv_lhs => rw [← List.map_getElem_finRange binding.effects, List.flatMap_map]
  simp only [List.map_map, Function.comp_def]
  rfl

/-- Only which slots there are under each selector counts, for the plan and for a refusal. -/
theorem bind_congr [Float64 F] (binding : RewardBinding F) {recipients' : RecipientBindings}
    (h : recipients.SameSlots recipients') : binding.bind recipients = binding.bind recipients' := by
  have resolves : ∀ selector, recipients.resolve selector = recipients'.resolve selector := by
    intro selector
    cases selector with
    | winner => exact RecipientBindings.resolveFrom_congr (h .winner)
    | participant => exact RecipientBindings.resolveFrom_congr (h .participant)
    | hostChosen => exact RecipientBindings.resolveFrom_congr (h .hostChosen)
    | explicitSlot slot => rfl
  have loops : ∀ (effects : List (RewardEffectTemplate F)) concrete,
      bindEach recipients effects concrete = bindEach recipients' effects concrete := by
    intro effects
    induction effects with
    | nil => intro concrete; rfl
    | cons effect effects ih =>
      intro concrete
      rw [bindEach, bindEach, resolves]
      congr 1
      funext targets
      exact ih _
  rw [bind, bind]
  congr 1
  funext _
  exact loops _ _

/-- The plan of a valid binding passes the checks of effect plans. -/
theorem forM_validate_eq_ok [Float64 F] (h : binding.bind recipients = .ok plan) :
    plan.forM (·.validate) = .ok () := by
  obtain ⟨hvalid, -, rfl⟩ := bind_eq_ok.1 h
  rw [Fallible.forM_eq_ok]
  intro effect heffect
  obtain ⟨template, htemplate, heffect⟩ := List.mem_flatMap.1 heffect
  obtain ⟨slot, -, rfl⟩ := List.mem_map.1 heffect
  rw [EffectOperationTemplate.validate_bind]
  exact (validate_eq_ok.1 hvalid).2 template htemplate

/-- A binding that succeeds makes a plan of one effect for each pair of a template and a slot its selector
stands for: `pairs` lists each of them once, in an order that they determine. No template is left without
an effect, no effect goes to a slot outside the selection, and recipients that list the same slots make the
same plan. `compile_plan` takes that plan under any reason that is not blank. -/
theorem bind_fansOut [Float64 F] (binding : RewardBinding F) (recipients : RecipientBindings)
    (plan : List (ConcreteEffect F)) (h : binding.bind recipients = .ok plan) :
    plan ≠ [] ∧
    (∃ pairs : List (Fin binding.effects.length × SlotId),
      plan = pairs.map (fun pair => binding.effects[pair.1].operation.bind pair.2) ∧
      pairs.Nodup ∧ pairs.Pairwise Before ∧
      (∀ template slot, (template, slot) ∈ pairs ↔
        slot ∈ recipients.selection binding.effects[template].recipient) ∧
      ∀ template, ∃ slot, (template, slot) ∈ pairs) ∧
    (∀ effect ∈ plan, ∃ template ∈ binding.effects, effect.target ∈ recipients.selection template.recipient) ∧
    (∀ recipients', recipients.SameSlots recipients' → binding.bind recipients' = .ok plan) ∧
    ∀ eventId reason, binding.compilePlan eventId recipients reason =
      if trim reason = "" then .error .blankEffectPlanReason
      else .ok ⟨.dayEventReward eventId binding.rewardKey, plan, reason⟩ := by
  obtain ⟨hvalid, hsome, hplan⟩ := bind_eq_ok.1 h
  have hpairs := flatMap_bind_eq binding recipients
  have reached : ∀ template, ∃ slot, (template, slot) ∈ binding.fanOut recipients := by
    intro template
    obtain ⟨slot, hslot⟩ := List.exists_mem_of_ne_nil _ (hsome _ (List.getElem_mem template.isLt))
    exact ⟨slot, mem_fanOut.2 hslot⟩
  have nonempty : plan ≠ [] := by
    obtain ⟨slot, hslot⟩ := reached ⟨0, List.length_pos_iff.2 (validate_eq_ok.1 hvalid).1⟩
    rw [hplan, hpairs]
    exact List.ne_nil_of_mem (List.mem_map_of_mem hslot)
  refine ⟨nonempty, ⟨binding.fanOut recipients, hplan.trans hpairs, fanOut_nodup _ _, fanOut_ordered _ _,
    fun _ _ => mem_fanOut, reached⟩, ?_, fun recipients' hsame => bind_congr binding hsame ▸ h, ?_⟩
  · intro effect heffect
    rw [hplan] at heffect
    obtain ⟨template, htemplate, heffect⟩ := List.mem_flatMap.1 heffect
    obtain ⟨slot, hslot, rfl⟩ := List.mem_map.1 heffect
    refine ⟨template, htemplate, ?_⟩
    rw [EffectOperationTemplate.target_bind]
    exact RecipientBindings.mem_unique.1 hslot
  · intro eventId reason
    rw [compilePlan, h]
    change EffectPlan.tryNew _ plan reason = _
    have hchecks := forM_validate_eq_ok h
    unfold EffectPlan.tryNew
    rw [hchecks, refuseIf, if_neg nonempty, refuseIf]
    by_cases hblank : trim reason = ""
    · rw [if_pos hblank, if_pos hblank]
      rfl
    · rw [if_neg hblank, if_neg hblank]
      rfl

private abbrev named (text : String) (h : trim text ≠ "" := by decide) : Identifier := ⟨text, h⟩

/-- The winner is marked and every participant weighs double; both lists repeat a slot. -/
theorem doubleVote_fansOut :
    ∃ (binding : RewardBinding Rat) (recipients : RecipientBindings) (plan : List (ConcreteEffect Rat)),
      plan.length = 3 ∧ plan ≠ [] ∧
      ∀ effect ∈ plan, ∃ template ∈ binding.effects,
        effect.target ∈ recipients.selection template.recipient := by
  let binding : RewardBinding Rat :=
    { rewardKey := named "crown"
      displayNameThemeKey := named "crown_name"
      effects :=
        [⟨.winner, .mark (named "hero")⟩,
          ⟨.participant, .grant ⟨named "double", .voteWeight, 1, some 2, .public⟩⟩] }
  let recipients : RecipientBindings :=
    { winners := [named "a", named "a"]
      participants := [named "b", named "a", named "b"]
      hostChosen := [] }
  let plan : List (ConcreteEffect Rat) :=
    [.mark (named "a") (named "hero"), .grant (named "a") ⟨named "double", .voteWeight, 1, some 2, .public⟩,
      .grant (named "b") ⟨named "double", .voteWeight, 1, some 2, .public⟩]
  obtain ⟨hnonempty, -, htargets, -, -⟩ := bind_fansOut binding recipients plan (by decide +kernel)
  exact ⟨binding, recipients, plan, rfl, hnonempty, htargets⟩

end RewardBinding

end Fmarch.Platform.Rewards
