import Fmarch.Forum.Content
import Mathlib.Data.String.Basic

/-!
# The decisions on mentions (`content_reference`)

`decide_profile_mentions` and `decide_slot_mentions` read a list of claimed spans against a body. Both are one
loop: bounds, the text of the span, its place after the previous span, and the target not met before. The
loop here keeps the panics of the source: `&body[start..stop]` is `sliceIndex`, which gives nothing off the
body or off a character boundary.

**`decideMentions_exact`**: neither decision panics, and each accepts exactly the lists that are `Admissible`.
-/

namespace Fmarch.Forum

open Platform

/-! ## The loop -/

/-- `&body[start..stop]`: nothing where the index panics. -/
def sliceIndex (body : String) (start stop : Nat) : Option String :=
  if start ≤ stop ∧ isCharBoundary body start ∧ isCharBoundary body stop then
    some (byteSlice body start stop)
  else none

/-- `stop > body.len() || !body.is_char_boundary(start) || !body.is_char_boundary(stop)`. -/
def outOfBounds (body : String) (start stop : Nat) : Bool :=
  stop > body.utf8ByteSize || !isCharBoundary body start || !isCharBoundary body stop

/-- What the two decisions differ in: where a candidate's name comes from, what it addresses, and the
refusal of a second address of one target. -/
structure MentionRules (C T D : Type) where
  name : C → Option String
  target : C → T
  span : C → MentionSpan
  duplicate : ContentReferenceReject
  decided : C → D

variable {C T D : Type} [DecidableEq T]

/-- The loop over the candidates: nothing is a panic; `seen` are the targets decided so far. -/
def decideSpansFrom (rules : MentionRules C T D) (body : String) (previousEnd : Nat) (seen : List T) :
    List C → Option (Except ContentReferenceReject (List D))
  | [] => some (.ok [])
  | candidate :: candidates =>
    match rules.name candidate with
    | none => some (.error .unknownMentionTarget)
    | some name =>
      let ⟨offset, len⟩ := rules.span candidate
      let stop := saturatingAdd offset len
      if outOfBounds body offset stop then some (.error .invalidMentionSpan)
      else
        match sliceIndex body offset stop with
        | none => none
        | some spanText =>
          if spanText ≠ "@" ++ name then some (.error .invalidMentionSpan)
          else if offset < previousEnd then some (.error .invalidMentionSpan)
          else if seen.contains (rules.target candidate) then some (.error rules.duplicate)
          else
            (decideSpansFrom rules body stop (seen ++ [rules.target candidate]) candidates).map
              fun rest => rest.map (rules.decided candidate :: ·)

/-- The checks before the loop, and the loop. -/
def decideSpans (rules : MentionRules C T D) (body : String) (candidates : List C) :
    Option (Except ContentReferenceReject (List D)) :=
  if candidates.isEmpty then some (.ok [])
  else if candidates.length > maxMentionsPerPost then some (.error .tooManyMentions)
  else decideSpansFrom rules body 0 [] candidates

/-! ## Profiles -/

/-- `decide_profile_mentions`: the name is the handle resolved upstream. -/
def profileRules : MentionRules MentionCandidate Uuid ProfileMention where
  name candidate := some candidate.handle
  target := MentionCandidate.profileId
  span candidate := ⟨candidate.offset, candidate.len⟩
  duplicate := .duplicateMention
  decided candidate := ⟨candidate.profileId, ⟨candidate.offset, candidate.len⟩⟩

section
variable (candidate : MentionCandidate)

@[simp] theorem profileRules_name : profileRules.name candidate = some candidate.handle := rfl

@[simp] theorem profileRules_target : profileRules.target candidate = candidate.profileId := rfl

@[simp] theorem profileRules_span : profileRules.span candidate = ⟨candidate.offset, candidate.len⟩ := rfl

@[simp] theorem profileRules_duplicate : profileRules.duplicate = .duplicateMention := rfl

@[simp] theorem profileRules_decided :
    profileRules.decided candidate = ⟨candidate.profileId, ⟨candidate.offset, candidate.len⟩⟩ := rfl

end

/-! ## Slots -/

structure SlotMention where
  slotId : String
  span : MentionSpan
  deriving DecidableEq

structure SlotMentionCandidate where
  slotId : String
  offset : Nat
  len : Nat

structure AudienceSeat where
  slotId : String
  publicName : String

structure ChannelAudience where
  seats : List AudienceSeat := []

def ChannelAudience.nameOf (audience : ChannelAudience) (slotId : String) : Option String :=
  (audience.seats.find? (·.slotId == slotId)).map (·.publicName)

/-- `decide_slot_mentions`: the name is the one the seat's occupant goes by in the audience. -/
def slotRules (audience : ChannelAudience) : MentionRules SlotMentionCandidate String SlotMention where
  name candidate := audience.nameOf candidate.slotId
  target := SlotMentionCandidate.slotId
  span candidate := ⟨candidate.offset, candidate.len⟩
  duplicate := .duplicateSlotMention
  decided candidate := ⟨candidate.slotId, ⟨candidate.offset, candidate.len⟩⟩

/-- `decide_slot_mentions`; nothing is a panic. -/
def decideSlotMentions (body : String) (audience : ChannelAudience) (candidates : List SlotMentionCandidate) :
    Option (Except ContentReferenceReject (List SlotMention)) :=
  decideSpans (slotRules audience) body candidates

/-! ## Text at a span -/

/-- `text` stands in `body` at the span: the span starts and ends on character boundaries, inside the body. -/
def Reads (body : String) (span : MentionSpan) (text : String) : Prop :=
  ∃ before after, body = before ++ text ++ after ∧ before.utf8ByteSize = span.offset ∧
    text.utf8ByteSize = span.len

variable {body : String} {offset len : Nat} {rules : MentionRules C T D}

theorem isCharBoundary_iff :
    isCharBoundary body offset ↔ ∃ before after, body = before ++ after ∧ before.utf8ByteSize = offset := by
  rw [isCharBoundary, String.Pos.Raw.isValid_eq_true_iff, String.Pos.Raw.isValid_iff_exists_append]
  constructor
  · rintro ⟨before, after, rfl, hoffset⟩
    exact ⟨before, after, rfl, (congrArg String.Pos.Raw.byteIdx hoffset).symm⟩
  · rintro ⟨before, after, rfl, rfl⟩
    exact ⟨before, after, rfl, rfl⟩

theorem byteSlice_append (before text after : String) :
    byteSlice (before ++ text ++ after) before.utf8ByteSize (before.utf8ByteSize + text.utf8ByteSize) =
      text := by
  have h := String.extract_of_valid before.toList text.toList after.toList
  rw [byteSlice, String.append_assoc]
  simpa using h

/-- Two boundaries in order cut a text between them out of the body. -/
theorem exists_between {start stop : Nat} (hle : start ≤ stop) (hstart : isCharBoundary body start)
    (hstop : isCharBoundary body stop) :
    ∃ before text after, body = before ++ text ++ after ∧ before.utf8ByteSize = start ∧
      start + text.utf8ByteSize = stop := by
  obtain ⟨before, rest, hbody, rfl⟩ := isCharBoundary_iff.1 hstart
  obtain ⟨upTo, after, hbody', rfl⟩ := isCharBoundary_iff.1 hstop
  have hlists : before.toList ++ rest.toList = upTo.toList ++ after.toList := by
    rw [← String.toList_append, ← String.toList_append, ← hbody, hbody']
  rcases List.append_eq_append_iff.1 hlists with ⟨middle, hupTo, -⟩ | ⟨middle, hbefore, -⟩
  · have hupTo : upTo = before ++ .ofList middle := by
      rw [← String.toList_inj, hupTo, String.toList_append, String.toList_ofList]
    refine ⟨before, .ofList middle, after, hupTo ▸ hbody', rfl, ?_⟩
    rw [hupTo, String.utf8ByteSize_append]
  · -- the later boundary is no later: both cut the body at the same place
    have hbefore : before = upTo ++ .ofList middle := by
      rw [← String.toList_inj, hbefore, String.toList_append, String.toList_ofList]
    have hsize : before.utf8ByteSize = upTo.utf8ByteSize + (String.ofList middle).utf8ByteSize := by
      rw [hbefore, String.utf8ByteSize_append]
    have hmiddle : (String.ofList middle).utf8ByteSize = 0 := by omega
    obtain rfl : upTo = before := by
      rw [hbefore, String.utf8ByteSize_eq_zero_iff.1 hmiddle, String.append_empty]
    exact ⟨upTo, "", after, by rw [String.append_empty, hbody'], rfl, by simp⟩

/-- The bounds and the text of a span that the decisions check are that the body reads so there. -/
theorem reads_iff {text : String} : Reads body ⟨offset, len⟩ text ↔
      isCharBoundary body offset ∧ isCharBoundary body (offset + len) ∧
        byteSlice body offset (offset + len) = text := by
  constructor
  · rintro ⟨before, after, rfl, rfl, rfl⟩
    refine ⟨isCharBoundary_iff.2 ⟨before, text ++ after, String.append_assoc, rfl⟩,
      isCharBoundary_iff.2 ⟨before ++ text, after, rfl, String.utf8ByteSize_append⟩,
      byteSlice_append before text after⟩
  · rintro ⟨hstart, hstop, rfl⟩
    obtain ⟨before, text, after, rfl, rfl, hlen⟩ := exists_between (Nat.le_add_right _ _) hstart hstop
    refine ⟨before, after, ?_, rfl, ?_⟩
    · rw [← hlen, byteSlice_append]
    · rw [← hlen, byteSlice_append]
      exact Nat.add_left_cancel hlen

theorem le_of_isCharBoundary (h : isCharBoundary body offset) : offset ≤ body.utf8ByteSize := by
  obtain ⟨before, after, rfl, rfl⟩ := isCharBoundary_iff.1 h
  rw [String.utf8ByteSize_append]
  exact Nat.le_add_right _ _

/-- What a string of the source can hold at most. -/
abbrev Holdable (body : String) : Prop := body.utf8ByteSize < 2 ^ 63

theorem saturatingAdd_eq (hbody : Holdable body)
    (h : saturatingAdd offset len ≤ body.utf8ByteSize ∨ offset + len ≤ body.utf8ByteSize) :
    saturatingAdd offset len = offset + len := by
  unfold saturatingAdd at *
  omega

/-- The check of the bounds passes when the span starts and ends on boundaries of the body. -/
theorem bounds_pass (hbody : Holdable body) : outOfBounds body offset (saturatingAdd offset len) = false ↔
      isCharBoundary body offset ∧ isCharBoundary body (offset + len) := by
  simp only [outOfBounds, Bool.or_eq_false_iff, Bool.not_eq_false', decide_eq_false_iff_not,
    not_lt, gt_iff_lt]
  constructor
  · rintro ⟨⟨hle, hstart⟩, hstop⟩
    rw [saturatingAdd_eq hbody (.inl hle)] at hstop
    exact ⟨hstart, hstop⟩
  · rintro ⟨hstart, hstop⟩
    have hle := le_of_isCharBoundary hstop
    rw [saturatingAdd_eq hbody (.inr hle)]
    exact ⟨⟨hle, hstart⟩, hstop⟩

/-! ## What the decisions accept -/

/-- The body reads `@` and the candidate's name at its span. -/
def ReadsName (rules : MentionRules C T D) (body : String) (candidate : C) : Prop :=
  ∃ name, rules.name candidate = some name ∧ Reads body (rules.span candidate) ("@" ++ name)

/-- A list of mentions of a body as it should be. -/
structure Admissible (rules : MentionRules C T D) (body : String) (candidates : List C) : Prop where
  few : candidates.length ≤ maxMentionsPerPost
  inside : ∀ candidate ∈ candidates,
    (rules.span candidate).offset + (rules.span candidate).len ≤ body.utf8ByteSize ∧
      isCharBoundary body (rules.span candidate).offset ∧
      isCharBoundary body ((rules.span candidate).offset + (rules.span candidate).len)
  reads : ∀ candidate ∈ candidates, ReadsName rules body candidate
  ordered : candidates.Pairwise fun candidate candidate' =>
    (rules.span candidate).offset < (rules.span candidate').offset
  disjoint : candidates.Pairwise fun candidate candidate' =>
    (rules.span candidate).offset + (rules.span candidate).len ≤ (rules.span candidate').offset
  distinct : (candidates.map rules.target).Nodup

/-- The loop goes past a candidate when the body reads so at its span, the span starts past the previous
one and the target is new. It never panics there, and refuses every other candidate. -/
theorem decideSpansFrom_cons (hbody : Holdable body) (previousEnd : Nat) (seen : List T)
    (candidate : C) (candidates : List C) :
    (ReadsName rules body candidate ∧ previousEnd ≤ (rules.span candidate).offset ∧
        rules.target candidate ∉ seen →
      decideSpansFrom rules body previousEnd seen (candidate :: candidates) =
        (decideSpansFrom rules body ((rules.span candidate).offset + (rules.span candidate).len)
          (seen ++ [rules.target candidate]) candidates).map
            fun rest => rest.map (rules.decided candidate :: ·)) ∧
    (¬ (ReadsName rules body candidate ∧ previousEnd ≤ (rules.span candidate).offset ∧
        rules.target candidate ∉ seen) →
      ∃ reject, decideSpansFrom rules body previousEnd seen (candidate :: candidates) =
        some (.error reject)) := by
  rw [decideSpansFrom]
  cases hname : rules.name candidate with
  | none =>
    refine ⟨fun ⟨⟨name, hname', _⟩, _⟩ => ?_, fun _ => ⟨_, rfl⟩⟩
    rw [hname] at hname'
    exact nomatch hname'
  | some name =>
    rcases hspan : rules.span candidate with ⟨offset, len⟩
    have reads_name : ReadsName rules body candidate ↔
        isCharBoundary body offset ∧ isCharBoundary body (offset + len) ∧
          byteSlice body offset (offset + len) = "@" ++ name := by
      rw [ReadsName, hname, hspan, ← reads_iff]
      simp
    by_cases hbounds : isCharBoundary body offset ∧ isCharBoundary body (offset + len)
    · have hstop : saturatingAdd offset len = offset + len :=
        saturatingAdd_eq hbody (.inr (le_of_isCharBoundary hbounds.2))
      have hpass := (bounds_pass hbody).2 hbounds
      have hslice : sliceIndex body offset (offset + len) = some (byteSlice body offset (offset + len)) :=
        if_pos ⟨Nat.le_add_right _ _, hbounds⟩
      rw [hstop] at hpass
      simp only [hstop]
      rw [if_neg (by rw [hpass]; exact Bool.false_ne_true)]
      simp only [hslice, List.contains_iff_mem, ← not_le]
      by_cases htext : byteSlice body offset (offset + len) = "@" ++ name
      · have hreads := reads_name.2 ⟨hbounds.1, hbounds.2, htext⟩
        rw [if_neg (not_not_intro htext)]
        by_cases hprevious : previousEnd ≤ offset
        · rw [if_neg (not_not_intro hprevious)]
          by_cases hseen : rules.target candidate ∈ seen
          · exact ⟨fun h => absurd hseen h.2.2, fun _ => ⟨_, if_pos hseen⟩⟩
          · exact ⟨fun _ => if_neg hseen, fun h => absurd ⟨hreads, hprevious, hseen⟩ h⟩
        · exact ⟨fun h => absurd h.2.1 hprevious, fun _ => ⟨_, if_pos hprevious⟩⟩
      · exact ⟨fun h => absurd (reads_name.1 h.1).2.2 htext, fun _ => ⟨_, if_pos htext⟩⟩
    · have hrefused := (bounds_pass hbody).not.2 hbounds
      rw [Bool.not_eq_false] at hrefused
      refine ⟨fun h => absurd ⟨(reads_name.1 h.1).1, (reads_name.1 h.1).2.1⟩ hbounds, fun _ => ?_⟩
      exact ⟨_, if_pos hrefused⟩

/-- What the loop accepts from where it stands: `previousEnd` is a bound on every span still to come, and
the targets decided so far are taken. -/
theorem decideSpansFrom_spec (rules : MentionRules C T D) (hbody : Holdable body)
    (candidates : List C) : ∀ (previousEnd : Nat) (seen : List T),
    ∃ outcome, decideSpansFrom rules body previousEnd seen candidates = some outcome ∧
      ∀ mentions, outcome = .ok mentions ↔ (∀ candidate ∈ candidates, ReadsName rules body candidate ∧
          previousEnd ≤ (rules.span candidate).offset ∧ rules.target candidate ∉ seen) ∧
        (candidates.Pairwise fun candidate candidate' =>
          (rules.span candidate).offset + (rules.span candidate).len ≤ (rules.span candidate').offset) ∧
        (candidates.map rules.target).Nodup ∧ mentions = candidates.map rules.decided := by
  induction candidates with
  | nil =>
    intro previousEnd seen
    refine ⟨.ok [], rfl, fun mentions => ?_⟩
    rw [Except.ok.injEq, eq_comm]
    simp
  | cons candidate candidates ih =>
    intro previousEnd seen
    obtain ⟨goes, refuses⟩ := decideSpansFrom_cons hbody previousEnd seen candidate candidates
    by_cases hfits : ReadsName rules body candidate ∧ previousEnd ≤ (rules.span candidate).offset ∧
        rules.target candidate ∉ seen
    · obtain ⟨rest, hrest, spec⟩ := ih ((rules.span candidate).offset + (rules.span candidate).len)
        (seen ++ [rules.target candidate])
      refine ⟨rest.map (rules.decided candidate :: ·), by rw [goes hfits, hrest]; rfl, fun mentions => ?_⟩
      rw [List.forall_mem_cons, List.pairwise_cons, List.map_cons, List.nodup_cons, List.map_cons]
      constructor
      · intro h
        cases rest with
        | error reject => exact nomatch h
        | ok decided =>
          obtain rfl := Except.ok.inj h
          obtain ⟨hall, hpairs, hnodup, rfl⟩ := (spec decided).1 rfl
          refine ⟨⟨hfits, fun c hc => ⟨(hall c hc).1, ?_, fun hseen => ?_⟩⟩,
            ⟨fun c hc => (hall c hc).2.1, hpairs⟩, ⟨fun hmem => ?_, hnodup⟩, rfl⟩
          · exact hfits.2.1.trans ((Nat.le_add_right _ _).trans (hall c hc).2.1)
          · exact (hall c hc).2.2 (List.mem_append_left _ hseen)
          · obtain ⟨c, hc, htarget⟩ := List.mem_map.1 hmem
            exact (hall c hc).2.2 (List.mem_append_right _ (List.mem_singleton.2 htarget))
      · rintro ⟨⟨-, hall⟩, ⟨hafter, hpairs⟩, ⟨hfresh, hnodup⟩, rfl⟩
        have hrest : rest = .ok (candidates.map rules.decided) := by
          refine (spec _).2 ⟨fun c hc => ⟨(hall c hc).1, hafter c hc, fun hseen => ?_⟩, hpairs, hnodup, rfl⟩
          rcases List.mem_append.1 hseen with hseen | htarget
          · exact (hall c hc).2.2 hseen
          · exact hfresh (List.mem_map.2 ⟨c, hc, List.mem_singleton.1 htarget⟩)
        rw [hrest]
        rfl
    · obtain ⟨reject, hreject⟩ := refuses hfits
      refine ⟨.error reject, hreject, fun mentions => iff_of_false nofun fun h => ?_⟩
      exact hfits (List.forall_mem_cons.1 h.1).1

omit [DecidableEq T] in
/-- Spans one after the other that each hold an `@` start one after the other. -/
theorem ordered_of_disjoint {candidates : List C}
    (hreads : ∀ candidate ∈ candidates, ReadsName rules body candidate)
    (hdisjoint : candidates.Pairwise fun candidate candidate' => (rules.span candidate).offset + (rules.span candidate).len ≤ (rules.span candidate').offset) :
    candidates.Pairwise fun candidate candidate' =>
      (rules.span candidate).offset < (rules.span candidate').offset := by
  refine List.Pairwise.imp_of_mem (fun {candidate candidate'} hmem _ hle => ?_) hdisjoint
  obtain ⟨name, -, before, after, -, -, hlen⟩ := hreads candidate hmem
  have hat : 0 < (rules.span candidate).len := by
    rw [← hlen, String.utf8ByteSize_append]
    exact Nat.add_pos_left (by decide) _
  omega

omit [DecidableEq T] in
theorem ReadsName.inside {candidate : C} (h : ReadsName rules body candidate) :
    (rules.span candidate).offset + (rules.span candidate).len ≤ body.utf8ByteSize ∧
      isCharBoundary body (rules.span candidate).offset ∧
      isCharBoundary body ((rules.span candidate).offset + (rules.span candidate).len) := by
  obtain ⟨name, -, hreads⟩ := h
  obtain ⟨hstart, hstop, -⟩ := reads_iff.1 hreads
  exact ⟨le_of_isCharBoundary hstop, hstart, hstop⟩

/-- The checks before the loop and the loop accept exactly the admissible lists, and never panic. -/
theorem decideSpans_spec (rules : MentionRules C T D) (hbody : Holdable body) (candidates : List C) :
    ∃ outcome, decideSpans rules body candidates = some outcome ∧ ∀ mentions, outcome = .ok mentions ↔
        Admissible rules body candidates ∧ mentions = candidates.map rules.decided := by
  unfold decideSpans
  by_cases hempty : candidates = []
  · subst hempty
    refine ⟨.ok [], rfl, fun mentions => ?_⟩
    have hadmissible : Admissible rules body [] :=
      ⟨Nat.zero_le _, by simp, by simp, .nil, .nil, .nil⟩
    rw [Except.ok.injEq, eq_comm]
    exact (and_iff_right hadmissible).symm
  · rw [if_neg (by simpa using hempty)]
    by_cases hmany : candidates.length > maxMentionsPerPost
    · rw [if_pos hmany]
      refine ⟨_, rfl, fun mentions => iff_of_false nofun fun h => ?_⟩
      exact absurd hmany (Nat.not_lt.2 h.1.few)
    · rw [if_neg hmany]
      obtain ⟨outcome, houtcome, spec⟩ := decideSpansFrom_spec rules hbody candidates 0 []
      refine ⟨outcome, houtcome, fun mentions => (spec mentions).trans ⟨?_, ?_⟩⟩
      · rintro ⟨hall, hdisjoint, hdistinct, rfl⟩
        have hreads : ∀ candidate ∈ candidates, ReadsName rules body candidate := fun c hc => (hall c hc).1
        exact ⟨⟨Nat.not_lt.1 hmany, fun c hc => (hreads c hc).inside, hreads,
          ordered_of_disjoint hreads hdisjoint, hdisjoint, hdistinct⟩, rfl⟩
      · rintro ⟨h, rfl⟩
        exact ⟨fun c hc => ⟨h.reads c hc, Nat.zero_le _, List.not_mem_nil⟩, h.disjoint, h.distinct, rfl⟩

/-- The loop of `decide_profile_mentions` is the shared one, wherever that does not panic. -/
theorem decideSpansFrom_profileRules (hbody : Holdable body) (candidates : List MentionCandidate) : ∀ (previousEnd : Nat) (seen : List Uuid),
    decideSpansFrom profileRules body previousEnd seen candidates =
      some (decideMentionsFrom body previousEnd seen candidates) := by
  induction candidates with
  | nil => intro _ _; rfl
  | cons candidate candidates ih =>
    intro previousEnd seen
    rw [decideSpansFrom, decideMentionsFrom]
    simp only [profileRules_name, profileRules_target, profileRules_span, profileRules_duplicate,
      profileRules_decided, ih]
    by_cases hrefused : outOfBounds body candidate.offset (saturatingAdd candidate.offset candidate.len)
    · rw [if_pos hrefused]
      exact congrArg some (if_pos hrefused).symm
    · have hbounds := (bounds_pass hbody).1 (Bool.eq_false_iff.2 hrefused)
      have hstop : saturatingAdd candidate.offset candidate.len = candidate.offset + candidate.len :=
        saturatingAdd_eq hbody (.inr (le_of_isCharBoundary hbounds.2))
      have hslice : sliceIndex body candidate.offset (candidate.offset + candidate.len) =
          some (byteSlice body candidate.offset (candidate.offset + candidate.len)) :=
        if_pos ⟨Nat.le_add_right _ _, hbounds⟩
      rw [if_neg hrefused]
      refine Eq.trans ?_ (congrArg some (if_neg hrefused).symm)
      rw [hstop, hslice]
      dsimp only
      split
      · rfl
      · split
        · rfl
        · split
          · rfl
          · cases decideMentionsFrom body (candidate.offset + candidate.len)
              (seen ++ [candidate.profileId]) candidates <;> rfl

theorem decideSpans_profileRules (hbody : Holdable body) (candidates : List MentionCandidate) :
    decideSpans profileRules body candidates = some (decideProfileMentions body candidates) := by
  rw [decideSpans, decideProfileMentions, decideSpansFrom_profileRules hbody]
  split
  · rfl
  · split <;> rfl

/-- Both decisions accept exactly the admissible lists and decide each candidate's target and span; neither
ever indexes the body off its bounds or off a character boundary, and the end of a span never overflows. -/
theorem decideMentions_exact (body : { text : String // Holdable text }) : (∀ candidates,
      decideSpans profileRules body candidates = some (decideProfileMentions body candidates) ∧
      ∀ mentions, decideProfileMentions body candidates = .ok mentions ↔
        Admissible profileRules body candidates ∧ mentions = candidates.map profileRules.decided) ∧
    (∀ audience candidates, ∃ outcome, decideSlotMentions body audience candidates = some outcome ∧
      ∀ mentions, outcome = .ok mentions ↔ Admissible (slotRules audience) body candidates ∧
          mentions = candidates.map (slotRules audience).decided) ∧
    ∀ offset len, saturatingAdd offset len < 2 ^ 64 := by
  refine ⟨fun candidates => ?_, fun audience candidates => decideSpans_spec _ body.2 candidates,
    fun offset len => ?_⟩
  · obtain ⟨outcome, houtcome, spec⟩ := decideSpans_spec profileRules body.2 candidates
    have hdecided := decideSpans_profileRules body.2 candidates
    obtain rfl := Option.some.inj (hdecided.symm.trans houtcome)
    exact ⟨hdecided, spec⟩
  · unfold saturatingAdd
    omega

/-- A name of two bytes a letter: the span of `@Ана` is seven bytes long, and one byte less ends inside a
letter. -/
example : decideSlotMentions "@Ана — ты?" ⟨[⟨"slot_7", "Ана"⟩]⟩ [⟨"slot_7", 0, 7⟩] =
      some (.ok [⟨"slot_7", ⟨0, 7⟩⟩]) ∧
    decideSlotMentions "@Ана — ты?" ⟨[⟨"slot_7", "Ана"⟩]⟩ [⟨"slot_7", 0, 6⟩] =
      some (.error .invalidMentionSpan) := by
  decide +kernel

end Fmarch.Forum
