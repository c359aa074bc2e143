import Fmarch.Domain.Phase
import Fmarch.Lib.Decimal
import Fmarch.Lib.Fallible
import Mathlib.Data.List.TakeDrop
import Mathlib.Data.String.Basic

/-!
# The text of a phase id

`phase.rs` keeps the text of a phase id next to its parts, and builds one either by `PhaseId::parse` from a
text or by `PhaseId::compose_with_revote` from parts. `CanonicalText` is the grammar the parser is to accept,
said without the parser or the printer.

**`phaseId_text`**: the parser accepts the grammar and nothing else, what it builds has the text it read,
a phase id is built again from its text and from its parts, and no two triples of parts share a text.
-/

namespace Fmarch.Domain

open Decimal Fallible

inductive PhaseIdError where
  | unknownKind (phaseId : String)
  | missingOrdinal (phaseId : String)
  | invalidOrdinal (phaseId : String)
  | zeroOrdinal (phaseId : String)
  | ordinalOutOfRange (phaseId : String)
  | nonCanonicalOrdinal (phaseId : String)
  | missingRevote (phaseId : String)
  | invalidRevote (phaseId : String)
  | zeroRevote (phaseId : String)
  | nonCanonicalRevote (phaseId : String)

/-- The text an error names. -/
def PhaseIdError.phaseId : PhaseIdError → String
  | unknownKind phaseId | missingOrdinal phaseId | invalidOrdinal phaseId | zeroOrdinal phaseId
  | ordinalOutOfRange phaseId | nonCanonicalOrdinal phaseId | missingRevote phaseId
  | invalidRevote phaseId | zeroRevote phaseId | nonCanonicalRevote phaseId => phaseId

/-- The character of `PhaseKind::code`. -/
def PhaseKind.letter : PhaseKind → Char
  | day => 'D'
  | night => 'N'
  | twilight => 'T'

def PhaseKind.fromCode (code : Char) : Option PhaseKind :=
  if code = 'D' then some day
  else if code = 'N' then some night
  else if code = 'T' then some twilight
  else none

/-- `PhaseId` as `phase.rs` stores it. -/
structure StoredPhaseId where
  canonical : String
  kind : PhaseKind
  number : UInt32
  revote : Option UInt32

namespace StoredPhaseId

/-- `i32::MAX as u32`. -/
def maxOrdinal : UInt32 := 0x7fffffff

/-- `str::parse::<u32>`. -/
def parseU32 (cs : List Char) : Option UInt32 := (parseUnsigned (2 ^ 32) cs).map UInt32.ofNat

/-- `str::len`. -/
def byteLen (cs : List Char) : Nat := (cs.map Char.utf8Size).sum

/-- `str::split_once`. -/
def splitOnce (separator : Char) (cs : List Char) : List Char × Option (List Char) :=
  match cs.span (· ≠ separator) with
  | (before, []) => (before, none)
  | (before, _ :: after) => (before, some after)

/-- `format!("{number:02}")`. -/
def ordinalDigits (number : UInt32) : List Char := padded 2 number.toNat

/-- `to_string` of a revote attempt. -/
def attemptDigits (attempt : UInt32) : List Char := Nat.toDigits 10 attempt.toNat

def parseOrdinal (phaseId : String) (ordinal : List Char) : Except PhaseIdError UInt32 :=
  if ordinal.isEmpty then .error (.missingOrdinal phaseId)
  else if byteLen ordinal < 2 then .error (.nonCanonicalOrdinal phaseId)
  else if !ordinal.all Char.isDigit then .error (.invalidOrdinal phaseId)
  else
    match parseU32 ordinal with
    | none => .error (.invalidOrdinal phaseId)
    | some number =>
      if number = 0 then .error (.zeroOrdinal phaseId)
      else if number > maxOrdinal then .error (.ordinalOutOfRange phaseId)
      else if ordinalDigits number ≠ ordinal then .error (.nonCanonicalOrdinal phaseId)
      else .ok number

def parseRevote (phaseId : String) (revote : List Char) : Except PhaseIdError UInt32 :=
  if revote.isEmpty then .error (.missingRevote phaseId)
  else if !revote.all Char.isDigit then .error (.invalidRevote phaseId)
  else
    match parseU32 revote with
    | none => .error (.invalidRevote phaseId)
    | some attempt =>
      if attempt = 0 then .error (.zeroRevote phaseId)
      else if attemptDigits attempt ≠ revote then .error (.nonCanonicalRevote phaseId)
      else .ok attempt

/-- The optional attempt: `map` and `transpose`. -/
def parseAttempt (phaseId : String) : Option (List Char) → Except PhaseIdError (Option UInt32)
  | none => .ok none
  | some revote => (parseRevote phaseId revote).map some

/-- `PhaseId::parse`. -/
def parse (value : String) : Except PhaseIdError StoredPhaseId :=
  match value.toList with
  | [] => .error (.unknownKind value)
  | code :: remainder =>
    match PhaseKind.fromCode code with
    | none => .error (.unknownKind value)
    | some kind => do
      let (ordinal, revote) := splitOnce 'R' remainder
      let number ← parseOrdinal value ordinal
      let revote ← parseAttempt value revote
      .ok { canonical := value, kind, number, revote }

/-- The text of parts, as `compose_with_revote` formats it. -/
def text (kind : PhaseKind) (number : UInt32) (revote : Option UInt32) : String :=
  String.ofList (kind.letter :: ordinalDigits number ++
    match revote with
    | some revote => 'R' :: attemptDigits revote
    | none => [])

/-- `PhaseId::compose_with_revote`. -/
def composeWithRevote (kind : PhaseKind) (number : UInt32) (revote : Option UInt32) :
    Except PhaseIdError StoredPhaseId :=
  let canonical := text kind number revote
  if number = 0 then .error (.zeroOrdinal canonical)
  else if number > maxOrdinal then .error (.ordinalOutOfRange canonical)
  else if revote = some 0 then .error (.zeroRevote canonical)
  else .ok { canonical, kind, number, revote }

/-- `PhaseId::compose`. -/
def compose (kind : PhaseKind) (number : UInt32) : Except PhaseIdError StoredPhaseId :=
  composeWithRevote kind number none

/-- `PhaseId::as_str`. -/
def asStr (phase : StoredPhaseId) : String := phase.canonical

/-- `PhaseId::revote_base`. -/
def revoteBase (phase : StoredPhaseId) : StoredPhaseId :=
  { canonical := text phase.kind phase.number none, kind := phase.kind, number := phase.number, revote := none }

/-- The fields are private: these are the ways to obtain a phase id. -/
inductive Built : StoredPhaseId → Prop where
  | parsed {value : String} {phase : StoredPhaseId} (h : parse value = .ok phase) : Built phase
  | composed {kind : PhaseKind} {number : UInt32} {revote : Option UInt32} {phase : StoredPhaseId}
      (h : composeWithRevote kind number revote = .ok phase) : Built phase
  | base {phase : StoredPhaseId} (h : Built phase) : Built phase.revoteBase

end StoredPhaseId

/-! ## The grammar -/

/-- The digits of an ordinal: two or more, none of them a leading zero but that of a single figure, and
a number from one to the largest 32-bit integer. -/
structure OrdinalDigits (digits : List Char) : Prop where
  numeric : Digits digits
  two : 2 ≤ digits.length
  leading : digits.head? = some '0' → digits.length = 2
  positive : 0 < value digits
  bounded : value digits ≤ 2 ^ 31 - 1

/-- The digits of an attempt: no leading zero, and a number from one that fits 32 bits. -/
structure AttemptDigits (digits : List Char) : Prop where
  numeric : Digits digits
  present : digits ≠ []
  leading : digits.head? ≠ some '0'
  bounded : value digits < 2 ^ 32

/-- `{D|N|T}{ordinal}` with an optional `R{revote}`. -/
inductive CanonicalText : String → Prop where
  | plain (kind : PhaseKind) {ordinal : List Char} (h : OrdinalDigits ordinal) :
      CanonicalText (String.ofList (kind.letter :: ordinal))
  | revote (kind : PhaseKind) {ordinal attempt : List Char} (h : OrdinalDigits ordinal)
      (hattempt : AttemptDigits attempt) :
      CanonicalText (String.ofList (kind.letter :: ordinal ++ 'R' :: attempt))

namespace StoredPhaseId

/-- What `compose_with_revote` asks of the numbers. -/
def Valid (number : UInt32) (revote : Option UInt32) : Prop :=
  number ≠ 0 ∧ number ≤ maxOrdinal ∧ revote ≠ some 0

section Numbers

variable {phaseId : String} {digits : List Char} {number : UInt32}

theorem digits_iff_all : Digits digits ↔ digits.all Char.isDigit = true := List.all_eq_true.symm

theorem parseU32_digits (hdigits : Digits digits) (hne : digits ≠ []) :
    parseU32 digits = if value digits < 2 ^ 32 then some (UInt32.ofNat (value digits)) else none := by
  unfold parseU32
  rw [parseUnsigned_digits hdigits hne (by decide)]
  split <;> rfl

theorem byteLen_digits (hdigits : Digits digits) : byteLen digits = digits.length := by
  unfold byteLen
  induction digits with
  | nil => rfl
  | cons c cs ih =>
    obtain ⟨hc, hcs⟩ := digits_cons.1 hdigits
    have hsize : c.utf8Size = 1 := by
      obtain ⟨d, hd, rfl⟩ := exists_digitChar hc
      interval_cases d <;> rfl
    rw [List.map_cons, List.sum_cons, ih hcs, hsize, List.length_cons, Nat.add_comm]

theorem toNat_pos_iff : 0 < number.toNat ↔ number ≠ 0 := by
  rw [Nat.pos_iff_ne_zero]
  exact not_congr ⟨fun h => UInt32.toNat_inj.1 h, fun h => h ▸ rfl⟩

theorem le_maxOrdinal_iff : number ≤ maxOrdinal ↔ number.toNat ≤ 2 ^ 31 - 1 := UInt32.le_iff_toNat_le

theorem ofNat_value_ordinalDigits : UInt32.ofNat (value (ordinalDigits number)) = number := by
  unfold ordinalDigits
  rw [value_padded]
  exact UInt32.ofNat_toNat

theorem ofNat_value_attemptDigits : UInt32.ofNat (value (attemptDigits number)) = number := by
  unfold attemptDigits
  rw [value_toDigits]
  exact UInt32.ofNat_toNat

/-- The grammar's ordinals are the printed ones. -/
theorem ordinal_iff : OrdinalDigits digits ↔
    ∃ number : UInt32, (number ≠ 0 ∧ number ≤ maxOrdinal) ∧ ordinalDigits number = digits := by
  constructor
  · intro h
    have hsmall : value digits < 2 ^ 32 := by
      have := h.bounded
      omega
    have htoNat : (UInt32.ofNat (value digits)).toNat = value digits := UInt32.toNat_ofNat_of_lt' hsmall
    refine ⟨UInt32.ofNat (value digits), ⟨toNat_pos_iff.1 ?_, le_maxOrdinal_iff.2 ?_⟩, ?_⟩
    · rw [htoNat]
      exact h.positive
    · rw [htoNat]
      exact h.bounded
    · unfold ordinalDigits
      rw [htoNat]
      exact padded_value h.numeric (List.ne_nil_of_length_pos (by have := h.two; omega)) h.two h.leading
  · rintro ⟨number, ⟨hpos, hmax⟩, rfl⟩
    have hvalue : value (ordinalDigits number) = number.toNat := value_padded 2 number.toNat
    refine ⟨digits_padded 2 number.toNat, ?_, head_padded (toNat_pos_iff.2 hpos), ?_, ?_⟩
    · unfold ordinalDigits
      rw [length_padded]
      exact Nat.le_max_left ..
    · rw [hvalue]
      exact toNat_pos_iff.2 hpos
    · rw [hvalue]
      exact le_maxOrdinal_iff.1 hmax

/-- The grammar's attempts are the printed ones. -/
theorem attempt_iff : AttemptDigits digits ↔
    ∃ attempt : UInt32, attempt ≠ 0 ∧ attemptDigits attempt = digits := by
  constructor
  · intro h
    have htoNat : (UInt32.ofNat (value digits)).toNat = value digits := UInt32.toNat_ofNat_of_lt' h.bounded
    refine ⟨UInt32.ofNat (value digits), toNat_pos_iff.1 ?_, ?_⟩
    · rw [htoNat]
      obtain ⟨c, cs, rfl⟩ := List.exists_cons_of_ne_nil h.present
      exact value_pos h.numeric fun hzero => h.leading (by rw [hzero]; rfl)
    · unfold attemptDigits
      rw [htoNat]
      exact toDigits_value h.numeric h.present h.leading
  · rintro ⟨attempt, hpos, rfl⟩
    refine ⟨digits_toDigits _, Nat.toDigits_ne_nil, head_toDigits (toNat_pos_iff.2 hpos), ?_⟩
    unfold attemptDigits
    rw [value_toDigits]
    exact attempt.toNat_lt

/-- `parse_ordinal` reads the printed ordinals only. -/
theorem parseOrdinal_ok_iff : parseOrdinal phaseId digits = .ok number ↔
    (number ≠ 0 ∧ number ≤ maxOrdinal) ∧ ordinalDigits number = digits := by
  unfold parseOrdinal
  rw [ite_error_eq_ok, ite_error_eq_ok, ite_error_eq_ok]
  constructor
  · rintro ⟨-, -, -, h⟩
    cases hread : parseU32 digits with
    | none => simp [hread] at h
    | some read =>
      simp only [hread, ite_error_eq_ok] at h
      obtain ⟨hpos, hmax, hcanonical, hread⟩ := h
      cases hread
      exact ⟨⟨hpos, UInt32.not_lt.1 hmax⟩, not_not.1 hcanonical⟩
  · rintro ⟨⟨hpos, hmax⟩, rfl⟩
    have hdigits : Digits (ordinalDigits number) := digits_padded 2 number.toNat
    have hne : ordinalDigits number ≠ [] := padded_ne_nil 2 number.toNat
    have hbytes : ¬ byteLen (ordinalDigits number) < 2 := by
      rw [byteLen_digits hdigits]
      unfold ordinalDigits
      rw [length_padded]
      omega
    have hvalue : value (ordinalDigits number) < 2 ^ 32 := by
      unfold ordinalDigits
      rw [value_padded]
      exact number.toNat_lt
    refine ⟨by simpa using hne, hbytes, by simpa using digits_iff_all.1 hdigits, ?_⟩
    rw [parseU32_digits hdigits hne, if_pos hvalue, ofNat_value_ordinalDigits]
    simp only [ite_error_eq_ok]
    exact ⟨hpos, UInt32.not_lt.2 hmax, not_not.2 rfl, trivial⟩

/-- `parse_revote` reads the printed attempts only. -/
theorem parseRevote_ok_iff : parseRevote phaseId digits = .ok number ↔
    number ≠ 0 ∧ attemptDigits number = digits := by
  unfold parseRevote
  rw [ite_error_eq_ok, ite_error_eq_ok]
  constructor
  · rintro ⟨-, -, h⟩
    cases hread : parseU32 digits with
    | none => simp [hread] at h
    | some read =>
      simp only [hread, ite_error_eq_ok] at h
      obtain ⟨hpos, hcanonical, hread⟩ := h
      cases hread
      exact ⟨hpos, not_not.1 hcanonical⟩
  · rintro ⟨hpos, rfl⟩
    have hdigits : Digits (attemptDigits number) := digits_toDigits number.toNat
    have hne : attemptDigits number ≠ [] := Nat.toDigits_ne_nil
    have hvalue : value (attemptDigits number) < 2 ^ 32 := by
      unfold attemptDigits
      rw [value_toDigits]
      exact number.toNat_lt
    refine ⟨by simpa using hne, by simpa using digits_iff_all.1 hdigits, ?_⟩
    rw [parseU32_digits hdigits hne, if_pos hvalue, ofNat_value_attemptDigits]
    simp only [ite_error_eq_ok]
    exact ⟨hpos, not_not.2 rfl, trivial⟩

end Numbers
/-! ## Texts and parts -/

section Texts

variable {value : String} {phase : StoredPhaseId} {kind kind' : PhaseKind} {number number' : UInt32}
  {revote revote' : Option UInt32} {separator : Char}

theorem splitOnce_none {cs : List Char} (h : separator ∉ cs) : splitOnce separator cs = (cs, none) := by
  have hall : ∀ c ∈ cs, decide (c ≠ separator) = true := fun c hc =>
    decide_eq_true fun hsame => h (hsame ▸ hc)
  have hspan : (cs ++ []).span (· ≠ separator) = (cs, []) := by
    rw [List.span_eq_takeWhile_dropWhile, List.takeWhile_append_of_pos hall,
      List.dropWhile_append_of_pos hall]
    simp
  rw [List.append_nil] at hspan
  unfold splitOnce
  rw [hspan]

theorem splitOnce_append {before after : List Char} (h : separator ∉ before) :
    splitOnce separator (before ++ separator :: after) = (before, some after) := by
  have hbefore : ∀ c ∈ before, decide (c ≠ separator) = true := fun c hc =>
    decide_eq_true fun hsame => h (hsame ▸ hc)
  have hspan : (before ++ separator :: after).span (· ≠ separator) = (before, separator :: after) := by
    rw [List.span_eq_takeWhile_dropWhile, List.takeWhile_append_of_pos hbefore,
      List.dropWhile_append_of_pos hbefore]
    simp
  unfold splitOnce
  rw [hspan]

theorem letter_ne_R : 'R' ∉ ordinalDigits number := fun hmem =>
  absurd (digits_padded 2 number.toNat 'R' hmem) (by decide)

/-- The part of a text after the ordinal. -/
def revoteText : Option UInt32 → List Char
  | some revote => 'R' :: attemptDigits revote
  | none => []

theorem text_eq (kind : PhaseKind) (number : UInt32) (revote : Option UInt32) :
    text kind number revote = String.ofList (kind.letter :: (ordinalDigits number ++ revoteText revote)) := by
  cases revote <;> rfl

theorem splitOnce_text (number : UInt32) (revote : Option UInt32) :
    splitOnce 'R' (ordinalDigits number ++ revoteText revote) =
      (ordinalDigits number, revote.map attemptDigits) := by
  cases revote with
  | none =>
    rw [revoteText, List.append_nil]
    exact splitOnce_none letter_ne_R
  | some attempt => exact splitOnce_append letter_ne_R

theorem splitOnce_join (separator : Char) (cs : List Char) : cs = (splitOnce separator cs).1 ++
    ((splitOnce separator cs).2.map (separator :: ·)).getD [] := by
  by_cases hmem : separator ∈ cs
  · obtain ⟨before, after, rfl, hbefore⟩ := List.eq_append_cons_of_mem hmem
    rw [splitOnce_append hbefore]
    rfl
  · rw [splitOnce_none hmem]
    exact (List.append_nil cs).symm

theorem fromCode_letter (kind : PhaseKind) : PhaseKind.fromCode kind.letter = some kind := by
  cases kind <;> rfl

theorem fromCode_eq_some {code : Char} (h : PhaseKind.fromCode code = some kind) : code = kind.letter := by
  unfold PhaseKind.fromCode at h
  split at h
  · cases h
    assumption
  · split at h
    · cases h
      assumption
    · split at h
      · cases h
        assumption
      · cases h

theorem letter_injective (h : kind.letter = kind'.letter) : kind = kind' := by
  have hsame := fromCode_letter kind
  rw [h, fromCode_letter] at hsame
  exact (Option.some.inj hsame).symm

theorem ordinalDigits_injective (h : ordinalDigits number = ordinalDigits number') : number = number' := by
  have hvalue := congrArg (fun digits => UInt32.ofNat (Decimal.value digits)) h
  rwa [ofNat_value_ordinalDigits, ofNat_value_ordinalDigits] at hvalue

theorem attemptDigits_injective (h : attemptDigits number = attemptDigits number') : number = number' := by
  have hvalue := congrArg (fun digits => UInt32.ofNat (Decimal.value digits)) h
  rwa [ofNat_value_attemptDigits, ofNat_value_attemptDigits] at hvalue

/-- The parts can be read off a text. -/
theorem text_injective (h : text kind number revote = text kind' number' revote') :
    kind = kind' ∧ number = number' ∧ revote = revote' := by
  rw [text_eq, text_eq] at h
  obtain ⟨hkind, hrest⟩ := List.cons.inj (String.ofList_injective h)
  have hsplit := congrArg (splitOnce 'R') hrest
  rw [splitOnce_text, splitOnce_text] at hsplit
  obtain ⟨hnumber, hrevote⟩ := Prod.mk.inj hsplit
  exact ⟨letter_injective hkind, ordinalDigits_injective hnumber,
    Option.map_injective (fun _ _ hsame => attemptDigits_injective hsame) hrevote⟩

theorem composeWithRevote_ok_iff : composeWithRevote kind number revote = .ok phase ↔
    Valid number revote ∧ phase = ⟨text kind number revote, kind, number, revote⟩ := by
  unfold composeWithRevote Valid
  simp only [ite_error_eq_ok, Except.ok.injEq, and_assoc]
  rw [show ¬ number > maxOrdinal ↔ number ≤ maxOrdinal from UInt32.not_lt]
  exact and_congr_right fun _ => and_congr_right fun _ => and_congr_right fun _ => eq_comm

theorem parseAttempt_ok_iff {digits : Option (List Char)} :
    parseAttempt value digits = .ok revote ↔ revote ≠ some 0 ∧ revote.map attemptDigits = digits := by
  cases digits with
  | none =>
    unfold parseAttempt
    cases revote <;> simp
  | some digits =>
    have hmap : parseAttempt value (some digits) = parseRevote value digits >>= fun attempt => .ok (some attempt) := by
      show (parseRevote value digits).map some = _
      cases parseRevote value digits <;> rfl
    rw [hmap, bind_eq_ok]
    constructor
    · rintro ⟨attempt, hread, hsome⟩
      obtain ⟨hpos, hprinted⟩ := parseRevote_ok_iff.1 hread
      cases hsome
      exact ⟨fun hzero => hpos (Option.some.inj hzero), congrArg some hprinted⟩
    · rintro ⟨hpos, hdigits⟩
      obtain ⟨attempt, rfl, hprinted⟩ := Option.map_eq_some_iff.1 hdigits
      exact ⟨attempt, parseRevote_ok_iff.2 ⟨fun hzero => hpos (congrArg some hzero), hprinted⟩, rfl⟩

/-- What the parser builds, and from which text. -/
theorem parse_ok_iff : parse value = .ok phase ↔
    Valid phase.number phase.revote ∧ value = text phase.kind phase.number phase.revote ∧
      phase.canonical = value := by
  constructor
  · unfold parse
    intro h
    cases hvalue : value.toList with
    | nil => simp [hvalue] at h
    | cons code remainder =>
      simp only [hvalue] at h
      cases hkind : PhaseKind.fromCode code with
      | none => simp [hkind] at h
      | some kind =>
        simp only [hkind] at h
        obtain ⟨number, hnumber, h⟩ := bind_eq_ok.1 h
        obtain ⟨revote, hrevote, h⟩ := bind_eq_ok.1 h
        cases h
        obtain ⟨⟨hpos, hmax⟩, hordinal⟩ := parseOrdinal_ok_iff.1 hnumber
        obtain ⟨hattempt, hdigits⟩ := parseAttempt_ok_iff.1 hrevote
        refine ⟨⟨hpos, hmax, hattempt⟩, ?_, rfl⟩
        rw [text_eq, ← String.ofList_toList (s := value), hvalue, fromCode_eq_some hkind,
          splitOnce_join 'R' remainder, ← hordinal, ← hdigits]
        cases revote <;> rfl
  · rintro ⟨⟨hpos, hmax, hattempt⟩, hvalue, hcanonical⟩
    have htext : value.toList =
        phase.kind.letter :: (ordinalDigits phase.number ++ revoteText phase.revote) := by
      rw [hvalue, text_eq, String.toList_ofList]
    unfold parse
    simp only [htext, fromCode_letter, splitOnce_text]
    refine bind_eq_ok.2 ⟨_, parseOrdinal_ok_iff.2 ⟨⟨hpos, hmax⟩, rfl⟩, ?_⟩
    refine bind_eq_ok.2 ⟨_, parseAttempt_ok_iff.2 ⟨hattempt, rfl⟩, ?_⟩
    rw [← hcanonical]

/-! ## Parsing and composing -/

theorem canonicalText_iff : CanonicalText value ↔
    ∃ kind number revote, Valid number revote ∧ value = text kind number revote := by
  constructor
  · rintro (⟨kind, hordinal⟩ | ⟨kind, hordinal, hattempt⟩)
    · obtain ⟨number, ⟨hpos, hmax⟩, rfl⟩ := ordinal_iff.1 hordinal
      exact ⟨kind, number, none, ⟨hpos, hmax, by simp⟩, by rw [text_eq, revoteText, List.append_nil]⟩
    · obtain ⟨number, ⟨hpos, hmax⟩, rfl⟩ := ordinal_iff.1 hordinal
      obtain ⟨attempt, hne, rfl⟩ := attempt_iff.1 hattempt
      exact ⟨kind, number, some attempt, ⟨hpos, hmax, by simpa using hne⟩, rfl⟩
  · rintro ⟨kind, number, revote, ⟨hpos, hmax, hattempt⟩, rfl⟩
    have hordinal := ordinal_iff.2 ⟨number, ⟨hpos, hmax⟩, rfl⟩
    cases revote with
    | none =>
      rw [text_eq, revoteText, List.append_nil]
      exact .plain kind hordinal
    | some attempt =>
      exact .revote kind hordinal (attempt_iff.2 ⟨attempt, fun hzero => hattempt (congrArg some hzero), rfl⟩)

/-- However a phase id came about, its text is that of its parts, and they are in range. -/
theorem Built.valid (h : Built phase) : Valid phase.number phase.revote ∧
    phase.canonical = text phase.kind phase.number phase.revote := by
  induction h with
  | parsed h =>
    obtain ⟨hvalid, hvalue, hcanonical⟩ := parse_ok_iff.1 h
    exact ⟨hvalid, hcanonical.trans hvalue⟩
  | composed h =>
    obtain ⟨hvalid, rfl⟩ := composeWithRevote_ok_iff.1 h
    exact ⟨hvalid, rfl⟩
  | base h ih => exact ⟨⟨ih.1.1, ih.1.2.1, nofun⟩, rfl⟩

theorem phaseId_text : (∀ value, (∃ phase, parse value = .ok phase) ↔ CanonicalText value) ∧
    (∀ value phase, parse value = .ok phase → phase.asStr = value ∧
      text phase.kind phase.number phase.revote = value) ∧
    (∀ phase, Built phase → parse phase.asStr = .ok phase ∧
      composeWithRevote phase.kind phase.number phase.revote = .ok phase) ∧
    (∀ kind number revote kind' number' revote', text kind number revote = text kind' number' revote' →
        (kind, number, revote) = (kind', number', revote')) := by
  refine ⟨fun value => ?_, fun value phase h => ?_, fun phase h => ?_, ?_⟩
  · rw [canonicalText_iff]
    constructor
    · rintro ⟨phase, h⟩
      obtain ⟨hvalid, hvalue, -⟩ := parse_ok_iff.1 h
      exact ⟨_, _, _, hvalid, hvalue⟩
    · rintro ⟨kind, number, revote, hvalid, hvalue⟩
      exact ⟨⟨value, kind, number, revote⟩, parse_ok_iff.2 ⟨hvalid, hvalue, rfl⟩⟩
  · obtain ⟨-, hvalue, hcanonical⟩ := parse_ok_iff.1 h
    exact ⟨hcanonical, hvalue.symm⟩
  · obtain ⟨hvalid, hcanonical⟩ := h.valid
    refine ⟨parse_ok_iff.2 ⟨hvalid, hcanonical, rfl⟩, composeWithRevote_ok_iff.2 ⟨hvalid, ?_⟩⟩
    rw [← hcanonical]
  · intro kind number revote kind' number' revote' h
    obtain ⟨rfl, rfl, rfl⟩ := text_injective h
    rfl

end Texts

end StoredPhaseId

/-! ## Phase ids by their parts -/

namespace PhaseId

open StoredPhaseId

/-- A phase id as it is stored. -/
def stored (phase : PhaseId) : StoredPhaseId where
  canonical := phase.canonical
  kind := phase.kind
  number := UInt32.ofNat phase.number
  revote := phase.revote.map UInt32.ofNat

theorem toList_ordinalText (number : Nat) : (ordinalText number).toList = padded 2 number := by
  unfold ordinalText
  split
  · rename_i hsmall
    rw [String.toList_append, Nat.toString_eq_ofList_toDigits, String.toList_ofList]
    unfold padded
    rw [Nat.toDigits_of_lt_base hsmall]
    simp
  · rename_i hlarge
    have hlength : ¬ (Nat.toDigits 10 number).length ≤ 1 := fun hshort =>
      hlarge ((Nat.length_toDigits_le_iff (by decide) (by decide)).1 hshort)
    rw [Nat.toString_eq_ofList_toDigits, String.toList_ofList]
    unfold padded
    rw [Nat.sub_eq_zero_of_le (by omega)]
    rfl

theorem toNat_number (phase : PhaseId) : (UInt32.ofNat phase.number).toNat = phase.number :=
  UInt32.toNat_ofNat_of_lt' (lt_of_le_of_lt phase.number_le (by decide))

theorem canonical_eq (phase : PhaseId) :
    phase.canonical = text phase.stored.kind phase.stored.number phase.stored.revote := by
  refine String.toList_injective ?_
  have hcode : phase.kind.code.toList = [phase.kind.letter] := by cases phase.kind <;> rfl
  have hdigits : ordinalDigits (UInt32.ofNat phase.number) = padded 2 phase.number := by
    unfold ordinalDigits
    rw [toNat_number]
  rw [text_eq, String.toList_ofList]
  unfold canonical stored
  rw [String.toList_append, String.toList_append, hcode, toList_ordinalText, hdigits]
  cases hrevote : phase.revote with
  | none => simp [revoteText]
  | some attempt =>
    have hattempt : (UInt32.ofNat attempt).toNat = attempt :=
      UInt32.toNat_ofNat_of_lt' (phase.revote_range attempt (by rw [hrevote]; rfl)).2
    simp [revoteText, attemptDigits, hattempt]

/-- The phase ids a program can hold are those whose text is computed from parts in range. -/
theorem built_iff {phase : StoredPhaseId} : Built phase ↔ ∃ parts : PhaseId, parts.stored = phase := by
  constructor
  · intro h
    obtain ⟨⟨hpos, hmax, hattempt⟩, hcanonical⟩ := h.valid
    have hrevote : (phase.revote.map UInt32.toNat).map UInt32.ofNat = phase.revote := by
      cases phase.revote <;> simp
    have hparts : ∃ parts : PhaseId, parts.stored.kind = phase.kind ∧
        parts.stored.number = phase.number ∧ parts.stored.revote = phase.revote := by
      refine ⟨⟨phase.kind, phase.number.toNat, phase.revote.map UInt32.toNat, toNat_pos_iff.2 hpos,
        le_maxOrdinal_iff.1 hmax, fun attempt hmem => ?_⟩, rfl, UInt32.ofNat_toNat, hrevote⟩
      obtain ⟨stored, hstored, rfl⟩ := Option.map_eq_some_iff.1 hmem
      exact ⟨toNat_pos_iff.2 fun hzero => hattempt (hstored.trans (congrArg some hzero)), stored.toNat_lt⟩
    obtain ⟨parts, hkind, hnumber, hrevote⟩ := hparts
    refine ⟨parts, ?_⟩
    have htext : parts.stored.canonical = phase.canonical := by
      rw [hcanonical, ← hkind, ← hnumber, ← hrevote]
      exact parts.canonical_eq
    cases phase
    unfold stored at *
    simp_all
  · rintro ⟨parts, rfl⟩
    have hvalid : Valid parts.stored.number parts.stored.revote := by
      refine ⟨toNat_pos_iff.1 ?_, le_maxOrdinal_iff.2 ?_, fun hzero => ?_⟩
      · exact parts.toNat_number.symm ▸ parts.number_pos
      · exact parts.toNat_number.symm ▸ parts.number_le
      · obtain ⟨attempt, hattempt, hnone⟩ := Option.map_eq_some_iff.1 hzero
        obtain ⟨hpos, hbound⟩ := parts.revote_range attempt hattempt
        have htoNat : (UInt32.ofNat attempt).toNat = attempt := UInt32.toNat_ofNat_of_lt' hbound
        rw [hnone] at htoNat
        exact hpos.ne htoNat
    have hcomposed : StoredPhaseId.composeWithRevote parts.stored.kind parts.stored.number
        parts.stored.revote = .ok parts.stored := by
      refine composeWithRevote_ok_iff.2 ⟨hvalid, ?_⟩
      rw [← parts.canonical_eq]
      rfl
    exact .composed hcomposed

end PhaseId

end Fmarch.Domain
