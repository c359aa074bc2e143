import Mathlib.Data.List.Induction
import Mathlib.Tactic.IntervalCases

/-!
# Decimal text

Unsigned numbers as decimal digits: the value of a run of digits, numbers printed with a least width, and
the checked reading of an integer parser, which takes leading zeros and a plus sign. A text is what the
printer writes of its value exactly if it has no more leading zeros than the width asks for.
-/

namespace Decimal

/-- Only digits. -/
def Digits (cs : List Char) : Prop := ∀ c ∈ cs, c.isDigit = true

/-- The number that digits stand for. -/
def value (cs : List Char) : Nat := Nat.ofDigitChars 10 cs 0

/-- A number with zeros in front up to a width. -/
def padded (width n : Nat) : List Char :=
  List.replicate (width - (Nat.toDigits 10 n).length) '0' ++ Nat.toDigits 10 n

/-- Reading on, and stopping at the bound. -/
def accumulate (bound : Nat) : Nat → List Char → Option Nat
  | n, [] => some n
  | n, c :: cs =>
    if c.isDigit then
      let next := 10 * n + (c.toNat - '0'.toNat)
      if next < bound then accumulate bound next cs else none
    else none

/-- An unsigned integer below a bound, perhaps with a plus sign. -/
def parseUnsigned (bound : Nat) : List Char → Option Nat
  | [] => none
  | ['+'] => none
  | '+' :: cs => accumulate bound 0 cs
  | cs => accumulate bound 0 cs

/-! ## Digits -/

variable {c : Char} {cs : List Char} {n : Nat}

theorem digits_cons : Digits (c :: cs) ↔ c.isDigit = true ∧ Digits cs :=
  List.forall_mem_cons

theorem digits_append {ds : List Char} : Digits (cs ++ ds) ↔ Digits cs ∧ Digits ds :=
  List.forall_mem_append

theorem digits_toDigits (n : Nat) : Digits (Nat.toDigits 10 n) := fun _ hc =>
  Nat.isDigit_of_mem_toDigits (by decide) (by decide) hc

theorem digits_replicate (k : Nat) : Digits (List.replicate k '0') := fun c hc => by
  rw [List.eq_of_mem_replicate hc]
  rfl

theorem digits_padded (width n : Nat) : Digits (padded width n) :=
  digits_append.2 ⟨digits_replicate _, digits_toDigits n⟩

theorem exists_digitChar (h : c.isDigit = true) : ∃ d < 10, c = Nat.digitChar d := by
  obtain ⟨hlow, hhigh⟩ := Char.isDigit_iff_toNat.1 h
  have hlow' : 48 ≤ c.toNat := hlow
  have hhigh' : c.toNat ≤ 57 := hhigh
  refine ⟨c.toNat - 48, by omega, ?_⟩
  rw [← Char.ofNat_toNat c]
  interval_cases hn : c.toNat <;> decide

/-! ## Values -/

theorem value_nil : value [] = 0 := Nat.ofDigitChars_nil

theorem value_snoc (cs : List Char) {d : Nat} (hd : d < 10) :
    value (cs ++ [Nat.digitChar d]) = 10 * value cs + d := by
  unfold value
  rw [Nat.ofDigitChars_append, Nat.ofDigitChars_cons_digitChar_of_lt_ten hd, Nat.ofDigitChars_nil]

theorem value_toDigits (n : Nat) : value (Nat.toDigits 10 n) = n := Nat.ofDigitChars_ten_toDigits

theorem value_zeros (k : Nat) (cs : List Char) : value (List.replicate k '0' ++ cs) = value cs := by
  unfold value
  rw [Nat.ofDigitChars_append, Nat.ofDigitChars_replicate_zero, Nat.mul_zero]

theorem value_padded (width n : Nat) : value (padded width n) = n :=
  (value_zeros _ _).trans (value_toDigits n)

theorem value_pos (hdigits : Digits (c :: cs)) (hc : c ≠ '0') : 0 < value (c :: cs) := by
  obtain ⟨d, hd, rfl⟩ := exists_digitChar (digits_cons.1 hdigits).1
  unfold value
  rw [Nat.ofDigitChars_cons_digitChar_of_lt_ten hd, Nat.ofDigitChars_eq_ofDigitChars_zero, Nat.mul_zero,
    Nat.zero_add]
  have hpos : 0 < d := Nat.pos_of_ne_zero fun hzero => hc (by rw [hzero]; rfl)
  have hpow : 0 < 10 ^ cs.length := Nat.pow_pos (by decide)
  have hmul := Nat.mul_pos hpow hpos
  omega

/-- Digits that do not begin with a zero are what is printed of their value. -/
theorem toDigits_value (hdigits : Digits cs) (hne : cs ≠ []) (hlead : cs.head? ≠ some '0') : Nat.toDigits 10 (value cs) = cs := by
  induction cs using List.reverseRecOn with
  | nil => exact absurd rfl hne
  | append_singleton cs c ih =>
    obtain ⟨hcs, hc⟩ := digits_append.1 hdigits
    obtain ⟨d, hd, rfl⟩ := exists_digitChar (digits_cons.1 hc).1
    rw [value_snoc cs hd]
    cases cs with
    | nil =>
      rw [value_nil, Nat.mul_zero, Nat.zero_add, Nat.toDigits_of_lt_base hd]
      rfl
    | cons first rest =>
      have hfirst : first ≠ '0' := fun hzero => hlead (by rw [hzero]; rfl)
      have hprinted := ih hcs (List.cons_ne_nil _ _) (fun hzero => hfirst (Option.some.inj hzero))
      rw [← Nat.toDigits_append_toDigits (by decide) (value_pos hcs hfirst) hd, hprinted,
        Nat.toDigits_of_lt_base hd]

theorem zeros_split (cs : List Char) : ∃ k ds, cs = List.replicate k '0' ++ ds ∧ ds.head? ≠ some '0' := by
  induction cs with
  | nil => exact ⟨0, [], rfl, by simp⟩
  | cons c cs ih =>
    by_cases hc : c = '0'
    · obtain ⟨k, ds, rfl, hds⟩ := ih
      exact ⟨k + 1, ds, by rw [hc, List.replicate_succ, List.cons_append], hds⟩
    · exact ⟨0, c :: cs, rfl, fun hzero => hc (Option.some.inj hzero)⟩

/-- Digits that reach the width, and begin with a zero only if they just reach it, are what is printed of
their value. -/
theorem padded_value {width : Nat} (hdigits : Digits cs) (hne : cs ≠ [])
    (hwidth : width ≤ cs.length) (hlead : cs.head? = some '0' → cs.length = width) :
    padded width (value cs) = cs := by
  obtain ⟨k, ds, rfl, hds⟩ := zeros_split cs
  have hlength : (List.replicate k '0' ++ ds).length = k + ds.length := by simp
  have hexact : 0 < k → k + ds.length = width := by
    intro hk
    rw [← hlength]
    refine hlead ?_
    cases k with
    | zero => omega
    | succ k => rfl
  rw [value_zeros]
  unfold padded
  by_cases hempty : ds = []
  · subst hempty
    have hk : 0 < k := Nat.pos_of_ne_zero fun hzero => hne (by rw [hzero]; rfl)
    have hwidth' := hexact hk
    obtain ⟨j, rfl⟩ := Nat.exists_eq_succ_of_ne_zero hk.ne'
    have hprinted : Nat.toDigits 10 (value []) = ['0'] := by rw [value_nil, Nat.toDigits_zero]
    rw [hprinted, ← hwidth', List.append_nil, List.replicate_succ']
    rfl
  · rw [toDigits_value (digits_append.1 hdigits).2 hempty hds]
    have hzeros : width - ds.length = k := by
      rw [hlength] at hwidth
      by_cases hk : 0 < k
      · have := hexact hk
        omega
      · omega
    rw [hzeros]

theorem length_padded (width n : Nat) : (padded width n).length = max width (Nat.toDigits 10 n).length := by
  unfold padded
  rw [List.length_append, List.length_replicate]
  omega

theorem padded_ne_nil (width n : Nat) : padded width n ≠ [] := by
  unfold padded
  exact fun hnil => Nat.toDigits_ne_nil (List.append_eq_nil_iff.1 hnil).2

/-- A positive number is printed without a leading zero. -/
theorem head_toDigits (hn : 0 < n) : (Nat.toDigits 10 n).head? ≠ some '0' := by
  induction n using Nat.strongRecOn with
  | ind n ih =>
    by_cases hsmall : n < 10
    · rw [Nat.toDigits_of_lt_base hsmall]
      intro hzero
      have := Nat.digitChar_eq_zero.1 (Option.some.inj hzero)
      omega
    · have hfirst := ih (n / 10) (by omega) (by omega)
      rw [Nat.toDigits_of_base_le (by decide) (by omega)]
      cases hdigits : Nat.toDigits 10 (n / 10) with
      | nil => exact absurd hdigits Nat.toDigits_ne_nil
      | cons c cs => rwa [hdigits] at hfirst

theorem head_padded {width : Nat} (hn : 0 < n) (hzero : (padded width n).head? = some '0') :
    (padded width n).length = width := by
  rw [length_padded]
  by_cases hshort : (Nat.toDigits 10 n).length < width
  · omega
  · refine absurd ?_ (head_toDigits hn)
    unfold padded at hzero
    rwa [Nat.sub_eq_zero_of_le (not_lt.1 hshort), List.replicate_zero, List.nil_append] at hzero

/-! ## The parser -/

theorem accumulate_digits {bound : Nat} (hdigits : Digits cs) (hn : n < bound) : accumulate bound n cs =
      if Nat.ofDigitChars 10 cs n < bound then some (Nat.ofDigitChars 10 cs n) else none := by
  induction cs generalizing n with
  | nil =>
    rw [Nat.ofDigitChars_nil, if_pos hn]
    rfl
  | cons c cs ih =>
    obtain ⟨hc, hcs⟩ := digits_cons.1 hdigits
    rw [Nat.ofDigitChars_cons]
    simp only [accumulate, hc, if_true]
    by_cases hnext : 10 * n + (c.toNat - '0'.toNat) < bound
    · rw [if_pos hnext, ih hcs hnext]
    · -- The value only grows, so it stays out of bounds.
      have hgrows : 10 * n + (c.toNat - '0'.toNat) ≤
          Nat.ofDigitChars 10 cs (10 * n + (c.toNat - '0'.toNat)) := by
        rw [Nat.ofDigitChars_eq_ofDigitChars_zero]
        have hpow : 1 ≤ 10 ^ cs.length := Nat.one_le_pow _ _ (by decide)
        have hmul := Nat.mul_le_mul_right (10 * n + (c.toNat - '0'.toNat)) hpow
        omega
      rw [if_neg hnext, if_neg (by omega)]

/-- Digits are read as their value if it is below the bound. -/
theorem parseUnsigned_digits {bound : Nat} (hdigits : Digits cs) (hne : cs ≠ [])
    (hbound : 0 < bound) : parseUnsigned bound cs = if value cs < bound then some (value cs) else none := by
  cases cs with
  | nil => exact absurd rfl hne
  | cons c cs =>
    have hplus : c ≠ '+' := by
      rintro rfl
      exact absurd (digits_cons.1 hdigits).1 (by decide)
    have hparse : parseUnsigned bound (c :: cs) = accumulate bound 0 (c :: cs) := by
      unfold parseUnsigned
      split <;> simp_all
    rw [hparse, accumulate_digits hdigits hbound]
    rfl

end Decimal
