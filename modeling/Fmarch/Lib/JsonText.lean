import Mathlib.Logic.Function.Basic

/-!
# Compact JSON text

The text a JSON writer makes of strings, numbers, truth values and arrays, without any space. Each can be
read off the front of a longer text in one way only, so two values with the same text are the same.
-/

namespace JsonText

/-- One character of a string. -/
def escape (c : Char) : List Char :=
  if c = '"' then ['\\', '"']
  else if c = '\\' then ['\\', '\\']
  else if c = '\x08' then ['\\', 'b']
  else if c = '\x0c' then ['\\', 'f']
  else if c = '\n' then ['\\', 'n']
  else if c = '\r' then ['\\', 'r']
  else if c = '\t' then ['\\', 't']
  else if c.toNat < 32 then ['\\', 'u', '0', '0', (c.toNat / 16).digitChar, (c.toNat % 16).digitChar]
  else [c]

/-- A string. -/
def quoted (text : String) : List Char := '"' :: text.toList.flatMap escape ++ ['"']

/-- A number without a sign. -/
def number (n : Nat) : List Char := Nat.toDigits 10 n

/-- A truth value. -/
def boolean (b : Bool) : List Char := if b then "true".toList else "false".toList

/-- An array. -/
def array {α : Type} (write : α → List Char) : List α → List Char
  | [] => ['[', ']']
  | x :: xs => '[' :: write x ++ xs.flatMap (fun y => ',' :: write y) ++ [']']

/-! ## Strings -/

/-- The characters that are not written as themselves. -/
def special : List Char := '"' :: '\\' :: (List.range 32).map Char.ofNat

theorem escape_special : ∀ c ∈ special, ∀ d ∈ special, escape c <+: escape d → c = d := by
  have hall : special.all (fun c => special.all fun d =>
      !(escape c).isPrefixOf (escape d) || c == d) = true := by
    decide +kernel
  intro c hc d hd hprefix
  have hpair := List.all_eq_true.1 (List.all_eq_true.1 hall c hc) d hd
  rw [List.isPrefixOf_iff_prefix.2 hprefix] at hpair
  simpa using hpair

theorem escape_head : ∀ c ∈ special, (escape c).head? = some '\\' := by
  have hall : special.all (fun c => (escape c).head? == some '\\') = true := by
    decide +kernel
  intro c hc
  exact eq_of_beq (List.all_eq_true.1 hall c hc)

variable {c : Char} {rest rest' : List Char}

theorem escape_plain (h : c ∉ special) : escape c = [c] := by
  simp only [special, List.mem_cons, List.mem_map, List.mem_range, not_or, not_exists, not_and] at h
  obtain ⟨hquote, hbackslash, hcontrol⟩ := h
  have hlow : ¬ c.toNat < 32 := fun hlt => hcontrol c.toNat hlt (Char.ofNat_toNat c)
  have hne : ∀ d : Char, d.toNat < 32 → c ≠ d := by
    rintro d hd rfl
    exact hlow hd
  unfold escape
  rw [if_neg hquote, if_neg hbackslash, if_neg (hne _ (by decide)), if_neg (hne _ (by decide)),
    if_neg (hne _ (by decide)), if_neg (hne _ (by decide)), if_neg (hne _ (by decide)), if_neg hlow]

theorem escape_ne_nil (c : Char) : escape c ≠ [] := by
  by_cases hc : c ∈ special
  · have hhead := escape_head c hc
    rintro hnil
    rw [hnil] at hhead
    cases hhead
  · rw [escape_plain hc]
    exact List.cons_ne_nil _ _

theorem head_escape (c : Char) (rest : List Char) : (escape c ++ rest).head? = (escape c).head? := by
  cases hescape : escape c with
  | nil => exact absurd hescape (escape_ne_nil c)
  | cons => rfl

theorem escape_kind {d : Char} (h : escape c ++ rest = escape d ++ rest') (hc : c ∈ special) : d ∈ special := by
  by_contra hd
  have hhead := congrArg List.head? h
  rw [head_escape, escape_head c hc, escape_plain hd] at hhead
  obtain rfl : '\\' = d := Option.some.inj hhead
  exact hd (by decide)

theorem escape_cancel {d : Char} (h : escape c ++ rest = escape d ++ rest') : c = d ∧ rest = rest' := by
  have hsame : c = d := by
    by_cases hc : c ∈ special
    · have hd := escape_kind h hc
      rcases List.prefix_or_prefix_of_prefix (List.prefix_append (escape c) rest)
        (h ▸ List.prefix_append (escape d) rest') with hprefix | hprefix
      · exact escape_special c hc d hd hprefix
      · exact (escape_special d hd c hc hprefix).symm
    · have hd : d ∉ special := fun hd => hc (escape_kind h.symm hd)
      rw [escape_plain hc, escape_plain hd] at h
      exact (List.cons.inj h).1
  subst hsame
  exact ⟨rfl, List.append_cancel_left h⟩

/-- The quotation mark that ends a string begins no escape. -/
theorem escape_ne_quote : escape c ++ rest ≠ '"' :: rest' := by
  intro h
  have hhead := congrArg List.head? h
  rw [head_escape] at hhead
  by_cases hc : c ∈ special
  · rw [escape_head c hc, List.head?_cons] at hhead
    cases hhead
  · rw [escape_plain hc] at hhead
    obtain rfl : c = '"' := Option.some.inj hhead
    exact hc (by decide)

theorem escapes_cancel {xs ys : List Char}
    (h : xs.flatMap escape ++ '"' :: rest = ys.flatMap escape ++ '"' :: rest') : xs = ys ∧ rest = rest' := by
  induction xs generalizing ys with
  | nil =>
    cases ys with
    | nil => exact ⟨rfl, (List.cons.inj h).2⟩
    | cons y ys =>
      rw [List.flatMap_cons, List.append_assoc] at h
      exact absurd h.symm escape_ne_quote
  | cons x xs ih =>
    rw [List.flatMap_cons, List.append_assoc] at h
    cases ys with
    | nil => exact absurd h escape_ne_quote
    | cons y ys =>
      rw [List.flatMap_cons, List.append_assoc] at h
      obtain ⟨rfl, htail⟩ := escape_cancel h
      obtain ⟨rfl, rfl⟩ := ih htail
      exact ⟨rfl, rfl⟩

theorem quoted_cancel {text text' : String} (h : quoted text ++ rest = quoted text' ++ rest') : text = text' ∧ rest = rest' := by
  simp only [quoted, List.cons_append, List.append_assoc, List.nil_append] at h
  obtain ⟨htext, hrest⟩ := escapes_cancel (List.cons.inj h).2
  exact ⟨String.toList_injective htext, hrest⟩

/-! ## Numbers and truth values -/

/-- A text that cannot go on a number. -/
def Ends (text : List Char) : Prop := ∀ c ∈ text.head?, c.isDigit = false

theorem digits_cancel {xs ys : List Char} (hxs : ∀ c ∈ xs, c.isDigit = true)
    (hys : ∀ c ∈ ys, c.isDigit = true) (hrest : Ends rest) (hrest' : Ends rest')
    (h : xs ++ rest = ys ++ rest') : xs = ys ∧ rest = rest' := by
  induction xs generalizing ys with
  | nil =>
    cases ys with
    | nil => exact ⟨rfl, h⟩
    | cons y ys =>
      have hy := hys y List.mem_cons_self
      rw [hrest y (by rw [show rest = _ from h]; rfl)] at hy
      cases hy
  | cons x xs ih =>
    cases ys with
    | nil =>
      have hx := hxs x List.mem_cons_self
      rw [hrest' x (by rw [show rest' = _ from h.symm]; rfl)] at hx
      cases hx
    | cons y ys =>
      obtain ⟨rfl, htail⟩ := List.cons.inj h
      obtain ⟨rfl, hsame⟩ := ih (fun c hc => hxs c (List.mem_cons_of_mem _ hc))
        (fun c hc => hys c (List.mem_cons_of_mem _ hc)) htail
      exact ⟨rfl, hsame⟩

theorem number_cancel {n m : Nat} (hrest : Ends rest) (hrest' : Ends rest')
    (h : number n ++ rest = number m ++ rest') : n = m ∧ rest = rest' := by
  have hdigits : ∀ k, ∀ c ∈ number k, c.isDigit = true := fun k c hc =>
    Nat.isDigit_of_mem_toDigits (by decide) (by decide) hc
  obtain ⟨hsame, hrests⟩ := digits_cancel (hdigits n) (hdigits m) hrest hrest' h
  have hvalue := congrArg (Nat.ofDigitChars 10 · 0) hsame
  simp only [number, Nat.ofDigitChars_ten_toDigits] at hvalue
  exact ⟨hvalue, hrests⟩

theorem boolean_cancel {a b : Bool} (h : boolean a ++ rest = boolean b ++ rest') : a = b ∧ rest = rest' := by
  cases a <;> cases b
  · exact ⟨rfl, List.append_cancel_left h⟩
  · exact absurd (List.cons.inj h).1 (by decide)
  · exact absurd (List.cons.inj h).1 (by decide)
  · exact ⟨rfl, List.append_cancel_left h⟩

/-! ## Arrays -/

section Arrays

variable {α : Type} {write : α → List Char}

theorem items_cancel
    (hwrite : ∀ {x y : α} {rest rest' : List Char}, write x ++ rest = write y ++ rest' → x = y ∧ rest = rest')
    {xs ys : List α} {rest rest' : List Char}
    (h : xs.flatMap (fun x => ',' :: write x) ++ ']' :: rest = ys.flatMap (fun y => ',' :: write y) ++ ']' :: rest') :
    xs = ys ∧ rest = rest' := by
  induction xs generalizing ys with
  | nil =>
    cases ys with
    | nil => exact ⟨rfl, (List.cons.inj h).2⟩
    | cons y ys => exact absurd (List.cons.inj h).1 (by decide)
  | cons x xs ih =>
    cases ys with
    | nil => exact absurd (List.cons.inj h).1 (by decide)
    | cons y ys =>
      simp only [List.flatMap_cons, List.cons_append, List.append_assoc] at h
      obtain ⟨rfl, htail⟩ := hwrite (List.cons.inj h).2
      obtain ⟨rfl, rfl⟩ := ih htail
      exact ⟨rfl, rfl⟩

/-- Arrays of values none of which begins with a closing bracket. -/
theorem array_cancel
    (hwrite : ∀ {x y : α} {rest rest' : List Char}, write x ++ rest = write y ++ rest' → x = y ∧ rest = rest')
    (hopen : ∀ x rest rest', write x ++ rest ≠ ']' :: rest') {xs ys : List α} {rest rest' : List Char}
    (h : array write xs ++ rest = array write ys ++ rest') : xs = ys ∧ rest = rest' := by
  cases xs with
  | nil =>
    cases ys with
    | nil => exact ⟨rfl, List.append_cancel_left h⟩
    | cons y ys =>
      simp only [array, List.cons_append, List.append_assoc, List.nil_append] at h
      exact absurd (List.cons.inj h).2.symm (hopen _ _ _)
  | cons x xs =>
    cases ys with
    | nil =>
      simp only [array, List.cons_append, List.append_assoc, List.nil_append] at h
      exact absurd (List.cons.inj h).2 (hopen _ _ _)
    | cons y ys =>
      simp only [array, List.cons_append, List.append_assoc, List.nil_append] at h
      obtain ⟨rfl, htail⟩ := hwrite (List.cons.inj h).2
      obtain ⟨rfl, rfl⟩ := items_cancel hwrite htail
      exact ⟨rfl, rfl⟩

end Arrays

end JsonText
