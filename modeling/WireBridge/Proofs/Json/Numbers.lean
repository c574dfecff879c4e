/-
**Numbers that are read back.**

A literal whose digits are digits, with no needless zero in front, is read back from its characters.
Natural numbers are written as such literals, and those of 64 bits are in the range of double
precision.

* `NumberLiteral.Proper`: literals with one way to be written;
* `NumberLiteral.read?_chars`: a proper literal is read back;
* `NumberLiteral.proper_ofNat`, `inRange_ofNat`, `natural?_ofNat`: natural numbers.
-/

import Mathlib.Algebra.Group.Nat.Defs
import WireBridge.Json.Value

namespace WireBridge

/-! ### Digits -/

namespace Decimal

theorem digits_lt (number : Nat) : ∀ digit ∈ digits number, digit < 10 := by
  induction number using digits.induct with
  | case1 number small =>
    rw [digits, if_pos small]
    exact fun digit member => List.mem_singleton.mp member ▸ small
  | case2 number large above =>
    rw [digits, if_neg large]
    intro digit member
    rcases List.mem_append.mp member with member | member
    · exact above digit member
    · exact List.mem_singleton.mp member ▸ Nat.mod_lt _ (by decide)

/-- A number that is not zero starts with a digit that is not. -/
theorem digits_cons {number : Nat} (positive : 0 < number) :
    ∃ first rest, digits number = first :: rest ∧ first ≠ 0 := by
  induction number using digits.induct with
  | case1 number small => exact ⟨number, [], by rw [digits, if_pos small], by omega⟩
  | case2 number large above =>
    obtain ⟨first, rest, same, nonzero⟩ := above (by omega)
    exact ⟨first, rest ++ [number % 10], by rw [digits, if_neg large, same]; rfl, nonzero⟩

theorem digit?_digitChar {digit : Nat} (small : digit < 10) :
    digit? (digitChar digit) = some digit := by
  have every : ∀ number : Fin 10, digit? (digitChar number.val) = some number.val := by decide
  exact every ⟨digit, small⟩

theorem isDigit_digitChar {digit : Nat} (small : digit < 10) :
    (digitChar digit).isDigit = true := by
  have every : ∀ number : Fin 10, (digitChar number.val).isDigit = true := by decide
  exact every ⟨digit, small⟩

end Decimal

namespace Json

open Decimal (digitChar)

/-- A text that goes on without a digit. -/
def NoDigit (chars : List Char) : Prop := ∀ char ∈ chars.head?, Decimal.digit? char = none

theorem spanDigits_append {digits : List Nat} (small : ∀ digit ∈ digits, digit < 10)
    {rest : List Char} (ends : NoDigit rest) :
    spanDigits (digits.map digitChar ++ rest) = (digits, rest) := by
  induction digits with
  | nil =>
    cases rest with
    | nil => rfl
    | cons char rest =>
      have other := ends char rfl
      simp [spanDigits, other]
  | cons digit digits inner =>
    obtain ⟨first, later⟩ := List.forall_mem_cons.mp small
    rw [List.map_cons, List.cons_append, spanDigits, Decimal.digit?_digitChar first]
    simp only [inner later]

namespace NumberLiteral

/-- A literal that is written in one way only. -/
structure Proper (literal : NumberLiteral) : Prop where
  /-- There is no needless zero in front. -/
  whole : wholeAllowed literal.whole = true
  /-- The digits are digits. -/
  small : ∀ digit ∈ literal.whole ++ literal.fraction, digit < 10
  /-- So are those of the exponent, and there are some. -/
  exponent : ∀ down digits, literal.exponent = some (down, digits) →
    digits ≠ [] ∧ ∀ digit ∈ digits, digit < 10

/-- The characters of an exponent. -/
def exponentChars : Option (Bool × List Nat) → List Char
  | none => []
  | some (down, digits) => 'e' :: (if down then '-' else '+') :: digits.map digitChar

theorem noDigit_exponentChars (exponent : Option (Bool × List Nat)) :
    NoDigit (exponentChars exponent) := by
  cases exponent with
  | none => exact nofun
  | some exponent =>
    rintro char ⟨⟩
    decide

theorem readTail?_exponentChars {literal : NumberLiteral} (proper : literal.Proper) :
    readTail? literal.negative literal.whole literal.fraction (exponentChars literal.exponent) =
      some literal := by
  obtain ⟨negative, whole, fraction, exponent⟩ := literal
  cases exponent with
  | none => rfl
  | some exponent =>
    obtain ⟨down, digits⟩ := exponent
    obtain ⟨some_digit, small⟩ := proper.exponent down digits rfl
    have spanned : spanDigits (digits.map digitChar ++ []) = (digits, []) :=
      spanDigits_append small nofun
    cases digits with
    | nil => exact absurd rfl some_digit
    | cons digit digits =>
      rw [List.append_nil, List.map_cons] at spanned
      cases down <;> simp [exponentChars, readTail?, readExponent?, spanned]

/-- The characters of a fraction. -/
def fractionChars (fraction : List Nat) : List Char :=
  if fraction.isEmpty then [] else '.' :: fraction.map digitChar

theorem noDigit_fractionChars (fraction : List Nat) (exponent : Option (Bool × List Nat)) :
    NoDigit (fractionChars fraction ++ exponentChars exponent) := by
  cases fraction with
  | nil => exact noDigit_exponentChars exponent
  | cons digit fraction =>
    rintro char ⟨⟩
    decide

theorem readUnsigned?_chars {literal : NumberLiteral} (proper : literal.Proper) :
    readUnsigned? literal.negative (literal.whole.map digitChar ++
      (fractionChars literal.fraction ++ exponentChars literal.exponent)) = some literal := by
  obtain ⟨wholeSmall, fractionSmall⟩ := List.forall_mem_append.mp proper.small
  have tail := readTail?_exponentChars proper
  have ends := noDigit_exponentChars literal.exponent
  rw [readUnsigned?, spanDigits_append wholeSmall (noDigit_fractionChars _ _)]
  obtain ⟨negative, whole, fraction, exponent⟩ := literal
  simp only [proper.whole, if_true]
  cases fraction with
  | nil => cases exponent <;> exact tail
  | cons digit fraction =>
    have spanned := spanDigits_append fractionSmall ends
    simp only [fractionChars, List.isEmpty_cons, Bool.false_eq_true, if_false, List.cons_append,
      spanned]
    exact tail

theorem chars_eq (literal : NumberLiteral) :
    literal.chars = (if literal.negative then ['-'] else []) ++ (literal.whole.map digitChar ++
      (fractionChars literal.fraction ++ exponentChars literal.exponent)) := by
  simp only [chars, List.append_assoc]
  rfl

/-- **A proper literal is read back.** -/
theorem read?_chars {literal : NumberLiteral} (proper : literal.Proper) :
    read? literal.chars = some literal := by
  have unsigned := readUnsigned?_chars proper
  rw [chars_eq]
  obtain ⟨negative, whole, fraction, exponent⟩ := literal
  cases negative with
  | true => exact unsigned
  | false =>
    cases whole with
    | nil => exact absurd proper.whole (by simp [wholeAllowed])
    | cons first whole =>
      have small := proper.small first (by simp)
      have plain : digitChar first ≠ '-' := by
        intro same
        have read := Decimal.digit?_digitChar small
        rw [same, show Decimal.digit? '-' = none by decide] at read
        cases read
      exact (read?.eq_2 _ fun _ same => plain (List.cons.inj same).1).trans unsigned

/-! ### Natural numbers -/

theorem wholeAllowed_digits (number : Nat) : wholeAllowed (Decimal.digits number) = true := by
  by_cases small : number < 10
  · rw [Decimal.digits, if_pos small]
    rfl
  · obtain ⟨first, rest, same, nonzero⟩ := @Decimal.digits_cons number (by omega)
    rw [same]
    cases rest with
    | nil => rfl
    | cons second rest => exact bne_iff_ne.mpr nonzero

theorem proper_ofNat (number : Nat) : (ofNat number).Proper where
  whole := wholeAllowed_digits number
  small := by
    rw [ofNat, List.append_nil]
    exact Decimal.digits_lt number
  exponent := nofun

theorem natural?_ofNat {number : Nat} (word : number ≤ maxWord) :
    (ofNat number).natural? = some number := by
  rw [natural?]
  simp only [ofNat, Decimal.value_digits, Bool.false_or, Option.isSome_none, List.isEmpty_nil]
  exact if_pos word

/-- The digits of a number of 64 bits are all gathered. -/
theorem gather_eq {digits : List Nat} {start : Nat}
    (word : digits.foldl (fun above digit => 10 * above + digit) start ≤ maxWord) :
    gather digits start = (digits.foldl (fun above digit => 10 * above + digit) start, []) := by
  induction digits generalizing start with
  | nil => rfl
  | cons digit rest inner =>
    have grows (digits : List Nat) (start : Nat) :
        start ≤ digits.foldl (fun above digit => 10 * above + digit) start := by
      induction digits generalizing start with
      | nil => exact Nat.le_refl _
      | cons digit rest inner =>
        have more := inner (10 * start + digit)
        rw [List.foldl_cons]
        omega
    rw [List.foldl_cons] at word ⊢
    have fits : 10 * start + digit ≤ maxWord := Nat.le_trans (grows rest _) word
    rw [gather]
    simp only [fits, if_true]
    exact inner word

theorem roundSignificand_le (number : Nat) :
    roundSignificand number ≤ number + 2 ^ (number.log2 - 52) := by
  have below : number / 2 ^ (number.log2 - 52) * 2 ^ (number.log2 - 52) ≤ number :=
    Nat.div_mul_le_self _ _
  unfold roundSignificand
  simp only [Nat.pow_eq]
  split
  · omega
  · split
    · omega
    · rw [Nat.succ_mul]
      omega

theorem scaledInRange_word {number : Nat} (word : number ≤ maxWord) :
    scaledInRange number 0 = true := by
  have small : number < 2 ^ 64 := by
    have : maxWord = 2 ^ 64 - 1 := rfl
    omega
  have unit : 2 ^ (number.log2 - 52) ≤ 2 ^ 64 := Nat.pow_le_pow_right (by decide) (by
    by_cases zero : number = 0
    · rw [zero]
      decide
    · have := (Nat.log2_lt zero).mpr small
      omega)
  have rounded := roundSignificand_le number
  have one : roundSignificand (Nat.pow 10 (0 : Int).toNat) = 1 := by decide
  have bound : 2 ^ 64 + 2 ^ 64 < overflowThreshold := by decide +kernel
  have below : roundSignificand number < overflowThreshold := by omega
  rw [scaledInRange, if_neg (by decide), if_pos (by decide), one, Nat.mul_one]
  exact decide_eq_true below

theorem inRange_ofNat {number : Nat} (word : number ≤ maxWord) :
    (ofNat number).inRange = true := by
  have same : (Decimal.digits number).foldl (fun above digit => 10 * above + digit) 0 = number :=
    Decimal.value_digits number
  have gathered : gather (Decimal.digits number) 0 = (number, []) := by
    rw [gather_eq (by rw [same]; exact word), same]
  have cut : (ofNat number).significand = (number, 0) := by
    simp only [significand, ofNat, gathered]
    rfl
  simp only [inRange, cut]
  exact scaledInRange_word word

end NumberLiteral

end Json

end WireBridge
