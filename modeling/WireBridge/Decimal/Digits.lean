/-
**Decimal digits of natural numbers.**

* `Decimal.digits`: the digits of a number, most significant first, without leading zeros;
* `Decimal.value`: the number with given digits;
* `Decimal.value_digits`: a number is the value of its digits.
-/

namespace WireBridge.Decimal

/-- The digits of a number, most significant first. -/
def digits (number : Nat) : List Nat :=
  if number < 10 then [number] else digits (number / 10) ++ [number % 10]

/-- The number with given digits, most significant first. -/
def value (digits : List Nat) : Nat :=
  digits.foldl (fun above digit => 10 * above + digit) 0

/-- A number is the value of its digits. -/
theorem value_digits (number : Nat) : value (digits number) = number := by
  induction number using digits.induct with
  | case1 number small => rw [digits, if_pos small]; simp [value]
  | case2 number large inner =>
    rw [digits, if_neg large]
    unfold value at inner ⊢
    rw [List.foldl_append, inner]
    simp only [List.foldl_cons, List.foldl_nil]
    omega

/-- The character of a digit. -/
def digitChar (digit : Nat) : Char := Char.ofNat (48 + digit)

/-- The digit of a character. -/
def digit? (char : Char) : Option Nat :=
  if '0' ≤ char ∧ char ≤ '9' then some (char.toNat - 48) else none

/-- The digits of a number as characters. -/
def chars (number : Nat) : List Char := (digits number).map digitChar

/-- The digits of a number as text. -/
def text (number : Nat) : String := String.ofList (chars number)

/-- The number that a text of digits stands for. -/
def value? (text : List Char) : Option Nat := do
  if text.isEmpty then none
  let digits ← text.mapM digit?
  pure (value digits)

end WireBridge.Decimal
