/-
**Hexadecimal digits.**

* `Hex.digit`, `Hex.smallDigit`: the capital and the small digit of a value below sixteen;
* `Hex.value?`: the value of a digit of either case;
* `Hex.pair`, `Hex.bytes?`: bytes as pairs of digits, the high half first;
* `Hex.bytes?_pairs`: bytes read back from their pairs.
-/

namespace WireBridge.Hex

/-- The capital digit of a value below sixteen. -/
def digit (value : Nat) : Char :=
  if value < 10 then Char.ofNat (48 + value) else Char.ofNat (55 + value)

/-- The small digit of a value below sixteen. -/
def smallDigit (value : Nat) : Char :=
  if value < 10 then Char.ofNat (48 + value) else Char.ofNat (87 + value)

/-- The value of a digit of either case. -/
def value? (char : Char) : Option Nat :=
  if '0' ≤ char ∧ char ≤ '9' then some (char.toNat - 48)
  else if 'A' ≤ char ∧ char ≤ 'F' then some (char.toNat - 55)
  else if 'a' ≤ char ∧ char ≤ 'f' then some (char.toNat - 87)
  else none

/-- A digit has the value that it was made from. -/
theorem value?_digit {value : Nat} (small : value < 16) : value? (digit value) = some value := by
  have every : ∀ number : Fin 16, value? (digit number.val) = some number.val := by decide
  exact every ⟨value, small⟩

/-- The two capital digits of a byte. -/
def pair (byte : UInt8) : List Char := [digit (byte.toNat / 16), digit (byte.toNat % 16)]

/-- The bytes that pairs of digits write. -/
def bytes? : List Char → Option (List UInt8)
  | [] => some []
  | [_] => none
  | high :: low :: rest => do
    let upper ← value? high
    let lower ← value? low
    let others ← bytes? rest
    pure (UInt8.ofNat (16 * upper + lower) :: others)

/-- Bytes read back from their pairs of digits. -/
theorem bytes?_pairs (bytes : List UInt8) : bytes? (bytes.flatMap pair) = some bytes := by
  induction bytes with
  | nil => rfl
  | cons byte rest inner =>
    have bound := byte.toNat_lt
    have high : byte.toNat / 16 < 16 := by omega
    have low : byte.toNat % 16 < 16 := by omega
    have whole : UInt8.ofNat (16 * (byte.toNat / 16) + byte.toNat % 16) = byte := by
      rw [Nat.div_add_mod]
      exact UInt8.ofNat_toNat
    simp only [List.flatMap_cons, pair, List.cons_append, List.nil_append, bytes?,
      value?_digit high, value?_digit low, inner, whole, Option.bind_eq_bind, Option.bind_some]
    rfl

end WireBridge.Hex
