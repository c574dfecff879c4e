/-
**Single-precision numbers in JSON.**

A number is written with the fewest digits that read back. It is written without an exponent from
`1e-6` to below `1e13` and then has a point and at least one digit after it; otherwise one digit
stands before the point. Infinities and numbers that are none have no form in JSON and become null.

* `Json.Value.ofSingle`: the value of a single-precision number;
* `Json.NumberLiteral.ofScaled`: the layout of a decimal;
* `Json.NumberLiteral.single`: the single-precision number that a literal stands for.
-/

import WireBridge.Decimal.Shortest
import WireBridge.Json.Value

namespace WireBridge.Json

namespace NumberLiteral

/-- The literal of zero. -/
def zero (negative : Bool) : NumberLiteral := ⟨negative, [0], [0], none⟩

/-- The least power of ten of a first digit that is written without an exponent. -/
def leastPlain : Int := -6

/-- The greatest power of ten of a first digit that is written without an exponent. -/
def greatestPlain : Int := 12

/-- The digits with a point after a number of them, and zeros where there are no digits. -/
def plain (negative : Bool) (digits : List Nat) (before : Int) : NumberLiteral :=
  if before ≤ 0 then ⟨negative, [0], List.replicate (-before).toNat 0 ++ digits, none⟩
  else
    let count := before.toNat
    let padded := digits ++ List.replicate (count - digits.length) 0
    let fraction := padded.drop count
    ⟨negative, padded.take count, if fraction.isEmpty then [0] else fraction, none⟩

/-- The digits with a point after the first and an exponent. -/
def scientific (negative : Bool) (digits : List Nat) (power : Int) : NumberLiteral :=
  ⟨negative, digits.take 1, digits.drop 1, some (power < 0, Decimal.digits power.natAbs)⟩

/-- The literal of a decimal. -/
def ofScaled (negative : Bool) (number : Decimal.Scaled) : NumberLiteral :=
  let digits := Decimal.digits number.coefficient
  let first := number.power + digits.length - 1
  if leastPlain ≤ first ∧ first ≤ greatestPlain then plain negative digits (first + 1)
  else scientific negative digits first

/-- The single-precision number that a literal stands for, rounded by way of double precision. -/
def single (literal : NumberLiteral) : Float32 :=
  let coefficient := Decimal.value (literal.whole ++ literal.fraction)
  let exponent : Int := literal.exponent.elim 0 fun (down, digits) =>
    if down then -(Decimal.value digits : Int) else Decimal.value digits
  let power := exponent - literal.fraction.length
  let magnitude := Float.ofScientific coefficient (power < 0) power.natAbs
  (if literal.negative then -magnitude else magnitude).toFloat32

end NumberLiteral

/-- The value of a single-precision number. -/
def Value.ofSingle (number : Float32) : Value :=
  let bits := number.toBits
  let negative := bits.toNat.testBit 31
  if bits.toNat % Nat.pow 2 31 = 0 then .number (.zero negative)
  else
    match Decimal.Binary.ofSingle? bits with
    | none => .null
    | some parts =>
      match parts.shortest? with
      | none => .null
      | some shortest => .number (.ofScaled negative shortest)

end WireBridge.Json
