/-
**The shortest decimal that reads back.**

A binary floating-point number stands for all reals that round to it. Of the decimals among them,
the shortest is the multiple of the highest power of ten; of two such multiples the nearer one is
taken, and of two equally near ones the even one.

* `Decimal.Binary`: a number `significand · 2 ^ exponent` with the interval that rounds to it;
* `Decimal.Binary.shortest?`: its shortest decimal;
* `Decimal.Binary.ofSingle?`: the parts of a single-precision number.
-/

namespace WireBridge.Decimal

/-- A positive binary floating-point number. -/
structure Binary where
  /-- The significand. -/
  significand : Nat
  /-- The power of two. -/
  exponent : Int
  /-- The next smaller number is only half a unit away, as below a power of two. -/
  narrowBelow : Bool
deriving DecidableEq

/-- A decimal number `coefficient · 10 ^ power`. -/
structure Scaled where
  /-- The coefficient. -/
  coefficient : Nat
  /-- The power of ten. -/
  power : Int
deriving DecidableEq

namespace Binary

/-- The number in quarters of a unit in its last place. -/
def quarters (number : Binary) : Nat := 4 * number.significand

/-- The lower end of the interval, in quarters of a unit. -/
def lower (number : Binary) : Nat := number.quarters - if number.narrowBelow then 1 else 2

/-- The upper end of the interval, in quarters of a unit. -/
def upper (number : Binary) : Nat := number.quarters + 2

/-- Whether the ends belong to the interval: ties go to the even significand. -/
def closed (number : Binary) : Bool := number.significand % 2 == 0

/-- A quarter of a unit, and a power of ten, as multiples of a common measure. -/
def measures (number : Binary) (power : Int) : Nat × Nat :=
  let binary := number.exponent - 2
  (Nat.pow 2 binary.toNat * Nat.pow 10 (-power).toNat,
    Nat.pow 10 power.toNat * Nat.pow 2 (-binary).toNat)

/-- Whether a multiple of a power of ten lies in the interval. -/
def holds (number : Binary) (power : Int) (coefficient : Nat) : Bool :=
  let (quarter, ten) := number.measures power
  if number.closed then
    decide (number.lower * quarter ≤ coefficient * ten ∧
      coefficient * ten ≤ number.upper * quarter)
  else
    decide (number.lower * quarter < coefficient * ten ∧
      coefficient * ten < number.upper * quarter)

/-- The multiple of a power of ten that lies in the interval and is nearest, if there is one. -/
def onGrid? (number : Binary) (power : Int) : Option Nat :=
  let (quarter, ten) := number.measures power
  let value := number.quarters * quarter
  let below := value / ten
  match number.holds power below, number.holds power (below + 1) with
  | false, false => none
  | true, false => some below
  | false, true => some (below + 1)
  | true, true =>
    let left := value - below * ten
    let right := (below + 1) * ten - value
    if left < right || (left == right && below % 2 == 0) then some below else some (below + 1)

/-- The first hit on the grids from a power downwards. -/
def descend (number : Binary) (power : Int) : Nat → Option Scaled
  | 0 => none
  | steps + 1 =>
    match number.onGrid? power with
    | some coefficient => some ⟨coefficient, power⟩
    | none => descend number (power - 1) steps

/-- A power of ten above the interval. -/
def top (number : Binary) : Int := max (number.upper.log2 + number.exponent) 0

/-- A power of ten of which the number is a multiple. -/
def bottom (number : Binary) : Int := min number.exponent 0

/-- The shortest decimal that reads back. -/
def shortest? (number : Binary) : Option Scaled :=
  number.descend number.top (number.top - number.bottom + 1).toNat

/-- The parts of a single-precision number without its sign; nothing for zero, infinities and
numbers that are none. -/
def ofSingle? (bits : UInt32) : Option Binary :=
  let fraction : Nat := bits.toNat % Nat.pow 2 23
  let field : Nat := bits.toNat / Nat.pow 2 23 % Nat.pow 2 8
  if field = 255 then none
  else if field = 0 then
    if fraction = 0 then none else some ⟨fraction, -149, false⟩
  else some ⟨fraction + Nat.pow 2 23, (field : Int) - 150, fraction == 0 && field != 1⟩

end Binary

end WireBridge.Decimal
