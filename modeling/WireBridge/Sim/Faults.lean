/-
**Faults on schedule.**

A schedule says which calls of some hardware fail, by the number of the call. A call that fails has
no effect but that it is counted.

* `Faults`: a schedule with the number of calls so far;
* `Faults.guard`: an action under a schedule;
* `Master.faulty`, `I2c.faulty`: hardware under a schedule.
-/

import WireBridge.Bus.Master
import WireBridge.I2c.Basic

namespace WireBridge

/-- A schedule of faults with the number of calls so far. -/
structure Faults (ε : Type) where
  /-- The fault of the call with a number, counted from zero. -/
  fault? : Nat → Option ε
  /-- The calls so far. -/
  calls : Nat

namespace Faults

variable {σ ε α : Type}

/-- Calls in a row that fail in the same way. -/
structure Span (ε : Type) where
  /-- The number of the first call. -/
  first : Nat
  /-- How many calls fail. -/
  count : Nat
  /-- The fault. -/
  fault : ε

/-- Whether a span has the call with a number. -/
def Span.covers (span : Span ε) (call : Nat) : Bool :=
  span.first ≤ call && call < span.first + span.count

/-- The schedule of some spans; where they overlap the first counts. -/
def ofSpans (spans : List (Span ε)) : Faults ε :=
  ⟨fun call => (spans.find? fun span => span.covers call).map Span.fault, 0⟩

/-- An action under a schedule. -/
def guard (action : Action σ ε α) : Action (Faults ε × σ) ε α :=
  Action.ofStep fun (faults, state) =>
    let counted := { faults with calls := faults.calls + 1 }
    match faults.fault? faults.calls with
    | some fault => (.error fault, (counted, state))
    | none =>
      let (outcome, reached) := action.perform state
      (outcome, (counted, reached))

end Faults

/-- A bus master under a schedule. -/
def Master.faulty {σ ε : Type} (master : Master σ ε) : Master (Faults (BusError ε) × σ) ε where
  reset := Faults.guard master.reset
  writeByte byte := Faults.guard (master.writeByte byte)
  readByte := Faults.guard master.readByte
  writeBit bit := Faults.guard (master.writeBit bit)
  readBit := Faults.guard master.readBit
  readTriplet direction := Faults.guard (master.readTriplet direction)

/-- A two-wire bus under a schedule. -/
def I2c.faulty {σ ε : Type} (bus : I2c σ ε) : I2c (Faults ε × σ) ε where
  read peer count := Faults.guard (bus.read peer count)
  write peer bytes := Faults.guard (bus.write peer bytes)
  writeRead peer bytes count := Faults.guard (bus.writeRead peer bytes count)
  transaction peer operations := Faults.guard (bus.transaction peer operations)

end WireBridge
