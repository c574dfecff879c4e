/-
**Transfers that are asked of a two-wire bus.**

A demand is a transfer as it is asked for, whatever comes of it. So the users of a bus can be
listed, and the notes of a traced bus can be compared with what was asked.

* `I2c.Demand.run`: what a bus makes of a demand;
* `I2c.Demand.run_traced`: a traced bus notes each demand once, and whether it was met;
* `I2c.Transfer.stored`: the bytes that a peer got.
-/

import WireBridge.I2c.Trace

namespace WireBridge.I2c

/-- A transfer as it is asked for. -/
inductive Demand where
  | read (peer : PeerAddress) (count : Nat)
  | write (peer : PeerAddress) (bytes : List UInt8)
  | writeRead (peer : PeerAddress) (bytes : List UInt8) (count : Nat)
  | transaction (peer : PeerAddress) (operations : List Operation)
deriving DecidableEq

namespace Demand

/-- The note about a demand that was met or not. -/
def noted (done : Bool) : Demand → Transfer
  | .read peer count => .read peer count done
  | .write peer bytes => .write peer bytes done
  | .writeRead peer bytes count => .writeRead peer bytes count done
  | .transaction peer operations => .transaction peer operations done

variable {σ ε : Type}

/-- What a bus makes of a demand: the bytes of each read. -/
def run (bus : I2c σ ε) : Demand → Action σ ε (List (List UInt8))
  | .read peer count => do
    let bytes ← bus.read peer count
    pure [bytes.toList]
  | .write peer bytes => do
    bus.write peer bytes
    pure []
  | .writeRead peer bytes count => do
    let answer ← bus.writeRead peer bytes count
    pure [answer.toList]
  | .transaction peer operations => bus.transaction peer operations

/-- **A traced bus notes each demand once.** -/
theorem run_traced (bus : I2c σ ε) (demand : Demand) (line : σ) (notes : List Transfer) :
    (demand.run (bus.traced id)).perform (line, notes) =
      (((demand.run bus).perform line).1,
        (((demand.run bus).perform line).2,
          demand.noted ((demand.run bus).perform line).1.toOption.isSome :: notes)) := by
  cases demand with
  | read peer count =>
    simp only [run, traced, Action.perform_bind, Action.noted_perform]
    rcases (bus.read peer count).perform line with ⟨error | bytes, reached⟩ <;> rfl
  | write peer bytes =>
    simp only [run, traced, Action.perform_bind, Action.noted_perform]
    rcases (bus.write peer bytes).perform line with ⟨error | done, reached⟩ <;> rfl
  | writeRead peer bytes count =>
    simp only [run, traced, Action.perform_bind, Action.noted_perform]
    rcases (bus.writeRead peer bytes count).perform line with ⟨error | answer, reached⟩ <;> rfl
  | transaction peer operations => rfl

end Demand

namespace Transfer

/-- What was asked for. -/
def demand : Transfer → Demand
  | .read peer count _ => .read peer count
  | .write peer bytes _ => .write peer bytes
  | .writeRead peer bytes count _ => .writeRead peer bytes count
  | .transaction peer operations _ => .transaction peer operations

@[simp] theorem demand_noted (done : Bool) (asked : Demand) : (asked.noted done).demand = asked := by
  cases asked <;> rfl

/-- The other side of a transfer. -/
def peer : Transfer → PeerAddress
  | .read peer .. => peer
  | .write peer .. => peer
  | .writeRead peer .. => peer
  | .transaction peer .. => peer

/-- The bytes that a peer got by a transfer. One that failed has no effect. -/
def stored (peer : PeerAddress) : Transfer → List UInt8
  | .write target bytes true => if target = peer then bytes else []
  | .writeRead target bytes _ true => if target = peer then bytes else []
  | .transaction target operations true =>
    if target = peer then operations.flatMap written else []
  | _ => []
where
  /-- The bytes that an operation writes. -/
  written : Operation → List UInt8
    | .read _ => []
    | .write bytes => bytes

end Transfer

end WireBridge.I2c
