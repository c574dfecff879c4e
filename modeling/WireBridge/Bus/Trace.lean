/-
**What a bus master was asked to do.**

A traced bus master keeps a list of the calls of its primitives, the latest call first, each with
its result. Tracing does not change what the master does.

* `BusCall`: a call with its result;
* `Master.traced`: the traced master; each call is kept in a form that is chosen from outside;
* `Action.noted_perform`: the outcome and the line are those of the untraced call.
-/

import WireBridge.Bus.Master

namespace WireBridge

/-- A call of a primitive with its result. There is no result after a failure. -/
inductive BusCall where
  | reset (status : Option ResetStatus)
  | writeByte (byte : UInt8) (result : Option Unit)
  | readByte (byte : Option UInt8)
  | writeBit (bit : Bool) (result : Option Unit)
  | readBit (bit : Option Bool)
  | readTriplet (direction : Bool) (triplet : Option Triplet)
deriving DecidableEq

/-- An action with a note of its result in front of earlier notes. -/
def Action.noted {σ ε α ν : Type} (note : Option α → ν) (action : Action σ ε α) :
    Action (σ × List ν) ε α :=
  Action.ofStep fun (state, notes) =>
    let (outcome, reached) := action.perform state
    (outcome, (reached, note outcome.toOption :: notes))

/-- The bus master with a list of notes about its calls. -/
def Master.traced {σ ε ν : Type} (note : BusCall → ν) (master : Master σ ε) :
    Master (σ × List ν) ε where
  reset := master.reset.noted fun status => note (.reset status)
  writeByte byte := (master.writeByte byte).noted fun result => note (.writeByte byte result)
  readByte := master.readByte.noted fun byte => note (.readByte byte)
  writeBit bit := (master.writeBit bit).noted fun result => note (.writeBit bit result)
  readBit := master.readBit.noted fun bit => note (.readBit bit)
  readTriplet direction :=
    (master.readTriplet direction).noted fun triplet => note (.readTriplet direction triplet)

/-- A note does not change the outcome of an action or the state it leaves. -/
theorem Action.noted_perform {σ ε α ν : Type} (note : Option α → ν) (action : Action σ ε α)
    (state : σ) (notes : List ν) :
    (action.noted note).perform (state, notes) =
      ((action.perform state).1,
        ((action.perform state).2, note (action.perform state).1.toOption :: notes)) := rfl

end WireBridge
