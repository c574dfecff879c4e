/-
**What a two-wire bus was asked to do.**

* `I2c.Transfer`: a transfer, and whether it succeeded;
* `I2c.traced`: a bus with a list of notes about its transfers, the latest first;
* `I2c.PinCall`, `I2c.Pins.traced`: the same for the lines as pins, with the pauses between calls.
-/

import WireBridge.Bus.Trace
import WireBridge.I2c.Recovery

namespace WireBridge

namespace I2c

/-- A transfer, and whether it succeeded. -/
inductive Transfer where
  | read (peer : PeerAddress) (count : Nat) (done : Bool)
  | write (peer : PeerAddress) (bytes : List UInt8) (done : Bool)
  | writeRead (peer : PeerAddress) (bytes : List UInt8) (count : Nat) (done : Bool)
  | transaction (peer : PeerAddress) (operations : List Operation) (done : Bool)
deriving DecidableEq

/-- The bus with a list of notes about its transfers. -/
def traced {σ ε ν : Type} (note : Transfer → ν) (bus : I2c σ ε) : I2c (σ × List ν) ε where
  read peer count := (bus.read peer count).noted fun result =>
    note (.read peer count result.isSome)
  write peer bytes := (bus.write peer bytes).noted fun result =>
    note (.write peer bytes result.isSome)
  writeRead peer bytes count := (bus.writeRead peer bytes count).noted fun result =>
    note (.writeRead peer bytes count result.isSome)
  transaction peer operations := (bus.transaction peer operations).noted fun result =>
    note (.transaction peer operations result.isSome)

/-- A call on the lines as pins, or a pause. -/
inductive PinCall where
  | drive (wire : Wire) (released : Bool) (result : Option Unit)
  | level (wire : Wire) (high : Option Bool)
  | pause (microseconds : Nat)
deriving DecidableEq

/-- The pins with a list of notes about their calls. -/
def Pins.traced {σ ε ν : Type} (note : PinCall → ν) (pins : Pins σ ε) : Pins (σ × List ν) ε where
  drive wire released := (pins.drive wire released).noted fun result =>
    note (.drive wire released result)
  level wire := (pins.level wire).noted fun high => note (.level wire high)
  pause microseconds state :=
    (pins.pause microseconds state.1, note (.pause microseconds) :: state.2)

end I2c

end WireBridge
