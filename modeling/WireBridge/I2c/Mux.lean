/-
**An eight-channel two-wire switch (TCA9548A).**

The switch connects the shared bus to sub-buses. Its control register has one bit for each channel;
it is written by a plain write to the address of the switch. All users of the switch share the
register, so each transfer of a channel selects that channel first.

* `Mux.probe`: probe the switch; nothing passes before that;
* `Mux.select`, `Mux.disconnect`: write the control register;
* `Mux.through`: the shared bus through the switch as it is set;
* `Mux.channel`: one channel as a two-wire bus.
-/

import WireBridge.I2c.Basic

namespace WireBridge

open I2c (Failing PeerAddress Operation)

/-- Why an operation on the switch failed. -/
inductive MuxError (ε : Type) where
  /-- The shared bus failed. -/
  | i2c (error : ε)
  /-- The switch has not been found. -/
  | notInitialized
  /-- There is no such channel. -/
  | invalidChannel (channel : UInt8)
deriving DecidableEq

instance {ε : Type} [Diagnostic ε] : Diagnostic (MuxError ε) where
  name
    | .i2c error => s!"I2c({Diagnostic.name error})"
    | .notInitialized => "NotInitialized"
    | .invalidChannel channel => s!"InvalidChannel({channel.toNat})"
  message
    | .i2c error => s!"upstream bus error: {Diagnostic.name error}"
    | .notInitialized => "multiplexer not initialized"
    | .invalidChannel channel => s!"invalid channel {channel.toNat}"

instance {ε : Type} [Failing ε] : Failing (MuxError ε) where
  kind
    | .i2c error => Failing.kind error
    | .notInitialized => .other
    | .invalidChannel _ => .other

/-- The driver of a switch. -/
structure Mux where
  /-- The address of the switch. -/
  address : PeerAddress
  /-- The switch has been found. -/
  initialized : Bool
deriving DecidableEq

namespace Mux

/-- The number of channels. -/
def channels : Nat := 8

/-- The driver of a switch that has not been looked for. -/
def fresh (address : PeerAddress) : Mux := ⟨address, false⟩

/-- The control register that connects one channel. -/
def control (channel : UInt8) : UInt8 := 1 <<< channel

variable {σ ε α : Type} (bus : I2c σ ε)

/-- A transfer of the shared bus. -/
def pass (transfer : Action σ ε α) : Action (Mux × σ) (MuxError ε) α :=
  Action.onSecond (transfer.mapError .i2c)

/-- Refuse to go on if the switch has not been found. -/
def requireFound : Action (Mux × σ) (MuxError ε) Mux := do
  let (mux, _) ← Action.current
  if mux.initialized then pure mux else Action.fail .notInitialized

/-- Look for the switch by reading its control register. -/
def probe : Action (Mux × σ) (MuxError ε) UInt8 := do
  let (mux, _) ← Action.current
  let register ← pass (bus.read mux.address 1)
  Action.update fun (mux, line) => ({ mux with initialized := true }, line)
  pure register.head

/-- Write the control register. -/
def writeControl (register : UInt8) : Action (Mux × σ) (MuxError ε) Unit := do
  let mux ← requireFound
  pass (bus.write mux.address [register])

/-- Connect one channel and disconnect all others. -/
def select (channel : UInt8) : Action (Mux × σ) (MuxError ε) Unit :=
  if channels ≤ channel.toNat then Action.fail (.invalidChannel channel)
  else writeControl bus (control channel)

/-- Disconnect every channel. -/
def disconnect : Action (Mux × σ) (MuxError ε) Unit := writeControl bus 0

/-- A transfer through the switch as it is set. -/
def forward (transfer : Action σ ε α) : Action (Mux × σ) (MuxError ε) α := do
  let _ ← requireFound
  pass transfer

/-- The shared bus through the switch as it is set. -/
def through : I2c (Mux × σ) (MuxError ε) where
  read peer count := forward (bus.read peer count)
  write peer bytes := forward (bus.write peer bytes)
  writeRead peer bytes count := forward (bus.writeRead peer bytes count)
  transaction peer operations := forward (bus.transaction peer operations)

/-- A transfer on one channel. -/
def onChannel (channel : UInt8) (transfer : Action σ ε α) : Action (Mux × σ) (MuxError ε) α := do
  select bus channel
  forward transfer

/-- One channel as a two-wire bus. -/
def channel (number : UInt8) : I2c (Mux × σ) (MuxError ε) where
  read peer count := onChannel bus number (bus.read peer count)
  write peer bytes := onChannel bus number (bus.write peer bytes)
  writeRead peer bytes count := onChannel bus number (bus.writeRead peer bytes count)
  transaction peer operations := onChannel bus number (bus.transaction peer operations)

end Mux

end WireBridge
