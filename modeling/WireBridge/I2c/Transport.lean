/-
**The shared two-wire transport.**

The transport stands between the bridge and an I2C peripheral. It refuses transfers until the bus
has been recovered once, and transfers longer than 128 bytes always. A write may be held back so
that a following read of the same peer goes out with it as one transfer; every other operation first
sends a held write on its own.

* `Transport.start`: recover the bus and open the gate;
* `Transport.read`, `Transport.write`, `Transport.flush`: transfers with held writes;
* `Transport.i2c`: the transport as a two-wire bus.
-/

import WireBridge.I2c.Recovery

namespace WireBridge

open I2c (Failing PeerAddress Operation RecoveryError)

/-- Why a transfer failed. -/
inductive TransportError where
  /-- The bus has not been recovered. -/
  | notInitialized
  /-- The bus did not complete the transfer in time. -/
  | timeout
  /-- The peer did not acknowledge. -/
  | notAcknowledged
  /-- The peripheral failed in another way. -/
  | unknown
  /-- The transfer is too long. -/
  | tooLarge
deriving DecidableEq

instance : Diagnostic TransportError where
  name
    | .notInitialized => "NotInitialized"
    | .timeout => "Timeout"
    | .notAcknowledged => "NotAcknowledged"
    | .unknown => "Unknown"
    | .tooLarge => "TooLarge"
  message
    | .notInitialized => "bus not initialized"
    | .timeout => "bus timeout"
    | .notAcknowledged => "transfer not acknowledged"
    | .unknown => "unknown bus failure"
    | .tooLarge => "transfer too large"

instance : Failing TransportError where
  kind
    | .notAcknowledged => .noAcknowledge .unknown
    | .timeout => .bus
    | .tooLarge => .overrun
    | .notInitialized => .other
    | .unknown => .other

/-- The transport's view of an error of the peripheral. A peer that holds the bus shows as a bus
error. -/
def TransportError.ofKind : I2c.ErrorKind → TransportError
  | .noAcknowledge _ => .notAcknowledged
  | .bus => .timeout
  | .arbitrationLoss => .timeout
  | .overrun => .tooLarge
  | .other => .unknown

/-- A write that is held back. -/
structure HeldWrite where
  /-- To whom. -/
  peer : PeerAddress
  /-- What. -/
  bytes : List UInt8
deriving DecidableEq

/-- The transport between two operations. -/
structure Transport where
  /-- The bus has been recovered. -/
  initialized : Bool
  /-- The write that is held back. -/
  held : Option HeldWrite
deriving DecidableEq

namespace Transport

/-- The longest transfer. -/
def maxLength : Nat := 128

/-- The transport before the bus was recovered. -/
def fresh : Transport := ⟨false, none⟩

variable {σ ε α : Type}

/-- Recover the bus and accept transfers from now on, unless recovery fails. -/
def start {τ : Type} (recover : Action τ RecoveryError Unit) :
    Action (Transport × τ) RecoveryError Unit := do
  Action.onSecond recover
  Action.update fun (transport, pins) => ({ transport with initialized := true }, pins)

/-- Refuse a transfer of a length that may not be made. -/
def check (length : Nat) : Action (Transport × σ) TransportError Unit := do
  let (transport, _) ← Action.current
  if !transport.initialized then Action.fail .notInitialized
  else if maxLength < length then Action.fail .tooLarge
  else pure ()

/-- Take the held write, which is then no longer held. -/
def takeHeld : Action (Transport × σ) TransportError (Option HeldWrite) :=
  Action.ofStep fun (transport, bus) =>
    (.ok transport.held, ({ transport with held := none }, bus))

variable [Failing ε] (bus : I2c σ ε)

/-- A transfer of the peripheral. -/
def pass (transfer : Action σ ε α) : Action (Transport × σ) TransportError α :=
  Action.onSecond (transfer.mapError fun error => .ofKind (Failing.kind error))

/-- Send a held write on its own. -/
def flush : Action (Transport × σ) TransportError Unit := do
  match ← takeHeld with
  | some held => pass (bus.write held.peer held.bytes)
  | none => pure ()

/-- Read from a peer, together with a write held for it. -/
def read (peer : PeerAddress) (count : Nat) :
    Action (Transport × σ) TransportError (Vector UInt8 count) := do
  check count
  match ← takeHeld with
  | some held =>
    if held.peer = peer then pass (bus.writeRead peer held.bytes count)
    else do
      pass (bus.write held.peer held.bytes)
      pass (bus.read peer count)
  | none => pass (bus.read peer count)

/-- Write to a peer at once, or hold the write back. -/
def write (peer : PeerAddress) (bytes : List UInt8) (stop : Bool) :
    Action (Transport × σ) TransportError Unit := do
  check bytes.length
  flush bus
  if stop then pass (bus.write peer bytes)
  else Action.update fun (transport, line) =>
    ({ transport with held := some ⟨peer, bytes⟩ }, line)

/-- Write and read in one transfer. -/
def writeRead (peer : PeerAddress) (bytes : List UInt8) (count : Nat) :
    Action (Transport × σ) TransportError (Vector UInt8 count) := do
  check (max bytes.length count)
  flush bus
  pass (bus.writeRead peer bytes count)

/-- The length of the longest operation. -/
def longest (operations : List Operation) : Nat :=
  operations.foldl (fun most operation => max most operation.length) 0

/-- Do operations in a row. -/
def transaction (peer : PeerAddress) (operations : List Operation) :
    Action (Transport × σ) TransportError (List (List UInt8)) := do
  check (longest operations)
  flush bus
  pass (bus.transaction peer operations)

/-- The transport as a two-wire bus. -/
def i2c : I2c (Transport × σ) TransportError where
  read := read bus
  write peer bytes := write bus peer bytes true
  writeRead := writeRead bus
  transaction := transaction bus

end Transport

end WireBridge
