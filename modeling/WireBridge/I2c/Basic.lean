/-
**Two-wire (I2C) buses.**

An `I2c σ ε` is access to a two-wire bus whose state is `σ` and whose transfers fail with `ε`. Every
error belongs to a few kinds that do not depend on who reports it.

* `I2c`: the four transfers;
* `I2c.Failing`: errors that tell their kind;
* `I2c.Operation`: the parts of a transaction.
-/

import WireBridge.Action

namespace WireBridge

namespace I2c

/-- What was not acknowledged. -/
inductive Unacknowledged where
  | address
  | data
  | unknown
deriving DecidableEq

/-- The kinds of errors. -/
inductive ErrorKind where
  | bus
  | arbitrationLoss
  | noAcknowledge (source : Unacknowledged)
  | overrun
  | other
deriving DecidableEq

/-- The name of a kind in diagnostics. -/
def ErrorKind.name : ErrorKind → String
  | .bus => "Bus"
  | .arbitrationLoss => "ArbitrationLoss"
  | .noAcknowledge .address => "NoAcknowledge(Address)"
  | .noAcknowledge .data => "NoAcknowledge(Data)"
  | .noAcknowledge .unknown => "NoAcknowledge(Unknown)"
  | .overrun => "Overrun"
  | .other => "Other"

/-- Errors that tell their kind. -/
class Failing (ε : Type) where
  /-- The kind of an error. -/
  kind : ε → ErrorKind

/-- A part of a transaction. -/
inductive Operation where
  | read (length : Nat)
  | write (bytes : List UInt8)
deriving DecidableEq

/-- The number of bytes that an operation moves. -/
def Operation.length : Operation → Nat
  | .read length => length
  | .write bytes => bytes.length

/-- A seven-bit address. -/
abbrev PeerAddress := UInt8

end I2c

/-- Access to a two-wire bus. -/
structure I2c (σ ε : Type) where
  /-- Read a number of bytes from a peer. -/
  read : I2c.PeerAddress → (count : Nat) → Action σ ε (Vector UInt8 count)
  /-- Write bytes to a peer. -/
  write : I2c.PeerAddress → List UInt8 → Action σ ε Unit
  /-- Write bytes to a peer and read from it without giving up the bus in between. -/
  writeRead : I2c.PeerAddress → List UInt8 → (count : Nat) → Action σ ε (Vector UInt8 count)
  /-- Do operations with one peer in a row. The result holds the bytes of each read. -/
  transaction : I2c.PeerAddress → List I2c.Operation → Action σ ε (List (List UInt8))

end WireBridge
