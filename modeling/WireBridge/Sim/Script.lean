/-
**Hardware that answers from a script.**

Scripted hardware takes no notice of what it is told and gives its answers one after the other.
After the last of them it answers as an idle line does.

* `Sim.Script`, `Sim.scripted`: a 1-Wire line;
* `Sim.Source`, `Sim.source`: a line that is simulated or scripted;
* `Sim.answering`: a peer on a two-wire bus, given by the bytes that are read from it;
* `Sim.ScriptedPins`: the two lines as pins, each with its levels and faults.
-/

import WireBridge.Sim.Faults
import WireBridge.Sim.Line
import WireBridge.I2c.Recovery

namespace WireBridge.Sim

/-! ### A 1-Wire line -/

/-- The answers of a line. -/
structure Script where
  /-- The results of resets. -/
  resets : List ResetStatus
  /-- The bytes that are read. -/
  bytes : List UInt8
  /-- The bits that are read. -/
  bits : List Bool
  /-- The two bits that are read in each triplet, and the bit that is written if it is not the
  requested one. -/
  triplets : List (Bool × Bool × Option Bool)

/-- The next of some answers, or the one of an idle line, and the answers left. -/
def nextOf {α : Type} (idle : α) : List α → α × List α
  | [] => (idle, [])
  | answer :: rest => (answer, rest)

/-- A scripted line as a bus master. -/
def scripted {ε : Type} : Master Script ε where
  reset := Action.ofStep fun script =>
    let (status, rest) := nextOf { presence := true, shortCircuit := false } script.resets
    (.ok status, { script with resets := rest })
  writeByte _ := pure ()
  readByte := Action.ofStep fun script =>
    let (byte, rest) := nextOf 0xff script.bytes
    (.ok byte, { script with bytes := rest })
  writeBit _ := pure ()
  readBit := Action.ofStep fun script =>
    let (bit, rest) := nextOf true script.bits
    (.ok bit, { script with bits := rest })
  readTriplet direction := Action.ofStep fun script =>
    let ((id, complement, taken), rest) := nextOf (true, true, none) script.triplets
    (.ok ⟨id, complement, taken.getD direction⟩, { script with triplets := rest })

/-- A line that is simulated or scripted. -/
abbrev Source := Line ⊕ Script

/-- An action on a line of either kind. -/
def onSource {ε α : Type} (simulated : Action Line ε α) (other : Action Script ε α) :
    Action Source ε α :=
  Action.ofStep fun
    | .inl line =>
      let (outcome, reached) := simulated.perform line
      (outcome, .inl reached)
    | .inr script =>
      let (outcome, reached) := other.perform script
      (outcome, .inr reached)

/-- A line of either kind as a bus master. -/
def source {ε : Type} : Master Source ε where
  reset := onSource master.reset scripted.reset
  writeByte byte := onSource (master.writeByte byte) (scripted.writeByte byte)
  readByte := onSource master.readByte scripted.readByte
  writeBit bit := onSource (master.writeBit bit) (scripted.writeBit bit)
  readBit := onSource master.readBit scripted.readBit
  readTriplet direction :=
    onSource (master.readTriplet direction) (scripted.readTriplet direction)

/-! ### A peer on a two-wire bus -/

/-- The next bytes, zeros after the last, and the bytes left. -/
def takeBytes (count : Nat) (bytes : List UInt8) : Vector UInt8 count × List UInt8 :=
  (Vector.ofFn fun place => (bytes[place.val]?).getD 0, bytes.drop count)

/-- The bytes of each read of a transaction, and the bytes left. -/
def takeReads (bytes : List UInt8) : List I2c.Operation → List (List UInt8) × List UInt8
  | [] => ([], bytes)
  | .read length :: rest =>
    let (taken, left) := takeBytes length bytes
    let (others, last) := takeReads left rest
    (taken.toList :: others, last)
  | .write _ :: rest => takeReads bytes rest

/-- A peer from which bytes are read. -/
def answering {ε : Type} : I2c (List UInt8) ε where
  read _ count := Action.ofStep fun bytes =>
    let (taken, left) := takeBytes count bytes
    (.ok taken, left)
  write _ _ := pure ()
  writeRead _ _ count := Action.ofStep fun bytes =>
    let (taken, left) := takeBytes count bytes
    (.ok taken, left)
  transaction _ operations := Action.ofStep fun bytes =>
    let (taken, left) := takeReads bytes operations
    (.ok taken, left)

/-! ### Pins -/

/-- The levels of a line and the faults of its pin. -/
abbrev ScriptedPin := Faults I2c.RecoveryError × List Bool

/-- The pins of both lines. -/
structure ScriptedPins where
  /-- The pin of the clock. -/
  clock : ScriptedPin
  /-- The pin of the data line. -/
  data : ScriptedPin

namespace ScriptedPins

/-- An action on the pin of one line. -/
def onPin {α : Type} (wire : I2c.Wire) (action : Action ScriptedPin I2c.RecoveryError α) :
    Action ScriptedPins I2c.RecoveryError α :=
  Action.ofStep fun pins =>
    match wire with
    | .clock =>
      let (outcome, pin) := action.perform pins.clock
      (outcome, { pins with clock := pin })
    | .data =>
      let (outcome, pin) := action.perform pins.data
      (outcome, { pins with data := pin })

/-- The lines as pins. A line is high once its levels are used up. -/
def access : I2c.Pins ScriptedPins I2c.RecoveryError where
  drive wire _ := onPin wire (Faults.guard (pure ()))
  level wire := onPin wire (Faults.guard (Action.ofStep fun levels =>
    let (level, rest) := nextOf true levels
    (.ok level, rest)))
  pause _ pins := pins

end ScriptedPins

end WireBridge.Sim
