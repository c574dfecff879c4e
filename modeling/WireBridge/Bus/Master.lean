/-
**Bus masters of a 1-Wire line.**

A bus master offers six primitives; everything above it is written in terms of them. `Master σ ε` is
a bus master whose line and hardware together have the state `σ` and whose hardware fails with `ε`.

* `Master.strict`, `Master.withoutTriplets`, `Master.beside`: other bus masters from a bus master;
* `Master.readBytes`, `Master.writeBytes`, `Master.readCode`, `Master.writeCode`: sequences of
  bytes;
* `Master.select`: a reset followed by Match ROM for one device or Skip ROM for all;
* `Master.select_perform`: what a selection makes of the status of its reset.
-/

import WireBridge.Bus.Error
import WireBridge.Rom.Address

namespace WireBridge

/-- The commands that may follow a reset. -/
inductive RomCommand where
  /-- The next 64 bits select one device. -/
  | matchRom
  /-- The next command goes to every device. -/
  | skipRom
  /-- Every device takes part in a search. -/
  | search
  /-- Only devices with an alarm take part in a search. -/
  | conditionalSearch
deriving DecidableEq

/-- The byte of a command. -/
def RomCommand.code : RomCommand → UInt8
  | .matchRom => 0x55
  | .skipRom => 0xcc
  | .search => 0xf0
  | .conditionalSearch => 0xec

/-- What a reset of the line shows. -/
structure ResetStatus where
  /-- At least one device answered. -/
  presence : Bool
  /-- The line is shorted. -/
  shortCircuit : Bool
  /-- The level of the line, if the bus master reports it. -/
  level : Option Bool := none
  /-- The branch taken by the last triplet, if the bus master reports it. -/
  direction : Option Bool := none
deriving DecidableEq

/-- The status of a line on which a device answered, or what is wrong: first of all a short. -/
def ResetStatus.answered {ε : Type} (status : ResetStatus) : Except (BusError ε) ResetStatus :=
  if status.shortCircuit then .error .shortCircuit
  else if !status.presence then .error .noDevicePresent
  else .ok status

/-- The three slots of one search position: two that are read and one that is written. -/
structure Triplet where
  /-- The wired-and of the bit of every device that takes part. -/
  id : Bool
  /-- The wired-and of the complements. -/
  complement : Bool
  /-- The bit that was written; devices with the other bit drop out. -/
  taken : Bool
deriving DecidableEq

/-- A bus master. -/
structure Master (σ ε : Type) where
  /-- Reset the line and look for a presence pulse. -/
  reset : Action σ (BusError ε) ResetStatus
  /-- Write eight slots, least significant bit first. -/
  writeByte : UInt8 → Action σ (BusError ε) Unit
  /-- Read eight slots, least significant bit first. -/
  readByte : Action σ (BusError ε) UInt8
  /-- Write one slot. -/
  writeBit : Bool → Action σ (BusError ε) Unit
  /-- Read one slot. -/
  readBit : Action σ (BusError ε) Bool
  /-- Read two slots and write a third: the bit on which all devices agree, or else the given
  one. -/
  readTriplet : Bool → Action σ (BusError ε) Triplet

namespace Master

variable {σ τ ε : Type} (master : Master σ ε)

/-- The bus master next to something that it does not touch. -/
def beside : Master (σ × τ) ε where
  reset := master.reset.onFirst
  writeByte byte := (master.writeByte byte).onFirst
  readByte := master.readByte.onFirst
  writeBit value := (master.writeBit value).onFirst
  readBit := master.readBit.onFirst
  readTriplet direction := (master.readTriplet direction).onFirst

/-- The bus master with resets that fail unless a device answers. -/
def strict : Master σ ε :=
  { master with
    reset := do
      let status ← master.reset
      Action.ofExcept status.answered }

/-- A strict bus master does not get stricter. -/
@[simp] theorem strict_strict : master.strict.strict = master.strict := by
  have same : master.strict.strict.reset = master.strict.reset := by
    refine Action.ext fun state => ?_
    simp only [strict, Action.perform_bind]
    rcases master.reset.perform state with ⟨error | ⟨presence, short, level, direction⟩, reached⟩
    · rfl
    · cases presence <;> cases short <;> rfl
  show ({ master.strict with reset := master.strict.strict.reset } : Master σ ε) = master.strict
  rw [same]

/-- The bus master without triplets. -/
def withoutTriplets : Master σ ε :=
  { master with readTriplet := fun _ => Action.fail .unimplemented }

/-- Read a number of bytes. -/
def readBytes (count : Nat) : Action σ (BusError ε) (Vector UInt8 count) :=
  Action.collect count master.readByte

/-- Write bytes in order. -/
def writeBytes (bytes : List UInt8) : Action σ (BusError ε) Unit :=
  Action.forEach bytes master.writeByte

/-- Read a 64-bit value, least significant byte first. -/
def readCode : Action σ (BusError ε) Address := do
  let bytes ← master.readBytes 8
  pure (Address.ofBytes bytes.toList)

/-- Write a 64-bit value, least significant byte first. -/
def writeCode (code : Address) : Action σ (BusError ε) Unit :=
  master.writeBytes code.bytes

/-- Reset the line and select one device, or all of them. -/
def select (target : Option Address) : Action σ (BusError ε) Unit := do
  let _ ← master.strict.reset
  match target with
  | some address => do
    master.writeByte RomCommand.matchRom.code
    master.writeCode address
  | none => master.writeByte RomCommand.skipRom.code

/-- What a selection makes of the status of a reset. A short is an error even if a device answered,
and nothing is sent unless one did. -/
theorem select_perform (target : Option Address) (line : σ) :
    (master.select target).perform line =
      match master.reset.perform line with
      | (.ok status, reached) =>
        if status.shortCircuit then (.error .shortCircuit, reached)
        else if !status.presence then (.error .noDevicePresent, reached)
        else
          match target with
          | some address =>
            (master.writeByte RomCommand.matchRom.code >>= fun _ =>
              master.writeCode address).perform reached
          | none => (master.writeByte RomCommand.skipRom.code).perform reached
      | (.error error, reached) => (.error error, reached) := by
  unfold select strict
  rw [Action.perform_bind, Action.perform_bind]
  rcases master.reset.perform line with ⟨error | ⟨presence, short, level, direction⟩, reached⟩
  · rfl
  · cases presence <;> cases short <;> cases target <;> rfl

end Master

end WireBridge
