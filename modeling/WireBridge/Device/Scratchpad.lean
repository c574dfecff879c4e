/-
**Scratchpads of devices.**

A device shows its registers in a scratchpad of eight bytes followed by their check byte. Reading it
is always checked.

* `FunctionCommand`: the commands that a selected device takes;
* `Scratchpad.read`: select one device, send a command and read nine checked bytes;
* `Word.join`, `Word.low`, `Word.high`: sixteen-bit registers in two bytes, low byte first.
-/

import WireBridge.Bus.Master

namespace WireBridge

/-- The commands that a selected device takes. -/
inductive FunctionCommand where
  | convertTemperature
  | convertVoltage
  | readScratchpad
  | writeScratchpad
  | copyScratchpad
  | recallMemory
deriving DecidableEq

namespace FunctionCommand

/-- All function commands. -/
def all : List FunctionCommand :=
  [.convertTemperature, .convertVoltage, .readScratchpad, .writeScratchpad, .copyScratchpad,
    .recallMemory]

/-- The byte of a command. -/
def code : FunctionCommand → UInt8
  | .convertTemperature => 0x44
  | .convertVoltage => 0xb4
  | .readScratchpad => 0xbe
  | .writeScratchpad => 0x4e
  | .copyScratchpad => 0x48
  | .recallMemory => 0xb8

/-- The command of a byte. -/
def ofCode? (byte : UInt8) : Option FunctionCommand :=
  all.find? fun command => command.code == byte

end FunctionCommand

/-- Eight registers and their check byte. -/
abbrev Scratchpad := Vector UInt8 9

/-- The scratchpad of a driver that has read nothing yet. -/
def Scratchpad.blank : Scratchpad := Vector.replicate 9 0

/-- Select a device, send a command and read its scratchpad, which has to fit its check byte. -/
def Scratchpad.read {σ ε : Type} (master : Master σ ε) (address : Address) (command : List UInt8) :
    Action σ (BusError ε) Scratchpad := do
  master.select (some address)
  master.writeBytes command
  let bytes ← master.readBytes 9
  if Crc.valid bytes.toList then pure bytes else Action.fail .invalidCrc

namespace Word

/-- The word of two bytes. -/
def join (low high : UInt8) : UInt16 := low.toUInt16 ||| (high.toUInt16 <<< 8)

/-- The low byte of a word. -/
def low (word : UInt16) : UInt8 := word.toUInt8

/-- The high byte of a word. -/
def high (word : UInt16) : UInt8 := (word >>> 8).toUInt8

end Word

/-- A temperature as devices report it: a signed fixed-point number of degrees Celsius. -/
structure Temperature where
  /-- The value in units of the last place. -/
  units : Int16
  /-- The number of binary places. -/
  places : Nat
deriving DecidableEq

/-- The temperature as a floating-point number, which is exact. -/
def Temperature.celsius (temperature : Temperature) : Float32 :=
  temperature.units.toFloat32 / Float32.ofNat (Nat.pow 2 temperature.places)

end WireBridge
