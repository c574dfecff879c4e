/-
**Thermometers (DS18B20).**

A thermometer reports its temperature in sixteenths of a degree, with fewer defined bits at a lower
resolution. A driver has the address of its device, the resolution that was asked for, and the last
scratchpad it read.

* `Thermometer.setUp`: read the device and program its resolution if it differs;
* `Thermometer.sample`, `Thermometer.sampleLine`: start a conversion, on one device or on all;
* `Thermometer.temperature`: read the result.
-/

import WireBridge.Device.Quantity
import WireBridge.Device.Scratchpad

namespace WireBridge

/-- The number of bits of a temperature conversion. -/
inductive Resolution where
  | nine
  | ten
  | eleven
  | twelve
deriving DecidableEq

namespace Resolution

/-- All resolutions. -/
def all : List Resolution := [.nine, .ten, .eleven, .twelve]

/-- The configuration register for a resolution. -/
def code : Resolution → UInt8
  | .nine => 0x1f
  | .ten => 0x3f
  | .eleven => 0x5f
  | .twelve => 0x7f

/-- The resolution of a configuration register. -/
def ofCode? (byte : UInt8) : Option Resolution :=
  all.find? fun resolution => resolution.code == byte

/-- The time of a conversion in milliseconds. -/
def conversionTime : Resolution → Nat
  | .nine => 94
  | .ten => 188
  | .eleven => 375
  | .twelve => 750

/-- The bits of the temperature register that are defined. -/
def mask : Resolution → UInt16
  | .nine => 0xfff8
  | .ten => 0xfffc
  | .eleven => 0xfffe
  | .twelve => 0xffff

end Resolution

/-- The driver of a thermometer. -/
structure Thermometer where
  /-- The device. -/
  address : Address
  /-- The resolution to program. -/
  resolution : Resolution
  /-- The last scratchpad read. -/
  scratchpad : Scratchpad
deriving DecidableEq

namespace Thermometer

/-- The driver of a device that has not been read yet. -/
def unread (address : Address) (resolution : Resolution) : Thermometer :=
  ⟨address, resolution, .blank⟩

/-- The temperature in a scratchpad, at a resolution. -/
def decode (resolution : Resolution) (scratchpad : Scratchpad) : Temperature :=
  ⟨(Word.join (scratchpad.get 0) (scratchpad.get 1) &&& resolution.mask).toInt16, 4⟩

variable {σ ε : Type} (master : Master σ ε)

/-- Read the scratchpad. -/
def refresh : Action (Thermometer × σ) (BusError ε) Unit := do
  let (driver, _) ← Action.current
  let scratchpad ← Action.onSecond
    (Scratchpad.read master driver.address [FunctionCommand.readScratchpad.code])
  Action.update fun (driver, line) => ({ driver with scratchpad := scratchpad }, line)

/-- Write the alarm and configuration registers of the cached scratchpad and store them. -/
def program (driver : Thermometer) : Action σ (BusError ε) Unit := do
  master.select (some driver.address)
  master.writeByte FunctionCommand.writeScratchpad.code
  master.writeBytes [driver.scratchpad.get 2, driver.scratchpad.get 3, driver.scratchpad.get 4]
  master.select (some driver.address)
  master.writeByte FunctionCommand.copyScratchpad.code

/-- Read the device and program the resolution if it differs. -/
def setUp : Action (Thermometer × σ) (BusError ε) Unit := do
  let (driver, _) ← Action.current
  if driver.address.family ≠ Family.thermometer then Action.fail .invalidFamily
  else do
    refresh master
    let (current, _) ← Action.current
    let wanted := driver.resolution.code
    if current.scratchpad.get 4 = wanted then pure ()
    else do
      let changed := { current with scratchpad := current.scratchpad.setIfInBounds 4 wanted }
      Action.update fun (_, line) => (changed, line)
      Action.onSecond (program master changed)

/-- Start a conversion on the device. -/
def sample (driver : Thermometer) : Action σ (BusError ε) Unit := do
  master.select (some driver.address)
  master.writeByte FunctionCommand.convertTemperature.code

/-- Start a conversion on every device of the line. -/
def sampleLine : Action σ (BusError ε) Unit := do
  master.select none
  master.writeByte FunctionCommand.convertTemperature.code

/-- Read the temperature. -/
def temperature : Action (Thermometer × σ) (BusError ε) Temperature := do
  refresh master
  let (driver, _) ← Action.current
  pure (decode driver.resolution driver.scratchpad)

end Thermometer

end WireBridge
