/-
**Battery monitors (DS2438).**

A battery monitor reports a temperature in units of 1/256 degree and one voltage in hundredths of a
volt. A bit of its configuration register tells which of two inputs a voltage conversion measures.
A driver has the address of its device and the last copy of its page 0 that it read.

* `BatteryMonitor.setUp`: read the page;
* `BatteryMonitor.sampleTemperature`, `BatteryMonitor.sampleVoltage`: start a conversion;
* `BatteryMonitor.temperature`, `BatteryMonitor.voltage`: read a result.
-/

import WireBridge.Device.Quantity
import WireBridge.Device.Scratchpad

namespace WireBridge

/-- The configuration register of a battery monitor. -/
structure MonitorConfig where
  /-- The whole register. -/
  bits : UInt8
deriving DecidableEq

namespace MonitorConfig

/-- The bit that selects the supply as the voltage input. -/
def supplyBit : UInt8 := 0x08

/-- The seven flags, from the lowest bit: current measurement, current accumulator, its shadow in
memory, supply input, temperature busy, memory busy, conversion busy. -/
def flags (config : MonitorConfig) : List Bool :=
  (List.range 7).map fun index => config.bits.toNat.testBit index

/-- Whether a conversion measures the supply. -/
def supply (config : MonitorConfig) : Bool :=
  config.bits &&& supplyBit != 0

/-- The register with another voltage input. -/
def withSupply (config : MonitorConfig) (supply : Bool) : MonitorConfig :=
  ⟨if supply then config.bits ||| supplyBit else config.bits &&& ~~~supplyBit⟩

end MonitorConfig

/-- The driver of a battery monitor. -/
structure BatteryMonitor where
  /-- The device. -/
  address : Address
  /-- The last page read. -/
  page : Scratchpad
deriving DecidableEq

namespace BatteryMonitor

/-- The driver of a device that has not been read yet. -/
def unread (address : Address) : BatteryMonitor := ⟨address, .blank⟩

/-- The configuration register in the cached page. -/
def config (driver : BatteryMonitor) : MonitorConfig := ⟨driver.page[0]⟩

/-- The temperature in a page: thirteen bits, left aligned. -/
def decodeTemperature (page : Scratchpad) : Temperature :=
  ⟨(Word.join page[1] page[2] &&& 0xfff8).toInt16, 8⟩

/-- The voltage register in a page: ten bits. -/
def decodeHundredths (page : Scratchpad) : UInt16 :=
  Word.join page[3] (page[4] &&& 0x03)

/-- Hundredths of a volt in volts. -/
def volts (hundredths : UInt16) : Float32 :=
  hundredths.toFloat32 * 0.01

variable {σ ε : Type} (master : Master σ ε)

/-- The page of the registers. -/
def pageNumber : UInt8 := 0

/-- Read the page. -/
def refresh : Action (BatteryMonitor × σ) (BusError ε) Unit := do
  let (driver, _) ← Action.current
  let page ← Action.onSecond do
    master.select (some driver.address)
    master.writeBytes [FunctionCommand.recallMemory.code, pageNumber]
    Scratchpad.read master driver.address [FunctionCommand.readScratchpad.code, pageNumber]
  Action.update fun (driver, line) => ({ driver with page := page }, line)

/-- Write the cached page and store it. -/
def program (driver : BatteryMonitor) : Action σ (BusError ε) Unit := do
  master.select (some driver.address)
  master.writeBytes [FunctionCommand.writeScratchpad.code, pageNumber]
  master.writeBytes (driver.page.toList.take 8)
  master.select (some driver.address)
  master.writeBytes [FunctionCommand.copyScratchpad.code, pageNumber]

/-- Read the device. -/
def setUp : Action (BatteryMonitor × σ) (BusError ε) Unit := do
  let (driver, _) ← Action.current
  if driver.address.family ≠ Family.batteryMonitor then Action.fail .invalidFamily
  else refresh master

/-- Start a temperature conversion on the device. -/
def sampleTemperature (driver : BatteryMonitor) : Action σ (BusError ε) Unit := do
  master.select (some driver.address)
  master.writeByte FunctionCommand.convertTemperature.code

/-- Start a temperature conversion on every device of the line. -/
def sampleLine : Action σ (BusError ε) Unit := do
  master.select none
  master.writeByte FunctionCommand.convertTemperature.code

/-- Start a voltage conversion, after selecting its input if another one is selected. -/
def sampleVoltage (supply : Bool) : Action (BatteryMonitor × σ) (BusError ε) Unit := do
  refresh master
  let (driver, _) ← Action.current
  if driver.config.supply ≠ supply then do
    let changed :=
      { driver with page := driver.page.set 0 (driver.config.withSupply supply).bits }
    Action.update fun (_, line) => (changed, line)
    Action.onSecond (program master changed)
  Action.onSecond do
    master.select (some driver.address)
    master.writeByte FunctionCommand.convertVoltage.code

/-- Read the temperature. -/
def temperature : Action (BatteryMonitor × σ) (BusError ε) Temperature := do
  refresh master
  let (driver, _) ← Action.current
  pure (decodeTemperature driver.page)

/-- Read the voltage register. -/
def hundredths : Action (BatteryMonitor × σ) (BusError ε) UInt16 := do
  refresh master
  let (driver, _) ← Action.current
  pure (decodeHundredths driver.page)

/-- Read the voltage of the input that was last converted. -/
def voltage : Action (BatteryMonitor × σ) (BusError ε) Float32 := do
  let raw ← hundredths master
  pure (volts raw)

end BatteryMonitor

end WireBridge
