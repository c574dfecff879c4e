/-
**Models of devices.**

A simulated device has a ROM code, the quantities it measures, and registers that show what its last
conversion measured. Until the first conversion the registers hold their power-on contents.

* `Sim.Model.thermometer`, `Sim.Model.batteryMonitor`: the two kinds of device that convert;
* `Sim.Device.convertTemperature`, `Sim.Device.convertVoltage`: conversions.

A device counts its conversions in thirty-two bits. Here the count is a natural number, the same one
as long as it is below `2 ^ 32`; `Sim.Line.Moderate` says so of all devices on a line.
-/

import WireBridge.Device.BatteryMonitor
import WireBridge.Device.Thermometer

namespace WireBridge.Sim

/-- The eight registers of a device. -/
abbrev Registers := Vector UInt8 8

/-- The registers of a thermometer at power-on, which show 85 degrees. -/
def thermometerPowerOn : Registers := #v[0x50, 0x05, 0x4b, 0x46, 0x7f, 0xff, 0x0c, 0x10]

/-- The registers of a battery monitor at power-on. -/
def monitorPowerOn : Registers := #v[0x0f, 0, 0, 0, 0, 0, 0, 0]

/-- What a device measures and shows. -/
inductive Model where
  /-- A device that only answers search and presence. -/
  | presenceOnly
  /-- A thermometer. -/
  | thermometer (celsius : Float32) (registers : Registers)
  /-- A battery monitor with the voltages at its two inputs. -/
  | batteryMonitor (celsius vad vdd : Float32) (registers : Registers)

/-- A simulated device. -/
structure Device where
  /-- Its ROM code. -/
  address : Address
  /-- What it measures. -/
  model : Model
  /-- The scratchpads it sends have a flipped bit. -/
  corrupt : Bool
  /-- The conversions it has run. -/
  conversions : Nat

/-- The register value of a temperature in sixteenths of a degree, cut towards zero. -/
def sixteenths (celsius : Float32) : Int16 := (celsius * 16.0).toInt16

/-- The register value of a temperature in units of 1/256 degree, cut towards zero. -/
def fineUnits (celsius : Float32) : Int16 := (celsius * 256.0).toInt16

/-- The register value of a voltage in hundredths, rounded. -/
def hundredths (volts : Float32) : UInt16 := (volts * 100.0 + 0.5).toUInt16

/-- Registers with a word stored low byte first. -/
def storeWord (registers : Registers) (offset : Fin 7) (word : UInt16) : Registers :=
  (registers.set offset.val (Word.low word)).set (offset.val + 1) (Word.high word)

/-- The configuration register of a thermometer, which has its resolution. -/
abbrev Registers.resolution (registers : Registers) : UInt8 := registers[4]

/-- The configuration register of a battery monitor. -/
abbrev Registers.config (registers : Registers) : MonitorConfig := ⟨registers[0]⟩

/-- The bits of a thermometer's temperature register that its configuration register defines. -/
def resolutionMask (config : UInt8) : UInt16 :=
  match ((config >>> 5) &&& 3).toNat with
  | 0 => 0xfff8
  | 1 => 0xfffc
  | 2 => 0xfffe
  | _ => 0xffff

namespace Device

/-- A device as it is attached. -/
def fresh (address : Address) (model : Model) : Device := ⟨address, model, false, 0⟩

/-- A temperature conversion. -/
def convertTemperature (device : Device) : Device :=
  match device.model with
  | .presenceOnly => device
  | .thermometer celsius registers =>
    let word := (sixteenths celsius).toUInt16 &&& resolutionMask registers.resolution
    { device with
      model := .thermometer celsius (storeWord registers 0 word)
      conversions := device.conversions + 1 }
  | .batteryMonitor celsius vad vdd registers =>
    let word := (fineUnits celsius).toUInt16 &&& 0xfff8
    { device with
      model := .batteryMonitor celsius vad vdd (storeWord registers 1 word)
      conversions := device.conversions + 1 }

/-- A voltage conversion of the selected input. -/
def convertVoltage (device : Device) : Device :=
  match device.model with
  | .batteryMonitor celsius vad vdd registers =>
    let volts := if registers.config.supply then vdd else vad
    let word := hundredths volts &&& 0x03ff
    { device with
      model := .batteryMonitor celsius vad vdd (storeWord registers 3 word)
      conversions := device.conversions + 1 }
  | _ => device

/-- The voltage input that a battery monitor converts, true for its supply. -/
def supplySelected? (device : Device) : Option Bool :=
  match device.model with
  | .batteryMonitor _ _ _ registers => some registers.config.supply
  | _ => none

/-- The device at another temperature. -/
def withTemperature (celsius : Float32) (device : Device) : Device :=
  match device.model with
  | .presenceOnly => device
  | .thermometer _ registers => { device with model := .thermometer celsius registers }
  | .batteryMonitor _ vad vdd registers =>
    { device with model := .batteryMonitor celsius vad vdd registers }

/-- The device with other voltages at its inputs. -/
def withVoltages (vad vdd : Float32) (device : Device) : Device :=
  match device.model with
  | .batteryMonitor celsius _ _ registers =>
    { device with model := .batteryMonitor celsius vad vdd registers }
  | _ => device

/-- What a device sends for some registers: these and their check byte. A corrupt device flips the
lowest bit of the first register without changing the check byte. -/
def transmission (device : Device) (registers : Registers) : List UInt8 :=
  let bytes := registers.toList ++ [Crc.check registers.toList]
  if device.corrupt then bytes.modifyHead (· ^^^ 1) else bytes

end Device

end WireBridge.Sim
