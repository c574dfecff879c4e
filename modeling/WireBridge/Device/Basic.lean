/-
**Devices of any family.**

A `Device` is a driver chosen by the family of an address, together with the channel that the device
is on. Thermometers and battery monitors have drivers of their own; all other devices are only
known to be present.

* `Device.ofAddress`, `Device.setUp`: make the driver and let it read its device;
* `Device.sample`, `Device.read`: start the conversion of a quantity, and read its result;
* `Device.sampleFamily`: start the temperature conversion of all devices on a line.
-/

import WireBridge.Device.BatteryMonitor
import WireBridge.Device.Thermometer

namespace WireBridge

/-- The number of a channel, counted from one. -/
abbrev ChannelId := UInt8

/-- The drivers. -/
inductive Driver where
  /-- A device that only answers that it is there. -/
  | presenceOnly (address : Address)
  | thermometer (driver : Thermometer)
  | batteryMonitor (driver : BatteryMonitor)
deriving DecidableEq

namespace Driver

/-- The driver for an address. -/
def ofAddress (address : Address) : Driver :=
  if address.family = Family.thermometer then .thermometer (.unread address .twelve)
  else if address.family = Family.batteryMonitor then .batteryMonitor (.unread address)
  else .presenceOnly address

/-- The address of the device. -/
def address : Driver → Address
  | .presenceOnly address => address
  | .thermometer driver => driver.address
  | .batteryMonitor driver => driver.address

end Driver

/-- A device on a channel. -/
structure Device where
  /-- Where it is. -/
  channel : ChannelId
  /-- How to talk to it. -/
  driver : Driver
deriving DecidableEq

namespace Device

/-- The device with an address, before it was first read. -/
def ofAddress (channel : ChannelId) (address : Address) : Device :=
  ⟨channel, Driver.ofAddress address⟩

/-- Its address. -/
def address (device : Device) : Address := device.driver.address

/-- Its family. -/
def family (device : Device) : FamilyCode := device.address.family

/-- Whether it measures a quantity. -/
def supports (device : Device) (quantity : Quantity) : Bool :=
  (Family.quantities device.family).contains quantity

variable {σ ε α : Type} (master : Master σ ε)

/-- What an action of a driver does to a device, given how the changed driver is stored. -/
def withDriver {δ : Type} (channel : ChannelId) (driver : δ) (store : δ → Driver)
    (action : Action (δ × σ) (BusError ε) α) : Action (Device × σ) (BusError ε) α :=
  Action.ofStep fun (_, line) =>
    let (outcome, (changed, reached)) := action.perform (driver, line)
    (outcome, (⟨channel, store changed⟩, reached))

/-- Let the driver read its device. -/
def setUp : Action (Device × σ) (BusError ε) Unit := do
  let (device, _) ← Action.current
  match device.driver with
  | .presenceOnly _ => pure ()
  | .thermometer driver =>
    withDriver device.channel driver .thermometer (Thermometer.setUp master)
  | .batteryMonitor driver =>
    withDriver device.channel driver .batteryMonitor (BatteryMonitor.setUp master)

/-- Start a conversion. The result is the time to wait in milliseconds. -/
def sample (quantity : Quantity) : Action (Device × σ) (BusError ε) Nat := do
  let (device, _) ← Action.current
  match device.driver, quantity with
  | .thermometer driver, .temperature => do
    Action.onSecond (driver.sample master)
    pure driver.resolution.conversionTime
  | .batteryMonitor driver, .temperature => do
    Action.onSecond (driver.sampleTemperature master)
    pure (Family.conversionTime Family.batteryMonitor)
  | .batteryMonitor driver, .vad => do
    withDriver device.channel driver .batteryMonitor (BatteryMonitor.sampleVoltage master false)
    pure (Family.conversionTime Family.batteryMonitor)
  | .batteryMonitor driver, .vdd => do
    withDriver device.channel driver .batteryMonitor (BatteryMonitor.sampleVoltage master true)
    pure (Family.conversionTime Family.batteryMonitor)
  | _, _ => Action.fail .unimplemented

/-- Read the result of a conversion. -/
def read (quantity : Quantity) : Action (Device × σ) (BusError ε) Float32 := do
  let (device, _) ← Action.current
  match device.driver, quantity with
  | .thermometer driver, .temperature => do
    let value ← withDriver device.channel driver .thermometer (Thermometer.temperature master)
    pure value.celsius
  | .batteryMonitor driver, .temperature => do
    let value ← withDriver device.channel driver .batteryMonitor (BatteryMonitor.temperature master)
    pure value.celsius
  | .batteryMonitor driver, .vad =>
    withDriver device.channel driver .batteryMonitor (BatteryMonitor.voltage master)
  | .batteryMonitor driver, .vdd =>
    withDriver device.channel driver .batteryMonitor (BatteryMonitor.voltage master)
  | _, _ => Action.fail .unimplemented

/-- Start the temperature conversion of every device on a line, and tell the time to wait for those
of a family. -/
def sampleFamily (family : FamilyCode) : Action σ (BusError ε) Nat :=
  if family = Family.thermometer then do
    Thermometer.sampleLine master
    pure (Family.conversionTime family)
  else if family = Family.batteryMonitor then do
    BatteryMonitor.sampleLine master
    pure (Family.conversionTime family)
  else Action.fail .unimplemented

end Device

end WireBridge
