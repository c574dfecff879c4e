/-
**Devices of any family on a simulated line.**

* `Sim.Drives.keeps_setUp`, `Sim.Drives.keeps_sample`, `Sim.Drives.keeps_deviceRead`: what devices
  do leaves the voltage that a battery monitor shows, unless its other voltage is converted
  (`Quantity.Spares`);
* `Sim.Drives.leads_sample`, `Sim.Drives.leads_deviceRead`: the two phases of reading a voltage.
-/

import WireBridge.Proofs.Device.Drivers
import WireBridge.Proofs.Device.Lines

namespace WireBridge

open WireBridge.Action (Leads Keeps)

variable {σ ε : Type} {code : Address}

/-- Converting the quantity leaves the voltage that a battery monitor shows. -/
def Quantity.Spares (shown : Option Bool) (quantity : Quantity) : Prop :=
  ∀ supply, quantity.supply? = some supply → shown = none ∨ shown = some supply

namespace Sim

/-! ### What devices leave on a line -/

variable {master : Master σ ε} {line : σ → Line} {vad vdd : Float32} {shown : Option Bool}
  {other : Address}

theorem Shows.weaken {supply : Bool} (spared : shown = none ∨ shown = some supply)
    (device : Device) (shows : Shows vad vdd (some supply) device) :
    Shows vad vdd shown device := by
  rcases spared with rfl | rfl
  · obtain ⟨celsius, registers, showing⟩ := shows
    exact ⟨celsius, registers, showing.model, fun _ named => absurd named (by simp)⟩
  · exact shows

theorem Drives.keeps_setUp (drives : Drives master line)
    (monitor : code.family = Family.batteryMonitor) :
    Leads
      (fun state : WireBridge.Device × σ =>
        state.1.driver.Fits other ∧ (line state.2).Has code (Shows vad vdd shown))
      (Device.setUp master) (fun _ state => (line state.2).Has code (Shows vad vdd shown))
      fun state => (line state.2).Has code (Shows vad vdd shown) := by
  refine Action.leads_current_bind ?_
  rintro ⟨⟨channel, driver⟩, here⟩ ⟨fits, has⟩
  cases driver with
  | presenceOnly address => exact Action.leads_pure fun _ same => same ▸ has
  | batteryMonitor driver =>
    refine Device.leads_withDriver ?_ drives.keeps_monitorSetUp
    rintro _ rfl
    exact has
  | thermometer driver =>
    have different : driver.address ≠ code := by
      intro same
      rw [← same, fits.1, fits.2] at monitor
      exact absurd monitor (by decide)
    refine Device.leads_withDriver ?_
      (drives.keeps_thermometerSetUp.mono (fun _ _ kept => kept.2) fun _ kept => kept.2)
    rintro _ rfl
    exact ⟨different, has⟩

/-- **Starting a conversion** leaves what a battery monitor shows, unless it is that of its other
voltage. -/
theorem Drives.keeps_sample (drives : Drives master line) {quantity : Quantity}
    (spares : other = code → quantity.Spares shown) :
    Leads
      (fun state : WireBridge.Device × σ =>
        state.1.driver.Fits other ∧ (line state.2).Has code (Shows vad vdd shown))
      (Device.sample master quantity)
      (fun _ state => (line state.2).Has code (Shows vad vdd shown))
      fun state => (line state.2).Has code (Shows vad vdd shown) := by
  refine Device.leads_sample (fun _ start => start.2) (fun _ device here start => ?_) ?_
  · have converts : Keeps (fun state => (line state).Has code (Shows vad vdd shown)) (do
        master.select (some device.address)
        master.writeByte FunctionCommand.convertTemperature.code) :=
      drives.keeps_convertTemperature _ Shows.convertTemperature
    exact converts.of_imp fun _ same => same ▸ start.2
  · rintro supply asked channel driver here ⟨fits, has⟩
    by_cases own : driver.address = code
    · refine ((drives.leads_sampleVoltage supply).mono
        (fun _ _ has => has.mono (Shows.weaken (spares (fits.1.symm.trans own) supply asked)))
        fun _ has => has).of_imp ?_
      rintro _ rfl
      exact ⟨own, has⟩
    · refine (drives.keeps_otherSampleVoltage supply).of_imp ?_
      rintro _ rfl
      exact ⟨own, has⟩

/-- **A conversion that was started** is that of the voltage that was asked for. -/
theorem Drives.leads_sample (drives : Drives master line) {quantity : Quantity} {supply : Bool}
    (voltage : quantity.supply? = some supply) :
    Leads
      (fun state : WireBridge.Device × σ =>
        state.1.driver.Fits code ∧ (line state.2).Has code (Shows vad vdd shown))
      (Device.sample master quantity)
      (fun _ state => (line state.2).Has code (Shows vad vdd (some supply)))
      fun state => (line state.2).Has code (Shows vad vdd shown) := by
  refine Device.leads_sample (fun _ start => start.2) ?_ ?_
  · rintro rfl
    exact absurd voltage (Option.some_ne_none supply).symm
  · rintro other asked channel driver here ⟨fits, has⟩
    obtain rfl := Option.some.inj (voltage.symm.trans asked)
    refine (drives.leads_sampleVoltage supply).of_imp ?_
    rintro _ rfl
    exact ⟨fits.1, has⟩

/-- Temperature conversions of a whole line. -/
theorem Drives.keeps_sampleFamily (drives : Drives master line) (family : FamilyCode) :
    Keeps (fun state => (line state).Has code (Shows vad vdd shown))
      (Device.sampleFamily master family) :=
  Device.leads_sampleFamily (drives.keeps_convertTemperature none Shows.convertTemperature)
    (fun _ kept => kept) family

/-- **Reading a result** leaves what a battery monitor shows. -/
theorem Drives.keeps_deviceRead (drives : Drives master line)
    (monitor : code.family = Family.batteryMonitor) (quantity : Quantity) :
    Leads
      (fun state : WireBridge.Device × σ =>
        state.1.driver.Fits other ∧ (line state.2).Has code (Shows vad vdd shown))
      (Device.read master quantity) (fun _ state => (line state.2).Has code (Shows vad vdd shown))
      fun state => (line state.2).Has code (Shows vad vdd shown) := by
  refine Device.leads_read (fun _ start => start.2) ?_ ?_ ?_
  · rintro _ channel driver here ⟨fits, has⟩
    have different : driver.address ≠ code := by
      intro same
      rw [← same, fits.1, fits.2] at monitor
      exact absurd monitor (by decide)
    have reads : Leads
        (fun state : Thermometer × σ =>
          state.1.address ≠ code ∧ (line state.2).Has code (Shows vad vdd shown))
        (Thermometer.temperature master)
        (fun _ state => (line state.2).Has code (Shows vad vdd shown))
        fun state => (line state.2).Has code (Shows vad vdd shown) := by
      refine Action.leads_bind _ (drives.keeps_thermometerRefresh.mono (fun _ _ kept => kept.2)
        fun _ kept => kept.2) fun _ => ?_
      exact Action.leads_current_bind fun _ has => Action.leads_pure fun _ same => same ▸ has
    refine reads.of_imp ?_
    rintro _ rfl
    exact ⟨different, has⟩
  · exact fun _ _ _ _ start => drives.keeps_monitorTemperature.of_imp fun _ same => same ▸ start.2
  · exact fun _ _ _ _ start => drives.keeps_voltage.of_imp fun _ same => same ▸ start.2

/-- **The voltage that is read** is the one that the battery monitor shows, whichever was asked
for. -/
theorem Drives.leads_deviceRead (drives : Drives master line) {quantity : Quantity}
    (measured : quantity.supply? ≠ none) {supply : Bool} :
    Leads
      (fun state : WireBridge.Device × σ =>
        state.1.driver.Fits code ∧ (line state.2).Has code (Shows vad vdd (some supply)))
      (Device.read master quantity)
      (fun value _ => value = BatteryMonitor.volts (converted vad vdd supply)) fun _ => True := by
  refine Device.leads_read (fun _ _ => trivial) ?_ ?_ ?_
  · rintro rfl
    exact absurd rfl measured
  · rintro rfl
    exact absurd rfl measured
  · rintro _ channel driver here ⟨fits, has⟩ _ rfl
    exact drives.leads_voltage (driver, here) ⟨fits.1, has⟩

end Sim

end WireBridge
