/-
**Conditions that no driver ends.**

* `Sim.Device.measure`: what measuring a quantity makes of a device;
* `Sim.Drives.leads_ownSample`: its driver does that to the device on the line;
* `Sim.Steady`: a condition on a device that every measurement keeps. Nothing that drivers do ends
  it (`Sim.Drives.steady_sample` and the like), and neither does looking for devices
  (`Sim.Drives.steady_calm`).
-/

import WireBridge.Proofs.Device.Own
import WireBridge.Proofs.Sim.Looking

namespace WireBridge.Sim

open WireBridge.Action (Leads Keeps)

variable {σ ε : Type} {master : Master σ ε} {line : σ → Line} {code other : Address}
  {device : Device} {holds : Device → Prop}

/-- The device after a quantity was measured. -/
def Device.measure (device : Device) : Quantity → Device
  | .presence => device
  | .temperature => device.convertTemperature
  | .vad => (device.selectInput false).convertVoltage
  | .vdd => (device.selectInput true).convertVoltage

/-- The registers of a thermometer ask for its full resolution. -/
def Device.Precise (device : Device) : Prop :=
  match device.model with
  | .thermometer _ registers => registers.resolution = Resolution.twelve.code
  | _ => True

theorem Device.Suits.thermometer (suits : device.Suits)
    (family : device.address.family = Family.thermometer) :
    ∃ celsius registers, device.model = .thermometer celsius registers := by
  unfold Suits at suits
  split at suits
  · exact absurd family suits.1
  · next celsius registers model => exact ⟨celsius, registers, model⟩
  · rw [family] at suits
    exact absurd suits (by decide)

theorem Device.Suits.batteryMonitor (suits : device.Suits)
    (family : device.address.family = Family.batteryMonitor) :
    ∃ celsius vad vdd registers, device.model = .batteryMonitor celsius vad vdd registers := by
  unfold Suits at suits
  split at suits
  · exact absurd family suits.2
  · rw [family] at suits
    exact absurd suits (by decide)
  · next celsius vad vdd registers model => exact ⟨celsius, vad, vdd, registers, model⟩

/-- What is done to a device that satisfies a condition. -/
theorem leads_of_has {δ α : Type} {driver : δ} {action : Action (δ × σ) (BusError ε) α}
    {after : α → δ × σ → Prop} {failed : δ × σ → Prop}
    (each : ∀ device, device.address = code → holds device →
      Leads (fun state : δ × σ => state.1 = driver ∧ (line state.2).Has code (· = device)) action
        after failed) :
    Leads (fun state : δ × σ => state.1 = driver ∧ (line state.2).Has code holds) action after
      failed := by
  rintro state ⟨same, device, found, known⟩
  have has : (line state.2).Has code (· = device) := ⟨device, found, rfl⟩
  exact each device has.address_eq known state ⟨same, has⟩

/-! ### Measurements -/

/-- **The driver of a device** measures a quantity on it. -/
theorem Drives.leads_ownSample (drives : Drives master line) {quantity : Quantity}
    (voltage : code.family = Family.batteryMonitor → quantity.supply? ≠ none →
      ∃ celsius vad vdd registers, device.model = .batteryMonitor celsius vad vdd registers) :
    Leads
      (fun state : WireBridge.Device × σ =>
        state.1.driver.Fits code ∧ (line state.2).Has code (· = device))
      (Device.sample master quantity)
      (fun _ state => (line state.2).Has code (· = device.measure quantity))
      fun state => (line state.2).Has code (· = device) := by
  refine Device.leads_sample (fun _ start => start.2) ?_ ?_
  · rintro rfl here current ⟨fits, has⟩
    obtain rfl := fits.address_eq
    exact drives.leads_ownConvert.of_imp fun _ same => same ▸ has
  · rintro supply asked channel driver current ⟨fits, has⟩
    obtain ⟨rfl, family⟩ := fits
    obtain ⟨_, _, _, _, model⟩ := voltage family (asked ▸ Option.some_ne_none supply)
    have measured : device.measure quantity = (device.selectInput supply).convertVoltage := by
      cases quantity with
      | vad => rw [← Option.some.inj asked]; rfl
      | vdd => rw [← Option.some.inj asked]; rfl
      | _ => exact absurd asked (Option.some_ne_none supply).symm
    rw [measured]
    refine ((drives.leads_ownSampleVoltage model supply).mono (fun _ _ there => there)
      fun _ there => there.1).of_imp ?_
    rintro _ rfl
    exact ⟨rfl, has⟩

/-- The driver of another device measures nothing on this one. -/
theorem Drives.leads_otherSample (drives : Drives master line) (different : other ≠ code)
    (quantity : Quantity) :
    Leads
      (fun state : WireBridge.Device × σ =>
        state.1.driver.Fits other ∧ (line state.2).Has code holds)
      (Device.sample master quantity) (fun _ state => (line state.2).Has code holds)
      fun state => (line state.2).Has code holds := by
  refine Device.leads_sample (fun _ start => start.2) ?_ ?_
  · rintro _ device here ⟨fits, has⟩
    obtain rfl := fits.address_eq
    exact (drives.keeps_otherCommand different _).of_imp fun _ same => same ▸ has
  · rintro supply _ channel driver here ⟨fits, has⟩
    obtain ⟨rfl, _⟩ := fits
    refine (drives.keeps_otherSampleVoltage supply).of_imp ?_
    rintro _ rfl
    exact ⟨different, has⟩

/-! ### Steady conditions -/

/-- A condition on a device of the kind that its code says, which no measurement ends. -/
structure Steady (holds : Device → Prop) : Prop where
  suits : ∀ device, holds device → device.Suits
  precise : ∀ device, holds device → device.Precise
  measure : ∀ device quantity, holds device → holds (device.measure quantity)

section Steady

variable (drives : Drives master line) (steady : Steady holds)

include drives steady

/-- Drivers of thermometers read. -/
theorem Drives.steady_thermometerRefresh {driver : Thermometer}
    (family : driver.address.family = Family.thermometer) :
    Leads (fun state : Thermometer × σ => state.1 = driver ∧ (line state.2).Has code holds)
      (Thermometer.refresh master) (fun _ state => (line state.2).Has code holds)
      fun state => (line state.2).Has code holds := by
  by_cases own : driver.address = code
  · subst own
    refine leads_of_has fun device own known => ?_
    obtain ⟨_, _, model⟩ := (steady.suits device known).thermometer (own ▸ family)
    exact (drives.leads_thermometerRefresh model).mono
      (fun _ _ there => there.2.1.mono fun _ same => same ▸ known)
      fun _ there => there.1.mono fun _ same => same ▸ known
  · refine (drives.keeps_thermometerRefresh.mono (fun _ _ there => there.2)
      fun _ there => there.2).of_imp ?_
    rintro state ⟨rfl, has⟩
    exact ⟨own, has⟩

/-- Drivers of thermometers find the full resolution. -/
theorem Drives.steady_thermometerSetUp {driver : Thermometer}
    (family : driver.address.family = Family.thermometer) (full : driver.resolution = .twelve) :
    Leads (fun state : Thermometer × σ => state.1 = driver ∧ (line state.2).Has code holds)
      (Thermometer.setUp master) (fun _ state => (line state.2).Has code holds)
      fun state => (line state.2).Has code holds := by
  by_cases own : driver.address = code
  · subst own
    refine leads_of_has fun device own known => ?_
    obtain ⟨_, _, model⟩ := (steady.suits device known).thermometer (own ▸ family)
    refine (drives.leads_thermometerSetUp family model).mono (fun _ _ there => ?_)
      fun _ there => there.1.mono fun _ same => same ▸ known
    have precise := steady.precise device known
    unfold Device.Precise at precise
    rw [model] at precise
    rw [full, ← precise, Device.configure_resolution model] at there
    exact there.2.mono fun _ same => same ▸ known
  · refine (drives.keeps_thermometerSetUp.mono (fun _ _ there => there.2)
      fun _ there => there.2).of_imp ?_
    rintro state ⟨rfl, has⟩
    exact ⟨own, has⟩

/-- Drivers of battery monitors read. -/
theorem Drives.steady_monitorRefresh {driver : BatteryMonitor}
    (family : driver.address.family = Family.batteryMonitor) :
    Leads (fun state : BatteryMonitor × σ => state.1 = driver ∧ (line state.2).Has code holds)
      (BatteryMonitor.refresh master) (fun _ state => (line state.2).Has code holds)
      fun state => (line state.2).Has code holds := by
  by_cases own : driver.address = code
  · subst own
    refine leads_of_has fun device own known => ?_
    obtain ⟨_, _, _, _, model⟩ := (steady.suits device known).batteryMonitor (own ▸ family)
    exact (drives.leads_monitorRefresh model).mono
      (fun _ _ there => there.2.1.mono fun _ same => same ▸ known)
      fun _ there => there.1.mono fun _ same => same ▸ known
  · refine (drives.keeps_otherRefresh.mono (fun _ _ there => there.2)
      fun _ there => there.2).of_imp ?_
    rintro state ⟨rfl, has⟩
    exact ⟨own, has⟩

/-- **Letting a new driver read its device.** -/
theorem Drives.steady_setUp {channel : ChannelId} :
    Leads
      (fun state : WireBridge.Device × σ =>
        state.1 = .ofAddress channel other ∧ (line state.2).Has code holds)
      (Device.setUp master) (fun _ state => (line state.2).Has code holds)
      fun state => (line state.2).Has code holds := by
  refine Action.leads_current_bind ?_
  rintro ⟨_, here⟩ ⟨rfl, has⟩
  dsimp only [Device.ofAddress]
  have fits := Driver.fits_ofAddress other
  cases made : Driver.ofAddress other with
  | presenceOnly address => exact Action.leads_pure fun _ same => same ▸ has
  | thermometer driver =>
    rw [made] at fits
    have full : driver.resolution = .twelve :=
      Driver.resolution_of_forget (by rw [← made, Driver.forget_ofAddress])
    refine Device.leads_withDriver (fun state same => ⟨rfl, same ▸ has⟩)
      (drives.steady_thermometerSetUp steady ?_ full)
    rw [fits.1, fits.2]
  | batteryMonitor driver =>
    rw [made] at fits
    have family : driver.address.family = Family.batteryMonitor := by rw [fits.1, fits.2]
    have sets : Leads
        (fun state : BatteryMonitor × σ => state.1 = driver ∧ (line state.2).Has code holds)
        (BatteryMonitor.setUp master) (fun _ state => (line state.2).Has code holds)
        fun state => (line state.2).Has code holds := by
      refine Action.leads_current_bind fun state start => ?_
      dsimp only
      split
      · exact Action.leads_fail fun _ same => same ▸ start.2
      · exact (drives.steady_monitorRefresh steady family).of_imp fun _ same => same ▸ start
    exact Device.leads_withDriver (fun state same => ⟨rfl, same ▸ has⟩) sets

/-- **Starting a conversion.** -/
theorem Drives.steady_sample (quantity : Quantity) :
    Leads
      (fun state : WireBridge.Device × σ =>
        state.1.driver.Fits other ∧ (line state.2).Has code holds)
      (Device.sample master quantity) (fun _ state => (line state.2).Has code holds)
      fun state => (line state.2).Has code holds := by
  by_cases own : other = code
  · subst own
    rintro state ⟨fits, device, found, known⟩
    have has : (line state.2).Has other (· = device) := ⟨device, found, rfl⟩
    have suits := steady.suits device known
    refine (drives.leads_ownSample (fun family _ =>
      suits.batteryMonitor (has.address_eq ▸ family))).mono
      (fun _ _ there => there.mono ?_) (fun _ there => there.mono ?_) state ⟨fits, has⟩
    · rintro _ rfl
      exact steady.measure device quantity known
    · rintro _ rfl
      exact known
  · exact drives.leads_otherSample own quantity

/-- **Reading a result.** -/
theorem Drives.steady_read (quantity : Quantity) :
    Leads
      (fun state : WireBridge.Device × σ =>
        state.1.driver.Fits other ∧ (line state.2).Has code holds)
      (Device.read master quantity) (fun _ state => (line state.2).Has code holds)
      fun state => (line state.2).Has code holds := by
  refine Device.leads_read (fun _ start => start.2) ?_ ?_ ?_
  · rintro _ channel driver here ⟨fits, has⟩
    have family : driver.address.family = Family.thermometer := by rw [fits.1, fits.2]
    refine (Action.leads_bind _ (drives.steady_thermometerRefresh steady family) fun _ =>
      Action.leads_current_bind fun _ kept =>
        Action.leads_pure fun _ same => same ▸ kept).of_imp ?_
    rintro _ rfl
    exact ⟨rfl, has⟩
  · rintro _ channel driver here ⟨fits, has⟩
    have family : driver.address.family = Family.batteryMonitor := by rw [fits.1, fits.2]
    refine (Action.leads_bind _ (drives.steady_monitorRefresh steady family) fun _ =>
      Action.leads_current_bind fun _ kept =>
        Action.leads_pure fun _ same => same ▸ kept).of_imp ?_
    rintro _ rfl
    exact ⟨rfl, has⟩
  · rintro _ channel driver here ⟨fits, has⟩
    have family : driver.address.family = Family.batteryMonitor := by rw [fits.1, fits.2]
    have hundredths : Leads
        (fun state : BatteryMonitor × σ => state.1 = driver ∧ (line state.2).Has code holds)
        (BatteryMonitor.hundredths master) (fun _ state => (line state.2).Has code holds)
        fun state => (line state.2).Has code holds :=
      Action.leads_bind _ (drives.steady_monitorRefresh steady family) fun _ =>
        Action.leads_current_bind fun _ kept => Action.leads_pure fun _ same => same ▸ kept
    refine (Action.leads_bind _ hundredths fun _ =>
      Action.leads_pure fun _ kept => kept).of_imp ?_
    rintro _ rfl
    exact ⟨rfl, has⟩

/-- **Starting the conversions of a family.** -/
theorem Drives.steady_sampleFamily (family : FamilyCode) :
    Keeps (fun state => (line state).Has code holds) (Device.sampleFamily master family) :=
  Device.leads_sampleFamily
    (drives.keeps_convertTemperature none fun device => steady.measure device .temperature)
    (fun _ kept => kept) family

end Steady

/-- **Looking for devices.** -/
theorem steady_calm {ω : Type} {lines : ChannelId → Master (Line × ω) ε}
    (drives : ∀ id, Drives (lines id) Prod.fst) (steady : Steady holds) (code : Address) :
    Registry.Calm lines fun line => line.Has code holds := by
  refine ⟨fun id family found here world has => ?_, fun id other => ?_, fun id channel other => ?_⟩
  · exact has.of_devices
      ((drives id).passes_devices _ (here, world) (Search.start_kind .normal family) found)
  · exact Action.keeps_iff.mpr fun state has =>
      has.of_devices ((drives id).present_devices other state)
  · exact (drives id).steady_setUp steady

end WireBridge.Sim
