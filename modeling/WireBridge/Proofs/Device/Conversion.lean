/-
**Conversions that were run.**

* `Sim.Ran`: a conversion of a quantity was the last that happened to a device;
* `Sim.Drives.leads_ranSample`: the driver of a device runs the one that it is asked for;
* `Sim.Drives.keeps_ranSample`: other drivers do not touch the device, and its own one runs the same
  conversion again;
* `Sim.Drives.leads_ranSampleFamily`: a conversion for a whole line runs on each of its devices.
-/

import WireBridge.Proofs.Device.Temperature

namespace WireBridge

open WireBridge.Action (Leads Keeps)
open Sim.Device (Later)

namespace Sim

variable {σ ε α : Type} {master : Master σ ε} {line : σ → Line} {code other : Address}
  {start device : Device} {quantity : Quantity}

/-! ### Devices -/

/-- The device after it was told to convert a quantity, a voltage from the input that is
selected. -/
def Device.convert (device : Device) : Quantity → Device
  | .presence => device
  | .temperature => device.convertTemperature
  | .vad => device.convertVoltage
  | .vdd => device.convertVoltage

/-- The last that happened to a device after some start was a conversion of a quantity. If that is a
voltage and the device has inputs, the right one was selected. -/
def Ran (quantity : Quantity) (start finish : Device) : Prop :=
  ∃ ready, Later start ready ∧ finish = ready.convert quantity ∧
    ∀ supply, quantity.supply? = some supply →
      ∀ selected, ready.supplySelected? = some selected → selected = supply

namespace Device

theorem later_convert (quantity : Quantity) : Later device (device.convert quantity) := by
  cases quantity with
  | presence => exact .refl device
  | temperature => exact device.later_convertTemperature
  | vad => exact device.later_convertVoltage
  | vdd => exact device.later_convertVoltage

theorem supplySelected?_selectInput (supply : Bool) :
    (device.selectInput supply).supplySelected? = device.supplySelected?.map fun _ => supply := by
  obtain ⟨address, model, corrupt, conversions⟩ := device
  cases model with
  | batteryMonitor celsius vad vdd registers =>
    show some (Line.storeRegister registers 0
      (registers.config.withSupply supply).bits).config.supply = some supply
    rw [registers.config_storeRegister_zero, MonitorConfig.supply_withSupply]
  | _ => rfl

/-- Only battery monitors have inputs. -/
theorem batteryMonitor_of_supplySelected? (inputs : device.supplySelected? ≠ none) :
    ∃ celsius vad vdd registers, device.model = .batteryMonitor celsius vad vdd registers := by
  unfold supplySelected? at inputs
  split at inputs
  · next celsius vad vdd registers model => exact ⟨celsius, vad, vdd, registers, model⟩
  · exact absurd rfl inputs

/-- A device does not get inputs. -/
theorem Later.supplySelected?_eq_none {before after : Device} (later : Later before after)
    (noInputs : before.supplySelected? = none) : after.supplySelected? = none := by
  have same := later.model
  unfold supplySelected? at noInputs ⊢
  cases model : before.model with
  | batteryMonitor celsius vad vdd registers =>
    rw [model] at noInputs
    exact absurd noInputs (Option.some_ne_none _)
  | _ =>
    rw [model] at same
    cases afterwards : after.model with
    | batteryMonitor => exact absurd (afterwards ▸ same) (by simp [Model.atPowerOn])
    | _ => rfl

end Device

theorem Ran.later {finish : Device} (ran : Ran quantity start finish) : Later start finish := by
  obtain ⟨ready, later, rfl, _⟩ := ran
  exact later.trans (Device.later_convert quantity)

/-- A voltage conversion of a device with inputs is counted. -/
theorem Ran.conversions_lt {finish : Device} (ran : Ran quantity start finish)
    (voltage : quantity.supply? ≠ none) (inputs : finish.supplySelected? ≠ none) :
    start.conversions < finish.conversions := by
  obtain ⟨ready, later, rfl, _⟩ := ran
  have converts : ready.convert quantity = ready.convertVoltage := by
    cases quantity with
    | presence => exact absurd rfl voltage
    | temperature => exact absurd rfl voltage
    | vad => rfl
    | vdd => rfl
  have had : ready.supplySelected? ≠ none := fun none =>
    inputs ((Device.later_convert quantity).supplySelected?_eq_none none)
  obtain ⟨_, _, _, _, model⟩ := Device.batteryMonitor_of_supplySelected? had
  rw [converts]
  unfold Device.convertVoltage
  rw [model]
  exact Nat.lt_succ_of_le later.conversions

theorem Ran.convertTemperature (later : Later start device) :
    Ran .temperature start device.convertTemperature :=
  ⟨device, later, rfl, fun _ none => absurd none (Option.some_ne_none _).symm⟩

/-- The input that a driver selected. -/
theorem Ran.convertVoltage (later : Later start device) (supply : Bool) :
    ∃ ready, Later start ready ∧ (device.selectInput supply).convertVoltage = ready.convertVoltage ∧
      ∀ selected, ready.supplySelected? = some selected → selected = supply := by
  refine ⟨device.selectInput supply, later.trans (Device.later_selectInput supply), rfl, ?_⟩
  intro selected found
  rw [Device.supplySelected?_selectInput] at found
  obtain ⟨_, _, rfl⟩ := Option.map_eq_some_iff.mp found
  rfl

/-- What a driver does to measure a quantity ends with its conversion. -/
theorem Ran.measure (later : Later start device) :
    Ran quantity start (device.measure quantity) := by
  cases quantity with
  | presence => exact ⟨device, later, rfl, fun _ none => absurd none (Option.some_ne_none _).symm⟩
  | temperature => exact .convertTemperature later
  | vad =>
    obtain ⟨ready, there, same, selects⟩ := Ran.convertVoltage later false
    exact ⟨ready, there, same, fun _ named => Option.some.inj named ▸ selects⟩
  | vdd =>
    obtain ⟨ready, there, same, selects⟩ := Ran.convertVoltage later true
    exact ⟨ready, there, same, fun _ named => Option.some.inj named ▸ selects⟩

/-- A voltage conversion does nothing to a device without inputs. -/
theorem Ran.idle (later : Later start device) (voltage : quantity.supply? ≠ none)
    (noInputs : device.supplySelected? = none) : Ran quantity start device := by
  have idle : device.convertVoltage = device := by
    unfold Device.convertVoltage
    split
    · next model =>
      unfold Device.supplySelected? at noInputs
      rw [model] at noInputs
      exact absurd noInputs (Option.some_ne_none _)
    · rfl
  refine ⟨device, later, ?_, fun _ _ selected found => ?_⟩
  · cases quantity with
    | presence => exact absurd rfl voltage
    | temperature => exact absurd rfl voltage
    | vad => exact idle.symm
    | vdd => exact idle.symm
  · exact absurd (found.symm.trans noInputs) (Option.some_ne_none selected)

/-! ### Lines -/

/-- What only lets the devices of a line evolve. -/
theorem keeps_later {action : Action σ (BusError ε) α}
    (evolves : ∀ start : Line, Keeps (fun state => start.Evolves (line state)) action) :
    Keeps (fun state => (line state).Has code (Later start)) action := by
  refine Action.keeps_iff.mpr ?_
  rintro state ⟨device, found, later⟩
  have reached := Action.keeps_iff.mp (evolves (line state)) state (.of_devices rfl)
  exact (reached.has found).mono fun _ => later.trans

variable (drives : Drives master line)

include drives

/-- Its own driver runs a conversion on a device. -/
theorem Drives.leads_ranOwn (later : Later start device) :
    Leads
      (fun state : WireBridge.Device × σ =>
        state.1.driver.Fits code ∧ (line state.2).Has code (· = device))
      (Device.sample master quantity)
      (fun _ state => (line state.2).Has code (Ran quantity start))
      fun state => (line state.2).Has code fun own => own = device ∨ Ran quantity start own := by
  by_cases idle : quantity.supply? ≠ none ∧ device.supplySelected? = none
  · have evolves :
        Keeps (fun state : WireBridge.Device × σ => (line state.2).Has code (Later device))
          (Device.sample master quantity) :=
      keeps_later fun here => (drives.spares here).keeps_sample quantity
    have ran : ∀ own, Later device own → Ran quantity start own := fun own since =>
      .idle (later.trans since) idle.1 (since.supplySelected?_eq_none idle.2)
    refine (evolves.mono (fun _ _ there => there.mono ran) fun _ there =>
      there.mono fun own since => .inr (ran own since)).of_imp ?_
    rintro state ⟨_, _, found, rfl⟩
    exact ⟨_, found, .refl _⟩
  · refine (drives.leads_ownSample fun _ asked => Device.batteryMonitor_of_supplySelected?
      fun none => idle ⟨asked, none⟩).mono (fun _ _ there => there.mono ?_)
        fun _ there => there.mono fun _ => .inl
    rintro _ rfl
    exact .measure later

/-- **The driver of a device runs the conversion** that it is asked for. -/
theorem Drives.leads_ranSample :
    Leads
      (fun state : WireBridge.Device × σ =>
        state.1.driver.Fits code ∧ (line state.2).Has code (Later start))
      (Device.sample master quantity)
      (fun _ state => (line state.2).Has code (Ran quantity start))
      fun state => (line state.2).Has code (Later start) := by
  rintro state ⟨fits, device, found, later⟩
  refine (drives.leads_ranOwn later).mono (fun _ _ there => there)
    (fun _ there => there.mono ?_) state ⟨fits, device, found, rfl⟩
  rintro own (rfl | ran)
  · exact later
  · exact ran.later

/-- **Other drivers** do not touch the device, and its own one runs the same conversion again. -/
theorem Drives.keeps_ranSample :
    Leads
      (fun state : WireBridge.Device × σ =>
        state.1.driver.Fits other ∧ (line state.2).Has code (Ran quantity start))
      (Device.sample master quantity)
      (fun _ state => (line state.2).Has code (Ran quantity start))
      fun state => (line state.2).Has code (Ran quantity start) := by
  by_cases own : other = code
  · subst own
    rintro state ⟨fits, device, found, ran⟩
    refine (drives.leads_ranOwn ran.later).mono (fun _ _ there => there)
      (fun _ there => there.mono ?_) state ⟨fits, device, found, rfl⟩
    rintro _ (rfl | again)
    · exact ran
    · exact again
  · exact drives.leads_otherSample own quantity

/-- **A conversion for a whole line** runs on each of its devices. -/
theorem Drives.leads_ranSampleFamily (family : FamilyCode) :
    Leads (fun state => (line state).Has code (Later start)) (Device.sampleFamily master family)
      (fun _ state => (line state).Has code (Ran .temperature start))
      fun state => (line state).Has code (Later start) := by
  refine Device.leads_sampleFamily ?_ (fun _ here => here) family
  rintro state ⟨device, found, later⟩
  refine drives.leads_convertAll.mono (fun _ _ there => there.mono ?_) (fun _ there => there) state
    ⟨device, found, rfl⟩
  rintro _ rfl
  exact .convertTemperature later

theorem Drives.keeps_ranSampleFamily (family : FamilyCode) :
    Keeps (fun state => (line state).Has code (Ran .temperature start))
      (Device.sampleFamily master family) :=
  Device.leads_sampleFamily
    (drives.keeps_convertTemperature none fun _ ran => .convertTemperature ran.later)
    (fun _ here => here) family

end Sim

end WireBridge
