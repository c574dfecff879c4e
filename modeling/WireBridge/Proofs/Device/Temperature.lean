/-
**The temperature that a device shows.**

* `Sim.Device.reading?`: what a conversion at full resolution makes of the temperature of a device;
* `Sim.Device.shown?`: what its registers show, which a conversion makes the same
  (`Sim.Device.shown?_convertTemperature`);
* `Sim.Tempered`: a device at some time after it was attached, with its temperature measured or not.
  No measurement ends this (`Sim.Tempered.steady`);
* `Sim.Drives.leads_readTemperature`: a driver reads what is shown.
-/

import WireBridge.Proofs.Device.Steady

namespace WireBridge.Sim

open WireBridge.Action (Leads Keeps)

variable {σ ε : Type} {master : Master σ ε} {line : σ → Line} {code : Address} {device : Device}

namespace Device

/-- The temperature of a device as a conversion at full resolution tells it: in sixteenths of a
degree, or in 256ths with the lowest three bits cut. -/
def reading? (device : Device) : Option Temperature :=
  match device.model with
  | .presenceOnly => none
  | .thermometer celsius _ => some ⟨sixteenths celsius, 4⟩
  | .batteryMonitor celsius _ _ _ => some ⟨((fineUnits celsius).toUInt16 &&& 0xfff8).toInt16, 8⟩

/-- The temperature in the registers of a device. -/
def shown? (device : Device) : Option Temperature :=
  match device.model with
  | .presenceOnly => none
  | .thermometer _ registers => some (Thermometer.decode .twelve (scratchpadOf registers))
  | .batteryMonitor _ _ _ registers =>
    some (BatteryMonitor.decodeTemperature (scratchpadOf registers))

theorem reading?_asAttached (device : Device) : device.asAttached.reading? = device.reading? := by
  obtain ⟨address, model, corrupt, conversions⟩ := device
  cases model <;> rfl

theorem decode_scratchpadOf (registers : Registers) (resolution : Resolution) :
    Thermometer.decode resolution (scratchpadOf registers) =
      ⟨(registers.word 0 &&& resolution.mask).toInt16, 4⟩ := by
  show Temperature.mk (Word.join (scratchpadOf registers)[0] (scratchpadOf registers)[1] &&&
    resolution.mask).toInt16 4 = _
  rw [getElem_scratchpadOf registers (show 0 < 8 by decide),
    getElem_scratchpadOf registers (show 1 < 8 by decide)]
  rfl

theorem decodeTemperature_scratchpadOf (registers : Registers) :
    BatteryMonitor.decodeTemperature (scratchpadOf registers) =
      ⟨(registers.word 1 &&& 0xfff8).toInt16, 8⟩ := by
  unfold BatteryMonitor.decodeTemperature
  rw [getElem_scratchpadOf registers (show 1 < 8 by decide),
    getElem_scratchpadOf registers (show 2 < 8 by decide)]
  rfl

/-- **A conversion shows the temperature.** -/
theorem shown?_convertTemperature (precise : device.Precise) :
    device.convertTemperature.shown? = device.reading? := by
  obtain ⟨address, model, corrupt, conversions⟩ := device
  cases model with
  | presenceOnly => rfl
  | thermometer celsius registers =>
    have full : resolutionMask registers.resolution = 0xffff := by
      rw [show registers.resolution = Resolution.twelve.code from precise]
      rfl
    have whole (word : UInt16) : word &&& 0xffff = word := UInt16.and_neg_one
    have twelve (word : UInt16) : word &&& Resolution.twelve.mask = word := whole word
    show some (Thermometer.decode .twelve (scratchpadOf (storeWord registers 0
      ((sixteenths celsius).toUInt16 &&& resolutionMask registers.resolution)))) =
        some ⟨sixteenths celsius, 4⟩
    rw [decode_scratchpadOf, twelve, full, whole, registers.word_storeWord]
    rfl
  | batteryMonitor celsius vad vdd registers =>
    show some (BatteryMonitor.decodeTemperature (scratchpadOf (storeWord registers 1
      ((fineUnits celsius).toUInt16 &&& 0xfff8)))) = _
    rw [decodeTemperature_scratchpadOf, registers.word_storeWord, UInt16.and_assoc]
    rfl

/-- The registers of a temperature are not those of a voltage or its input. -/
theorem shown?_voltage (supply : Bool) :
    (device.selectInput supply).convertVoltage.shown? = device.shown? := by
  obtain ⟨address, model, corrupt, conversions⟩ := device
  cases model with
  | presenceOnly => rfl
  | thermometer celsius registers => rfl
  | batteryMonitor celsius vad vdd registers =>
    show some (BatteryMonitor.decodeTemperature (scratchpadOf (storeWord
      (Line.storeRegister registers 0 _) 3 _))) = some (BatteryMonitor.decodeTemperature _)
    rw [decodeTemperature_scratchpadOf, decodeTemperature_scratchpadOf,
      Registers.word_storeWord_of_apart _ _ (by decide),
      Registers.word_storeRegister_zero _ _ (by decide)]

theorem later_selectInput (supply : Bool) : Later device (device.selectInput supply) := by
  unfold selectInput
  split
  · next model => exact device.later_withModel (by rw [model]; rfl)
  · exact .refl device

/-- **A device is the same after a measurement.** -/
theorem later_measure (quantity : Quantity) : Later device (device.measure quantity) := by
  cases quantity with
  | presence => exact .refl device
  | temperature => exact device.later_convertTemperature
  | vad => exact (later_selectInput false).trans (later_convertVoltage _)
  | vdd => exact (later_selectInput true).trans (later_convertVoltage _)

theorem precise_measure (precise : device.Precise) (quantity : Quantity) :
    (device.measure quantity).Precise := by
  obtain ⟨address, model, corrupt, conversions⟩ := device
  cases model with
  | presenceOnly => cases quantity <;> exact trivial
  | batteryMonitor celsius vad vdd registers => cases quantity <;> exact trivial
  | thermometer celsius registers =>
    have kept (word : UInt16) : (storeWord registers 0 word).resolution = registers.resolution := by
      simp [storeWord]
    cases quantity with
    | temperature => exact (kept _).trans precise
    | _ => exact precise

end Device

/-- A device at some time after it was attached. If it was measured, it shows its temperature. -/
structure Tempered (attached : Device) (measured : Bool) (device : Device) : Prop where
  same : device.asAttached = attached
  precise : device.Precise
  shown : measured = true → device.shown? = attached.reading?

variable {attached : Device} {measured : Bool}

theorem Tempered.convertTemperature (tempered : Tempered attached measured device) :
    Tempered attached true device.convertTemperature := by
  refine ⟨device.later_convertTemperature.attached.trans tempered.same,
    device.precise_measure tempered.precise .temperature, fun _ => ?_⟩
  rw [Device.shown?_convertTemperature tempered.precise, ← tempered.same,
    Device.reading?_asAttached]

/-- **No measurement makes a device forget its temperature.** -/
theorem Tempered.steady (suits : attached.Suits) : Steady (Tempered attached measured) where
  suits device tempered := by
    rw [← Device.suits_asAttached, tempered.same]
    exact suits
  precise device tempered := tempered.precise
  measure device quantity tempered := by
    refine ⟨(device.later_measure quantity).attached.trans tempered.same,
      device.precise_measure tempered.precise quantity, fun known => ?_⟩
    have shown := tempered.shown known
    cases quantity with
    | presence => exact shown
    | temperature => exact tempered.convertTemperature.shown rfl
    | vad => exact (Device.shown?_voltage false).trans shown
    | vdd => exact (Device.shown?_voltage true).trans shown

/-- A device at power-on has not been measured. -/
theorem Tempered.start (powerOn : device.model = device.model.atPowerOn) :
    Tempered device.asAttached false device := by
  refine ⟨rfl, ?_, fun measured => Bool.noConfusion measured⟩
  have full : thermometerPowerOn.resolution = Resolution.twelve.code := by decide
  unfold Device.Precise
  rw [powerOn]
  cases device.model with
  | thermometer celsius registers => exact full
  | _ => exact trivial

/-- **A conversion at the driver's request.** -/
theorem Drives.tempered_sample (drives : Drives master line) :
    Leads
      (fun state : WireBridge.Device × σ =>
        state.1.driver.Fits code ∧ (line state.2).Has code (Tempered attached measured))
      (Device.sample master .temperature)
      (fun _ state => (line state.2).Has code (Tempered attached true))
      fun state => (line state.2).Has code (Tempered attached measured) := by
  rintro state ⟨fits, device, found, tempered⟩
  refine (drives.leads_ownSample fun _ asked => absurd rfl asked).mono
    (fun _ _ there => there.mono ?_) (fun _ there => there.mono ?_) state ⟨fits, device, found, rfl⟩
  · rintro _ rfl
    exact tempered.convertTemperature
  · rintro _ rfl
    exact tempered

/-- **The temperature that is read** is what the device shows. It can be read unless the device
sends flipped bits. -/
theorem Drives.leads_readTemperature (drives : Drives master line) (suits : device.Suits) :
    Leads
      (fun state : WireBridge.Device × σ =>
        state.1.driver.forget = .ofAddress code ∧ (line state.2).Has code (· = device))
      (Device.read master .temperature)
      (fun value _ => ∃ shown, device.shown? = some shown ∧ value = shown.celsius)
      fun _ => Family.quantities code.family ≠ [] → device.corrupt = true := by
  refine Action.leads_current_bind ?_
  rintro ⟨⟨channel, driver⟩, here⟩ ⟨made, has⟩
  have fits := Driver.fits_of_forget made
  have own := has.address_eq
  cases driver with
  | presenceOnly address =>
    exact Action.leads_fail fun _ _ measures => absurd (Driver.quantities_eq_nil made) measures
  | thermometer driver =>
    obtain ⟨rfl, family⟩ := fits
    obtain ⟨celsius, registers, model⟩ := suits.thermometer (own ▸ family)
    have full := Driver.resolution_of_forget made
    have shown : device.shown? =
        some (Thermometer.decode driver.resolution (scratchpadOf registers)) := by
      unfold Device.shown?
      rw [model, full]
    have reads : Leads
        (fun state : Thermometer × σ =>
          state.1 = driver ∧ (line state.2).Has driver.address (· = device))
        (Thermometer.temperature master) (fun value _ => device.shown? = some value)
        fun _ => Family.quantities driver.address.family ≠ [] → device.corrupt = true :=
      (drives.leads_thermometerTemperature model).mono (fun _ _ there => there.1 ▸ shown)
        fun _ there _ => there.2
    refine Action.leads_bind (fun value _ => device.shown? = some value)
      (Device.leads_withDriver (fun state same => ⟨rfl, same ▸ has⟩) reads) fun value => ?_
    exact Action.leads_pure fun _ told => ⟨value, told, rfl⟩
  | batteryMonitor driver =>
    obtain ⟨rfl, family⟩ := fits
    obtain ⟨celsius, vad, vdd, registers, model⟩ := suits.batteryMonitor (own ▸ family)
    have shown : device.shown? =
        some (BatteryMonitor.decodeTemperature (scratchpadOf registers)) := by
      unfold Device.shown?
      rw [model]
    have reads : Leads
        (fun state : BatteryMonitor × σ =>
          state.1 = driver ∧ (line state.2).Has driver.address (· = device))
        (BatteryMonitor.temperature master) (fun value _ => device.shown? = some value)
        fun _ => Family.quantities driver.address.family ≠ [] → device.corrupt = true :=
      (drives.leads_monitorTemperature model).mono (fun _ _ there => there.1 ▸ shown)
        fun _ there _ => there.2
    refine Action.leads_bind (fun value _ => device.shown? = some value)
      (Device.leads_withDriver (fun state same => ⟨rfl, same ▸ has⟩) reads) fun value => ?_
    exact Action.leads_pure fun _ told => ⟨value, told, rfl⟩

/-- **The temperature that is read** from a device that was measured. -/
theorem Drives.tempered_read (drives : Drives master line) (suits : attached.Suits) :
    Leads
      (fun state : WireBridge.Device × σ =>
        state.1.driver.forget = .ofAddress code ∧ (line state.2).Has code (Tempered attached true))
      (Device.read master .temperature)
      (fun value _ => ∃ reading, attached.reading? = some reading ∧ value = reading.celsius)
      fun _ => Family.quantities code.family ≠ [] → attached.corrupt = true := by
  rintro state ⟨made, device, found, tempered⟩
  have own : device.Suits := (Tempered.steady suits).suits device tempered
  refine (drives.leads_readTemperature own).mono (fun value _ told => ?_)
    (fun _ unread measures => ?_) state
    ⟨made, device, found, rfl⟩
  · obtain ⟨reading, shown, told⟩ := told
    exact ⟨reading, (tempered.shown rfl).symm.trans shown, told⟩
  · rw [← tempered.same]
    exact unread measures

end WireBridge.Sim
