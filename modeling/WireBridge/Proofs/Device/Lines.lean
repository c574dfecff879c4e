/-
**Drivers of devices on a simulated line.**

* `Sim.Drives.keeps_read`, `Sim.Drives.keeps_otherProgram`: what a driver does to its own device
  does not touch another one;
* `Sim.Drives.leads_refresh`: a driver of a battery monitor reads the registers of its device;
* `Sim.Drives.leads_sampleVoltage`: after a voltage conversion that did not fail, the voltage
  register shows the input that was asked for, whatever was selected before;
* `Sim.Drives.leads_voltage`: the voltage that is read is what the voltage register shows;
* `Sim.Drives.keeps_convertTemperature`: temperature conversions do not touch it.
-/

import WireBridge.Device.Basic
import WireBridge.Proofs.Sim.Monitor

namespace WireBridge.Sim

variable {σ ε : Type} {master : Master σ ε} {line : σ → Line} {code other : Address}
  {holds : Device → Prop}

open WireBridge.Action (Leads Keeps)

/-! ### Other devices -/

theorem Drives.leads_selectOther (drives : Drives master line) (different : other ≠ code) :
    Leads (fun state => (line state).Has code holds) (master.select (some other))
      (fun _ state => Line.Apart code holds (line state))
      fun state => (line state).Has code holds :=
  drives.leads_select (some other) (fun here => here.Has code holds) (Line.Apart code holds)
    (fun _ has => has.apart different) fun _ has => has.devices_ne_nil

theorem Drives.apart_writeByte (drives : Drives master line) (byte : UInt8) :
    Leads (fun state => Line.Apart code holds (line state)) (master.writeByte byte)
      (fun _ state => Line.Apart code holds (line state))
      fun state => (line state).Has code holds :=
  drives.leads_writeByte (Line.Apart code holds) (Line.Apart code holds)
    fun _ apart => apart.writeByte byte

theorem Drives.apart_writeBytes (drives : Drives master line) (bytes : List UInt8) :
    Leads (fun state => Line.Apart code holds (line state)) (master.writeBytes bytes)
      (fun _ state => Line.Apart code holds (line state))
      fun state => (line state).Has code holds := by
  refine drives.leads_writeBytes bytes (Line.Apart code holds) (Line.Apart code holds) ?_
  intro here apart
  induction bytes generalizing here with
  | nil => exact apart
  | cons byte rest ih => exact ih _ (apart.writeByte byte)

theorem Drives.apart_readBytes (drives : Drives master line) (count : Nat) :
    Leads (fun state => Line.Apart code holds (line state)) (master.readBytes count)
      (fun _ state => Line.Apart code holds (line state))
      fun state => (line state).Has code holds := by
  have each : Keeps (fun state => Line.Apart code holds (line state)) master.readByte :=
    drives.leads_readByte (Line.Apart code holds) (fun _ => Line.Apart code holds)
      fun _ apart => apart.readByte
  exact (Action.keeps_collect each count).mono (fun _ _ apart => apart) fun _ apart => apart.has

/-- Registers of another device are read. -/
theorem Drives.keeps_read (drives : Drives master line) (different : other ≠ code)
    (bytes : List UInt8) :
    Keeps (fun state => (line state).Has code holds) (Scratchpad.read master other bytes) := by
  refine Action.leads_bind _ (drives.leads_selectOther different) fun _ => ?_
  refine Action.leads_bind _ (drives.apart_writeBytes bytes) fun _ => ?_
  refine Action.leads_bind _ (drives.apart_readBytes 9) fun page => ?_
  split
  · exact Action.leads_pure fun _ apart => apart.has
  · exact Action.leads_fail fun _ apart => apart.has

/-- Another device hears one command. -/
theorem Drives.keeps_otherCommand (drives : Drives master line) (different : other ≠ code)
    (byte : UInt8) :
    Keeps (fun state => (line state).Has code holds) (do
      master.select (some other)
      master.writeByte byte) := by
  refine Action.leads_bind _ (drives.leads_selectOther different) fun _ => ?_
  exact (drives.apart_writeByte byte).mono (fun _ _ apart => apart.has) fun _ has => has

/-- A thermometer is another device than a battery monitor. -/
theorem Drives.keeps_thermometerProgram (drives : Drives master line) {driver : Thermometer}
    (different : driver.address ≠ code) :
    Keeps (fun state => (line state).Has code holds) (Thermometer.program master driver) := by
  refine Action.leads_bind _ (drives.leads_selectOther different) fun _ => ?_
  refine Action.leads_bind _ (drives.apart_writeByte _) fun _ => ?_
  refine Action.leads_bind _ (drives.apart_writeBytes _) fun _ => ?_
  exact (drives.keeps_otherCommand different _).of_imp fun _ apart => apart.has

theorem Drives.keeps_thermometerRefresh (drives : Drives master line) :
    Keeps (fun state : Thermometer × σ => state.1.address ≠ code ∧ (line state.2).Has code holds)
      (Thermometer.refresh master) := by
  refine Action.leads_current_bind ?_
  rintro ⟨driver, here⟩ ⟨different, has⟩
  refine Action.leads_bind
    (fun _ state => state.1.address ≠ code ∧ (line state.2).Has code holds) ?_ fun _ => ?_
  · refine (Action.leads_onSecond (fun driver : Thermometer => driver.address ≠ code)
      (drives.keeps_read different _)).of_imp ?_
    rintro _ rfl
    exact ⟨different, has⟩
  · exact Action.leads_update fun _ kept => kept

theorem Drives.keeps_thermometerSetUp (drives : Drives master line) :
    Keeps (fun state : Thermometer × σ => state.1.address ≠ code ∧ (line state.2).Has code holds)
      (Thermometer.setUp master) := by
  refine Action.leads_current_bind ?_
  rintro ⟨driver, here⟩ ⟨different, has⟩
  dsimp only
  split
  · refine Action.leads_fail ?_
    rintro _ rfl
    exact ⟨different, has⟩
  · refine Action.leads_bind
      (fun _ state => state.1.address ≠ code ∧ (line state.2).Has code holds) ?_ fun _ => ?_
    · refine drives.keeps_thermometerRefresh.of_imp ?_
      rintro _ rfl
      exact ⟨different, has⟩
    · refine Action.leads_current_bind ?_
      rintro ⟨current, now⟩ ⟨stillDifferent, stillHas⟩
      dsimp only
      split
      · refine Action.leads_pure ?_
        rintro _ rfl
        exact ⟨stillDifferent, stillHas⟩
      · refine Action.leads_bind
          (fun _ state => state.1.address ≠ code ∧ (line state.2).Has code holds) ?_ fun _ => ?_
        · refine Action.leads_update ?_
          rintro _ rfl
          exact ⟨stillDifferent, stillHas⟩
        · refine Action.leads_onSecond (fun driver : Thermometer => driver.address ≠ code)
            (drives.keeps_thermometerProgram ?_)
          exact stillDifferent

/-! ### Temperature conversions -/

/-- A temperature conversion, on one device or on all. -/
theorem Drives.keeps_convertTemperature (drives : Drives master line) (target : Option Address)
    (stable : ∀ device, holds device → holds device.convertTemperature) :
    Keeps (fun state => (line state).Has code holds) (do
      master.select target
      master.writeByte FunctionCommand.convertTemperature.code) := by
  refine Action.leads_bind
    (fun _ state => (line state).Has code holds ∧ (line state).phase = .listening) ?_ fun _ => ?_
  · refine drives.leads_select target (fun here => here.Has code holds)
      (fun here => here.Has code holds ∧ here.phase = .listening) ?_ fun _ has => has.devices_ne_nil
    intro here has
    cases target with
    | none =>
      rw [Line.selecting_none]
      exact ⟨has, rfl⟩
    | some other =>
      rw [Line.selecting_some]
      exact ⟨has, rfl⟩
  · exact drives.leads_writeByte (fun here => here.Has code holds ∧ here.phase = .listening)
      (fun here => here.Has code holds) fun _ ⟨has, listening⟩ =>
        has.convertTemperature stable listening

/-! ### The battery monitor -/

variable {vad vdd : Float32} {shown : Option Bool}

/-- A battery monitor as it was when its page was read. -/
def Reads (vad vdd : Float32) (shown : Option Bool) (page : Scratchpad) (device : Device) : Prop :=
  ∃ celsius registers, Showing vad vdd shown celsius registers device ∧ PageOf registers page

theorem Reads.shows {page : Scratchpad} {device : Device}
    (reads : Reads vad vdd shown page device) : Shows vad vdd shown device := by
  obtain ⟨celsius, registers, showing, _⟩ := reads
  exact ⟨celsius, registers, showing⟩

theorem Reads.programmed {driver : BatteryMonitor} {device : Device}
    (reads : Reads vad vdd shown driver.page device) :
    Programmed vad vdd driver.config.supply device := by
  obtain ⟨celsius, registers, showing, pageOf⟩ := reads
  exact ⟨celsius, registers, showing.model, (pageOf.supply driver.address).symm⟩

/-- The voltage in a page is that of the input that the device shows. -/
theorem Reads.hundredths {page : Scratchpad} {device : Device} {supply : Bool}
    (reads : Reads vad vdd (some supply) page device) :
    BatteryMonitor.decodeHundredths page = converted vad vdd supply := by
  obtain ⟨celsius, registers, showing, pageOf⟩ := reads
  rw [pageOf.voltage, showing.register supply rfl, converted, UInt16.and_assoc]
  rfl

/-- The device alone is selected. -/
theorem Drives.leads_selectOwn (drives : Drives master line) {failed : σ → Prop} :
    Leads (fun state => (line state).Has code holds) (master.select (some code))
      (fun _ state => ∃ device, Line.Alone code device .listening (line state) ∧ holds device)
      failed := by
  refine drives.leads_select (some code) (fun here => here.Has code holds)
    (fun here => ∃ device, Line.Alone code device .listening here ∧ holds device) ?_
    fun _ has => has.devices_ne_nil
  rintro here ⟨device, found, known⟩
  exact ⟨device, Line.alone_selecting found, known⟩

/-- A memory command that neither shows nor takes registers. -/
theorem Drives.leads_recall (drives : Drives master line) {command : FunctionCommand}
    (idle : command = .recallMemory ∨ command = .copyScratchpad)
    (monitor : ∀ device, holds device → ∃ celsius vad vdd registers,
      device.model = .batteryMonitor celsius vad vdd registers) {failed : σ → Prop} :
    Leads (fun state => ∃ device,
        Line.Alone code device .listening (line state) ∧ holds device)
      (master.writeBytes [command.code, BatteryMonitor.pageNumber])
      (fun _ state => (line state).Has code holds) failed := by
  refine drives.leads_writeBytes _
    (fun here => ∃ device, Line.Alone code device .listening here ∧ holds device)
    (fun here => here.Has code holds) ?_
  rintro here ⟨device, alone, known⟩
  obtain ⟨_, _, _, _, model⟩ := monitor device known
  exact ⟨device, (alone.recall model idle).found, known⟩

/-- Bytes that are sent are read one after the other. -/
theorem Drives.leads_readBytes (drives : Drives master line) (kept : Line → Prop)
    (stable : ∀ here rest, kept here → kept { here with out := rest }) (sent : List UInt8)
    (count : Nat) (enough : count ≤ sent.length) {failed : σ → Prop} :
    Leads (fun state => kept (line state) ∧ (line state).out = sent) (master.readBytes count)
      (fun bytes state => (kept (line state) ∧ (line state).out = sent.drop count) ∧
        bytes.toList = sent.take count) failed := by
  induction count with
  | zero =>
    refine Action.leads_pure ?_
    rintro state ⟨here, out⟩
    exact ⟨⟨here, out⟩, rfl⟩
  | succ before ih =>
    refine Action.leads_bind _ (ih (Nat.le_of_succ_le enough)) fun earlier => ?_
    have split : sent.drop before = sent[before] :: sent.drop (before + 1) :=
      List.drop_eq_getElem_cons enough
    refine Action.leads_bind
      (fun byte state => (kept (line state) ∧ (line state).out = sent.drop (before + 1)) ∧
        earlier.toList = sent.take before ∧ byte = sent[before]) ?_ fun byte => ?_
    · refine drives.leads_readByte
        (fun here => (kept here ∧ here.out = sent.drop before) ∧
          earlier.toList = sent.take before)
        (fun byte here => (kept here ∧ here.out = sent.drop (before + 1)) ∧
          earlier.toList = sent.take before ∧ byte = sent[before]) ?_
      rintro here ⟨⟨known, out⟩, read⟩
      rw [split] at out
      unfold Line.readByte
      rw [out]
      exact ⟨⟨stable here _ known, rfl⟩, read, rfl⟩
    · refine Action.leads_pure ?_
      rintro state ⟨there, read, rfl⟩
      refine ⟨there, ?_⟩
      rw [Vector.toList_push, read]
      exact List.take_append_getElem enough

/-- The page of the device is read. -/
theorem Drives.leads_read (drives : Drives master line) :
    Leads (fun state => (line state).Has code (Shows vad vdd shown))
      (Scratchpad.read master code
        [FunctionCommand.readScratchpad.code, BatteryMonitor.pageNumber])
      (fun page state => (line state).Has code (Reads vad vdd shown page))
      fun state => (line state).Has code (Shows vad vdd shown) := by
  refine Action.leads_bind _ drives.leads_selectOwn fun _ => ?_
  refine Action.leads_bind
    (fun _ state => ∃ device celsius registers,
      (Showing vad vdd shown celsius registers device ∧ (line state).find? code = some device) ∧
        (line state).out = device.transmission registers) ?_ fun _ => ?_
  · refine drives.leads_writeBytes _
      (fun here => ∃ device, Line.Alone code device .listening here ∧ Shows vad vdd shown device)
      (fun here => ∃ device celsius registers,
        (Showing vad vdd shown celsius registers device ∧ here.find? code = some device) ∧
          here.out = device.transmission registers) ?_
    rintro here ⟨device, alone, celsius, registers, showing⟩
    obtain ⟨idle, out⟩ := alone.show showing.model
    exact ⟨device, celsius, registers, ⟨showing, idle.found⟩, out⟩
  refine Action.leads_exists fun device => Action.leads_exists fun celsius =>
    Action.leads_exists fun registers => ?_
  have length := device.length_transmission registers
  have whole : (device.transmission registers).take 9 = device.transmission registers :=
    List.take_of_length_le (Nat.le_of_eq length)
  refine Action.leads_bind _
    (drives.leads_readBytes
      (fun here => Showing vad vdd shown celsius registers device ∧ here.find? code = some device)
      (fun _ _ known => known) _ 9 (Nat.le_of_eq length.symm)) fun page => ?_
  split
  · refine Action.leads_pure ?_
    rintro state ⟨⟨⟨showing, found⟩, _⟩, read⟩
    rw [whole] at read
    exact ⟨device, found, celsius, registers, showing, .of_transmission read⟩
  · refine Action.leads_fail ?_
    rintro state ⟨⟨⟨showing, found⟩, _⟩, _⟩
    exact ⟨device, found, celsius, registers, showing⟩

/-! ### The driver of the battery monitor -/

theorem Shows.monitor {device : Device} (shows : Shows vad vdd shown device) :
    ∃ celsius vad vdd registers, device.model = .batteryMonitor celsius vad vdd registers := by
  obtain ⟨celsius, registers, showing⟩ := shows
  exact ⟨celsius, vad, vdd, registers, showing.model⟩

/-- **The driver reads its device.** -/
theorem Drives.leads_refresh (drives : Drives master line) :
    Leads
      (fun state : BatteryMonitor × σ =>
        state.1.address = code ∧ (line state.2).Has code (Shows vad vdd shown))
      (BatteryMonitor.refresh master)
      (fun _ state =>
        state.1.address = code ∧ (line state.2).Has code (Reads vad vdd shown state.1.page))
      fun state => state.1.address = code ∧ (line state.2).Has code (Shows vad vdd shown) := by
  refine Action.leads_current_bind ?_
  rintro ⟨driver, here⟩ ⟨rfl, has⟩
  refine Action.leads_bind
    (fun page state => state.1.address = driver.address ∧
      (line state.2).Has driver.address (Reads vad vdd shown page)) ?_ fun page => ?_
  · refine (Action.leads_onSecond (fun own : BatteryMonitor => own.address = driver.address)
      (Action.leads_bind _ drives.leads_selectOwn fun _ =>
        Action.leads_bind _ (drives.leads_recall (.inl rfl) fun _ => Shows.monitor) fun _ =>
          drives.leads_read)).of_imp ?_
    rintro _ rfl
    exact ⟨rfl, has⟩
  · exact Action.leads_update fun _ kept => kept

/-- The driver of another device reads that one. -/
theorem Drives.keeps_otherRefresh (drives : Drives master line) :
    Keeps
      (fun state : BatteryMonitor × σ => state.1.address ≠ code ∧ (line state.2).Has code holds)
      (BatteryMonitor.refresh master) := by
  refine Action.leads_current_bind ?_
  rintro ⟨driver, here⟩ ⟨different, has⟩
  refine Action.leads_bind
    (fun _ state => state.1.address ≠ code ∧ (line state.2).Has code holds) ?_ fun page => ?_
  · refine (Action.leads_onSecond (fun other : BatteryMonitor => other.address ≠ code)
      (Action.leads_bind _ (drives.leads_selectOther different) fun _ =>
        Action.leads_bind _ (drives.apart_writeBytes _) fun _ =>
          (drives.keeps_read different _).of_imp fun _ apart => apart.has)).of_imp ?_
    rintro _ rfl
    exact ⟨different, has⟩
  · exact Action.leads_update fun _ kept => kept

/-- The configuration register of the device becomes that of the cached page. -/
theorem Drives.leads_program (drives : Drives master line) {driver : BatteryMonitor}
    (own : driver.address = code) {failed : σ → Prop} :
    Leads (fun state => (line state).Has code (Shows vad vdd shown))
      (BatteryMonitor.program master driver)
      (fun _ state => (line state).Has code (Programmed vad vdd driver.config.supply)) failed := by
  obtain rfl := own
  have page : driver.page.toList.take 8 = driver.page[0] :: (driver.page.toList.take 8).tail := by
    obtain ⟨⟨bytes⟩, size⟩ := driver.page
    cases bytes with
    | nil => exact absurd size (by decide)
    | cons first rest => rfl
  refine Action.leads_bind _ drives.leads_selectOwn fun _ => ?_
  refine Action.leads_bind
    (fun _ state => Line.Has ((driver.page.toList.take 8).foldl Line.writeByte (line state))
      driver.address (Programmed vad vdd driver.config.supply)) ?_ fun _ => ?_
  · refine drives.leads_writeBytes _
      (fun here => ∃ device,
        Line.Alone driver.address device .listening here ∧ Shows vad vdd shown device)
      (fun here => Line.Has ((driver.page.toList.take 8).foldl Line.writeByte here)
        driver.address (Programmed vad vdd driver.config.supply)) ?_
    rintro here ⟨device, alone, celsius, registers, showing⟩
    rw [page]
    exact alone.program showing.model driver.page[0] _
  refine Action.leads_bind
    (fun _ state => (line state).Has driver.address (Programmed vad vdd driver.config.supply))
    (drives.leads_writeBytes _
      (fun here => Line.Has ((driver.page.toList.take 8).foldl Line.writeByte here)
        driver.address (Programmed vad vdd driver.config.supply))
      (fun here => here.Has driver.address (Programmed vad vdd driver.config.supply))
      fun _ stored => stored) fun _ => ?_
  refine Action.leads_bind _ drives.leads_selectOwn fun _ => ?_
  refine drives.leads_recall (.inr rfl) ?_
  rintro device ⟨celsius, registers, model, _⟩
  exact ⟨celsius, vad, vdd, registers, model⟩

theorem Drives.keeps_otherProgram (drives : Drives master line) {driver : BatteryMonitor}
    (different : driver.address ≠ code) :
    Keeps (fun state => (line state).Has code holds) (BatteryMonitor.program master driver) := by
  refine Action.leads_bind _ (drives.leads_selectOther different) fun _ => ?_
  refine Action.leads_bind _ (drives.apart_writeBytes _) fun _ => ?_
  refine Action.leads_bind _ (drives.apart_writeBytes _) fun _ => ?_
  refine Action.leads_bind (fun _ state => Line.Apart code holds (line state))
    ((drives.leads_selectOther different).of_imp fun _ apart => apart.has) fun _ => ?_
  exact (drives.apart_writeBytes _).mono (fun _ _ apart => apart.has) fun _ has => has

/-- **A voltage conversion of the own device** measures the input that was asked for. -/
theorem Drives.leads_sampleVoltage (drives : Drives master line) (supply : Bool) :
    Leads
      (fun state : BatteryMonitor × σ =>
        state.1.address = code ∧ (line state.2).Has code (Shows vad vdd shown))
      (BatteryMonitor.sampleVoltage master supply)
      (fun _ state => (line state.2).Has code (Shows vad vdd (some supply)))
      fun state => (line state.2).Has code (Shows vad vdd shown) := by
  refine Action.leads_bind
    (fun _ state =>
      state.1.address = code ∧ (line state.2).Has code (Reads vad vdd shown state.1.page))
    (drives.leads_refresh.mono (fun _ _ reads => reads) fun _ kept => kept.2) fun _ => ?_
  refine Action.leads_current_bind ?_
  rintro ⟨driver, here⟩ ⟨rfl, has⟩
  dsimp only
  have converts : Leads (fun state => (line state).Has driver.address (Programmed vad vdd supply))
      (do
        master.select (some driver.address)
        master.writeByte FunctionCommand.convertVoltage.code)
      (fun _ state => (line state).Has driver.address (Shows vad vdd (some supply)))
      fun state => (line state).Has driver.address (Shows vad vdd shown) := by
    refine Action.leads_bind _ drives.leads_selectOwn fun _ => ?_
    refine drives.leads_writeByte
      (fun here => ∃ device, Line.Alone driver.address device .listening here ∧
        Programmed vad vdd supply device)
      (fun here => here.Has driver.address (Shows vad vdd (some supply))) ?_
    rintro here ⟨device, alone, programmed⟩
    exact alone.convertVoltage programmed
  split
  · refine Action.leads_bind
      (fun _ state => (line state.2).Has driver.address (Shows vad vdd shown)) ?_ fun _ => ?_
    · refine Action.leads_update ?_
      rintro _ rfl
      exact has.mono fun _ => Reads.shows
    · generalize changedEq : (⟨driver.address, driver.page.set 0 _⟩ : BatteryMonitor) = changed
      have own : changed.address = driver.address := changedEq ▸ rfl
      have selects : changed.config.supply = supply := by
        rw [← changedEq, BatteryMonitor.config]
        dsimp only
        rw [Vector.getElem_set_self]
        exact MonitorConfig.supply_withSupply _ supply
      have programs : Leads (fun state => (line state).Has driver.address (Shows vad vdd shown))
          (BatteryMonitor.program master changed)
          (fun _ state => (line state).Has driver.address (Programmed vad vdd supply))
          fun state => (line state).Has driver.address (Shows vad vdd shown) := by
        rw [← selects]
        exact drives.leads_program own
      exact Action.leads_bind _ (Action.leads_second programs) fun _ =>
        Action.leads_second converts
  · next same =>
    refine (Action.leads_second converts).of_imp ?_
    rintro _ rfl
    rw [← Decidable.not_not.mp same]
    exact has.mono fun _ => Reads.programmed

theorem Drives.keeps_otherSampleVoltage (drives : Drives master line) (supply : Bool) :
    Leads
      (fun state : BatteryMonitor × σ => state.1.address ≠ code ∧ (line state.2).Has code holds)
      (BatteryMonitor.sampleVoltage master supply)
      (fun _ state => (line state.2).Has code holds)
      fun state => (line state.2).Has code holds := by
  refine Action.leads_bind _
    (drives.keeps_otherRefresh.mono (fun _ _ kept => kept) fun _ kept => kept.2) fun _ => ?_
  refine Action.leads_current_bind ?_
  rintro ⟨driver, here⟩ ⟨different, has⟩
  dsimp only at different ⊢
  have converts : Keeps (fun state => (line state).Has code holds) (do
      master.select (some driver.address)
      master.writeByte FunctionCommand.convertVoltage.code) :=
    drives.keeps_otherCommand different _
  split
  · refine Action.leads_bind (fun _ state => (line state.2).Has code holds) ?_ fun _ => ?_
    · refine Action.leads_update ?_
      rintro _ rfl
      exact has
    · refine Action.leads_bind _ (Action.leads_second (drives.keeps_otherProgram ?_)) fun _ => ?_
      · exact different
      · exact Action.leads_second converts
  · refine (Action.leads_second converts).of_imp ?_
    rintro _ rfl
    exact has

/-- Whatever device a driver of a battery monitor has, it reads the same afterwards. -/
theorem Drives.keeps_refresh (drives : Drives master line) :
    Keeps (fun state : BatteryMonitor × σ => (line state.2).Has code (Shows vad vdd shown))
      (BatteryMonitor.refresh master) := by
  rintro ⟨driver, here⟩ has
  by_cases own : driver.address = code
  · exact (drives.leads_refresh.mono
      (fun _ _ reads => reads.2.mono fun _ => Reads.shows) fun _ kept => kept.2) _ ⟨own, has⟩
  · exact (drives.keeps_otherRefresh.mono (fun _ _ kept => kept.2) fun _ kept => kept.2) _
      ⟨own, has⟩

theorem Drives.keeps_monitorSetUp (drives : Drives master line) :
    Keeps (fun state : BatteryMonitor × σ => (line state.2).Has code (Shows vad vdd shown))
      (BatteryMonitor.setUp master) := by
  refine Action.leads_current_bind fun state has => ?_
  dsimp only
  split
  · exact Action.leads_fail fun _ same => same ▸ has
  · exact drives.keeps_refresh.of_imp fun _ same => same ▸ has

theorem Drives.keeps_monitorTemperature (drives : Drives master line) :
    Keeps (fun state : BatteryMonitor × σ => (line state.2).Has code (Shows vad vdd shown))
      (BatteryMonitor.temperature master) := by
  refine Action.leads_bind _ drives.keeps_refresh fun _ => ?_
  exact Action.leads_current_bind fun _ has => Action.leads_pure fun _ same => same ▸ has

theorem Drives.keeps_voltage (drives : Drives master line) :
    Keeps (fun state : BatteryMonitor × σ => (line state.2).Has code (Shows vad vdd shown))
      (BatteryMonitor.voltage master) := by
  have reads : Keeps
      (fun state : BatteryMonitor × σ => (line state.2).Has code (Shows vad vdd shown))
      (BatteryMonitor.hundredths master) := by
    refine Action.leads_bind _ drives.keeps_refresh fun _ => ?_
    exact Action.leads_current_bind fun _ has => Action.leads_pure fun _ same => same ▸ has
  exact Action.leads_bind _ reads fun _ => Action.leads_pure fun _ has => has

/-- **The voltage that is read** is that of the input that the device shows. -/
theorem Drives.leads_voltage (drives : Drives master line) {supply : Bool} :
    Leads
      (fun state : BatteryMonitor × σ =>
        state.1.address = code ∧ (line state.2).Has code (Shows vad vdd (some supply)))
      (BatteryMonitor.voltage master)
      (fun value _ => value = BatteryMonitor.volts (converted vad vdd supply)) fun _ => True := by
  refine Action.leads_bind (fun raw _ => raw = converted vad vdd supply) ?_ fun raw => ?_
  · refine Action.leads_bind
      (fun _ state =>
        state.1.address = code ∧ (line state.2).Has code (Reads vad vdd (some supply) state.1.page))
      (drives.leads_refresh.mono (fun _ _ reads => reads) fun _ _ => trivial) fun _ => ?_
    refine Action.leads_current_bind ?_
    rintro ⟨driver, here⟩ ⟨_, device, _, reads⟩
    exact Action.leads_pure fun _ _ => reads.hundredths
  · refine Action.leads_pure ?_
    rintro _ rfl
    rfl

end WireBridge.Sim
