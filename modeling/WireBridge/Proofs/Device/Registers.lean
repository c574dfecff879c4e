/-
**What a driver reads and writes of its own device.**

A scratchpad that was read is that of the registers of the device, byte by byte, and a device whose
scratchpads have a flipped bit is never read.

* `Sim.Device.Sends`: a command makes a device send registers;
* `Sim.Drives.leads_ownRead`: the scratchpad of the device is read, unless it is corrupt;
* `Sim.Drives.leads_thermometerSetUp`, `Sim.Drives.leads_monitorSetUp`: a driver can read its device
  if and only if it is not corrupt, and programs nothing but a resolution;
* `Sim.Drives.leads_thermometerTemperature`, `Sim.Drives.leads_monitorTemperature`: the temperature
  that is read is that in the registers;
* `Sim.Drives.leads_ownSampleVoltage`: a voltage conversion selects the input, writes back all other
  registers as they were, and converts;
* `Sim.Drives.leads_ownConvert`: a temperature conversion.
-/

import WireBridge.Proofs.Device.Sparing
import WireBridge.Proofs.Rom.Check

namespace WireBridge.Sim

variable {σ ε : Type} {master : Master σ ε} {line : σ → Line} {code : Address} {device : Device}
  {celsius vad vdd : Float32} {registers : Registers}

open WireBridge.Action (Leads Keeps)

/-- A register that is stored again. -/
theorem Line.storeRegister_getElem (registers : Registers) {place : Nat} (inside : place < 8) :
    storeRegister registers place registers[place] = registers := by
  refine Vector.ext fun other within => ?_
  unfold storeRegister
  rw [Vector.getElem_setIfInBounds]
  split
  · next same => subst same; rfl
  · rfl

/-- A thermometer has the configuration that was stored. -/
theorem Registers.resolution_storeRegister (registers : Registers) (config : UInt8) :
    (Line.storeRegister registers 4 config).resolution = config :=
  Vector.getElem_setIfInBounds_self (by decide)

/-- A thermometer with some configuration register. -/
def Device.configure (config : UInt8) (device : Device) : Device :=
  match device.model with
  | .thermometer celsius registers =>
    { device with model := .thermometer celsius (Line.storeRegister registers 4 config) }
  | _ => device

theorem Device.configure_eq (model : device.model = .thermometer celsius registers)
    (config : UInt8) :
    device.configure config =
      { device with model := .thermometer celsius (Line.storeRegister registers 4 config) } := by
  unfold configure
  rw [model]

theorem Device.configure_resolution (model : device.model = .thermometer celsius registers) :
    device.configure registers.resolution = device := by
  have same : Line.storeRegister registers 4 registers.resolution = registers :=
    Line.storeRegister_getElem registers (show 4 < 8 by decide)
  rw [configure_eq model, same, ← model]

namespace Line

/-! ### Conversions of known devices -/

/-- The device that alone is selected is converted. -/
theorem Alone.convertTemperature {here : Line} (alone : here.Alone code device .listening) :
    (here.writeByte FunctionCommand.convertTemperature.code).Has code
      (· = device.convertTemperature) := by
  have counted : Alone code device .idle
      { here with
        phase := .idle, broadcasts := here.broadcasts + if here.skipped then 1 else 0 } :=
    alone.of_same rfl rfl rfl
  have told : here.writeByte FunctionCommand.convertTemperature.code =
      Line.changeSelected
        { here with
          phase := .idle, broadcasts := here.broadcasts + if here.skipped then 1 else 0 }
        Device.convertTemperature := by
    rw [writeByte, alone.phase]
    rfl
  rw [told, changeSelected_eq, counted.selected]
  exact ⟨_, (counted.modify Device.address_convertTemperature).found, rfl⟩

theorem Alone.convertsVoltage {here : Line} (alone : here.Alone code device .listening) :
    (here.writeByte FunctionCommand.convertVoltage.code).Has code (· = device.convertVoltage) := by
  have ended : Alone code device .idle { here with phase := .idle } := alone.of_same rfl rfl rfl
  have told : here.writeByte FunctionCommand.convertVoltage.code =
      ({ here with phase := .idle } : Line).changeSelected Device.convertVoltage := by
    rw [writeByte, alone.phase]
    rfl
  rw [told, changeSelected_eq, ended.selected]
  exact ⟨_, (ended.modify Device.address_convertVoltage).found, rfl⟩

/-- A change of different places changes the device with a code once, if its place is among them. -/
theorem find?_foldl_modify {change : Device → Device}
    (keeps : ∀ device, (change device).address = device.address) {places : List Nat}
    (distinct : places.Nodup) {here : Line} (found : here.find? code = some device) :
    (places.foldl (fun line place => line.modify place change) here).find? code =
      some (if here.placeOf code ∈ places then change device else device) := by
  induction places generalizing here device with
  | nil => exact found
  | cons place rest ih =>
    obtain ⟨fresh, others⟩ := List.nodup_cons.mp distinct
    have stays := placeOf_eq (here.codes_modify place keeps) code
    have after := find?_modify here code place keeps
    rw [found] at after
    rw [List.foldl_cons]
    by_cases own : place = here.placeOf code
    · rw [if_pos own, Option.map_some] at after
      rw [ih others after, stays, ← own, if_neg fresh, if_pos List.mem_cons_self]
    · rw [if_neg own] at after
      have same : here.placeOf code ∈ place :: rest ↔ here.placeOf code ∈ rest := by
        simp [Ne.symm own]
      rw [ih others after, stays]
      simp only [same]

/-- All devices are converted. -/
theorem convertAll {start : Line} (found : start.find? code = some device) :
    ((start.selecting none).writeByte FunctionCommand.convertTemperature.code).Has code
      (· = device.convertTemperature) := by
  have told : (start.selecting none).writeByte FunctionCommand.convertTemperature.code =
      Line.changeSelected
        { start.selecting none with phase := .idle, broadcasts := start.broadcasts + 1 }
        Device.convertTemperature := rfl
  have member : start.placeOf code ∈ List.range start.devices.length :=
    List.mem_range.mpr (placeOf_lt found)
  rw [told, changeSelected_eq]
  refine ⟨_, find?_foldl_modify Device.address_convertTemperature List.nodup_range found, ?_⟩
  exact if_pos member

/-! ### Registers that are written -/

/-- A thermometer takes its alarms and its configuration after the command that writes them. -/
theorem Alone.storing_thermometer {here : Line} (alone : here.Alone code device .listening)
    (model : device.model = .thermometer celsius registers) :
    (here.writeByte FunctionCommand.writeScratchpad.code).Alone code device (.storing 2) := by
  have ended : Alone code device .idle { here with phase := .idle } := alone.of_same rfl rfl rfl
  have told : here.writeByte FunctionCommand.writeScratchpad.code =
      ({ here with phase := .idle } : Line).onMemoryCommand .writeScratchpad := by
    rw [writeByte, alone.phase]
    rfl
  rw [told, onMemoryCommand, ended.single]
  dsimp only
  rw [model]
  exact ended.of_same rfl rfl rfl

theorem Alone.stored_thermometer {here : Line} {offset : Nat}
    (alone : here.Alone code device (.storing offset))
    (model : device.model = .thermometer celsius registers) (inside : offset < 5) (byte : UInt8) :
    (here.writeByte byte).Alone code
      { device with model := .thermometer celsius (storeRegister registers offset byte) }
      (if offset + 1 < 5 then .storing (offset + 1) else .idle) := by
  refine alone.storedAt ?_ inside
  rw [onRegister, alone.single]
  dsimp only
  rw [model]

/-- All registers that a thermometer takes. -/
theorem Alone.programs_thermometer {here : Line} (alone : here.Alone code device (.storing 2))
    (model : device.model = .thermometer celsius registers) (config : UInt8) :
    ([registers[2], registers[3], config].foldl writeByte here).find? code =
      some (device.configure config) := by
  have first := alone.stored_thermometer model (by decide) registers[2]
  rw [storeRegister_getElem registers (show 2 < 8 by decide)] at first
  have second := first.stored_thermometer rfl (by decide) registers[3]
  rw [storeRegister_getElem registers (show 3 < 8 by decide)] at second
  have third := second.stored_thermometer rfl (by decide) config
  rw [Device.configure_eq model]
  exact third.found

/-- Storing what was written changes no register. -/
theorem Alone.copied_thermometer {here : Line} (alone : here.Alone code device .listening)
    (model : device.model = .thermometer celsius registers) :
    (here.writeByte FunctionCommand.copyScratchpad.code).find? code = some device := by
  have ended : Alone code device .idle { here with phase := .idle } := alone.of_same rfl rfl rfl
  have told : here.writeByte FunctionCommand.copyScratchpad.code =
      ({ here with phase := .idle } : Line).onMemoryCommand .copyScratchpad := by
    rw [writeByte, alone.phase]
    rfl
  rw [told, onMemoryCommand, ended.single]
  dsimp only
  rw [model]
  exact ended.found

/-- A battery monitor takes registers one after the other until it has them all. -/
theorem Alone.storesAll {target : Registers} (bytes : List UInt8) :
    ∀ {offset : Nat} {here : Line} {device : Device} {registers : Registers},
      here.Alone code device (if offset < 8 then .storing offset else .idle) →
      device.model = .batteryMonitor celsius vad vdd registers →
      bytes = target.toList.drop offset →
      (∀ place, (inside : place < 8) → place < offset → registers[place] = target[place]) →
      (bytes.foldl writeByte here).find? code =
        some { device with model := .batteryMonitor celsius vad vdd target } := by
  induction bytes with
  | nil =>
    intro offset here device registers alone model rest written
    have ended : 8 ≤ offset := by simpa using List.drop_eq_nil_iff.mp rest.symm
    have same : registers = target :=
      Vector.ext fun place inside => written place inside (Nat.lt_of_lt_of_le inside ended)
    rw [← same, ← model]
    exact alone.found
  | cons byte rest ih =>
    intro offset here device registers alone model split written
    have inside : offset < 8 := by
      refine Nat.lt_of_not_le fun ended => ?_
      rw [List.drop_of_length_le (by simpa using ended)] at split
      exact List.cons_ne_nil byte rest split
    rw [if_pos inside] at alone
    have within : offset < target.toList.length := by simpa using inside
    obtain ⟨byteEq, restEq⟩ := List.cons.inj (split.trans (List.drop_eq_getElem_cons within))
    rw [List.foldl_cons]
    have after := ih (alone.stored model inside byte) rfl restEq ?_
    · exact after
    · intro place placeInside below
      unfold Line.storeRegister
      rw [Vector.getElem_setIfInBounds]
      split
      · next here => simp [byteEq, here]
      · exact written place placeInside (by omega)

end Line

/-! ### Commands -/

/-- A command that the device alone hears. -/
theorem Drives.leads_ownCommand (drives : Drives master line) {byte : UInt8} {changed : Device}
    {failed : σ → Prop}
    (heard : ∀ here : Line, here.Alone code device .listening →
      (here.writeByte byte).Has code (· = changed)) :
    Leads (fun state => (line state).Has code (· = device))
      (do
        master.select (some code)
        master.writeByte byte)
      (fun _ state => (line state).Has code (· = changed)) failed := by
  refine Action.leads_bind _ drives.leads_selectOwn fun _ => ?_
  refine drives.leads_writeByte
    (fun here => ∃ own, here.Alone code own .listening ∧ own = device)
    (fun here => here.Has code (· = changed)) ?_
  rintro here ⟨_, alone, rfl⟩
  exact heard here alone

/-! ### Scratchpads -/

/-- The scratchpad of some registers. -/
def scratchpadOf (registers : Registers) : Scratchpad :=
  registers.push (Crc.check registers.toList)

theorem getElem_scratchpadOf (registers : Registers) {place : Nat} (inside : place < 8) :
    (scratchpadOf registers)[place] = registers[place] := by
  unfold scratchpadOf
  exact Vector.getElem_push_lt inside

theorem toList_scratchpadOf (registers : Registers) :
    (scratchpadOf registers).toList = registers.toList ++ [Crc.check registers.toList] := by
  unfold scratchpadOf
  exact Vector.toList_push

/-- **What a device sends fits its check byte** if and only if it is not corrupt. -/
theorem Device.valid_transmission (device : Device) (registers : Registers) :
    Crc.valid (device.transmission registers) = !device.corrupt := by
  have fits : Crc.valid (registers.toList ++ [Crc.check registers.toList]) = true :=
    (Crc.valid_append _ _).mpr rfl
  unfold transmission
  dsimp only
  cases device.corrupt with
  | false => exact fits
  | true =>
    rw [if_pos rfl]
    obtain ⟨first, rest, bytes⟩ : ∃ first rest,
        registers.toList ++ [Crc.check registers.toList] = first :: rest :=
      List.exists_cons_of_ne_nil (by simp)
    rw [bytes] at fits ⊢
    have flipped : ∀ byte : Fin 256, (UInt8.ofFin byte) ^^^ 1 ≠ .ofFin byte := by decide +kernel
    exact Crc.valid_modifyHead fits (flipped first.toFin)

/-- A command makes a device send registers, and changes nothing. -/
def Device.Sends (device : Device) (command : List UInt8) (registers : Registers) : Prop :=
  ∀ (code : Address) (here : Line), here.Alone code device .listening →
    (command.foldl Line.writeByte here).find? code = some device ∧
      (command.foldl Line.writeByte here).out = device.transmission registers

/-- The scratchpad command of a thermometer. -/
theorem Device.thermometer_sends (model : device.model = .thermometer celsius registers) :
    device.Sends [FunctionCommand.readScratchpad.code] registers := by
  intro code here alone
  have ended : Line.Alone code device .idle { here with phase := .idle } :=
    alone.of_same rfl rfl rfl
  have told : here.writeByte FunctionCommand.readScratchpad.code =
      ({ here with phase := .idle } : Line).transmit device registers := by
    have coded : FunctionCommand.ofCode? FunctionCommand.readScratchpad.code =
        some .readScratchpad := rfl
    rw [Line.writeByte, alone.phase]
    dsimp only
    rw [Line.onCommand, coded]
    dsimp only
    rw [Line.onMemoryCommand, ended.single]
    dsimp only
    rw [model]
  show (here.writeByte _).find? _ = _ ∧ (here.writeByte _).out = _
  rw [told]
  exact ⟨ended.found, rfl⟩

/-- The scratchpad command of a battery monitor. -/
theorem Device.monitor_sends (model : device.model = .batteryMonitor celsius vad vdd registers) :
    device.Sends [FunctionCommand.readScratchpad.code, BatteryMonitor.pageNumber] registers :=
  fun _ _ alone => ⟨(alone.show model).1.found, (alone.show model).2⟩

/-- **The scratchpad of the device is read**, byte by byte, unless the device is corrupt. -/
theorem Drives.leads_ownRead (drives : Drives master line) {command : List UInt8}
    (sends : device.Sends command registers) :
    Leads (fun state => (line state).Has code (· = device))
      (Scratchpad.read master code command)
      (fun page state => (line state).Has code (· = device) ∧
        device.corrupt = false ∧ page = scratchpadOf registers)
      fun state => (line state).Has code (· = device) ∧ device.corrupt = true := by
  have length := device.length_transmission registers
  have whole : (device.transmission registers).take 9 = device.transmission registers :=
    List.take_of_length_le (Nat.le_of_eq length)
  refine Action.leads_bind _ drives.leads_selectOwn fun _ => ?_
  refine Action.leads_bind
    (fun _ state => (line state).find? code = some device ∧
      (line state).out = device.transmission registers) ?_ fun _ => ?_
  · refine drives.leads_writeBytes command
      (fun here => ∃ own, here.Alone code own .listening ∧ own = device)
      (fun here => here.find? code = some device ∧
        here.out = device.transmission registers) ?_
    rintro here ⟨_, alone, rfl⟩
    exact sends code here alone
  refine Action.leads_bind _
    (drives.leads_readBytes (fun here => here.find? code = some device)
      (fun _ _ found => found) _ 9 (Nat.le_of_eq length.symm)) fun page => ?_
  have valid := device.valid_transmission registers
  split
  · next fits =>
    refine Action.leads_pure ?_
    rintro state ⟨⟨found, _⟩, read⟩
    rw [whole] at read
    rw [read, valid, Bool.not_eq_true'] at fits
    refine ⟨⟨device, found, rfl⟩, fits, Vector.toList_inj.mp ?_⟩
    rw [read, toList_scratchpadOf]
    unfold Device.transmission
    rw [fits]
    rfl
  · next broken =>
    refine Action.leads_fail ?_
    rintro state ⟨⟨found, _⟩, read⟩
    rw [whole] at read
    rw [read, valid, Bool.not_eq_true', Bool.not_eq_false] at broken
    exact ⟨⟨device, found, rfl⟩, broken⟩

/-! ### Thermometers -/

/-- The driver of a thermometer reads its device. -/
theorem Drives.leads_thermometerRefresh (drives : Drives master line) {driver : Thermometer}
    (model : device.model = .thermometer celsius registers) :
    Leads
      (fun state : Thermometer × σ =>
        state.1 = driver ∧ (line state.2).Has driver.address (· = device))
      (Thermometer.refresh master)
      (fun _ state => state.1 = { driver with scratchpad := scratchpadOf registers } ∧
        (line state.2).Has driver.address (· = device) ∧ device.corrupt = false)
      fun state => (line state.2).Has driver.address (· = device) ∧ device.corrupt = true := by
  refine Action.leads_current_bind ?_
  rintro ⟨current, here⟩ ⟨same, has⟩
  obtain rfl : current = driver := same
  refine Action.leads_bind
    (fun page state => state.1 = current ∧ (line state.2).Has current.address (· = device) ∧
      device.corrupt = false ∧ page = scratchpadOf registers) ?_ fun page => ?_
  · refine ((Action.leads_onSecond (fun other : Thermometer => other = current)
      (drives.leads_ownRead (device.thermometer_sends model))).mono
        (fun _ _ there => there) fun _ there => there.2).of_imp ?_
    rintro _ rfl
    exact ⟨rfl, has⟩
  · refine Action.leads_update ?_
    rintro ⟨_, now⟩ ⟨rfl, known, intact, rfl⟩
    exact ⟨rfl, known, intact⟩

/-- The configuration of the device becomes that of the cached scratchpad. -/
theorem Drives.leads_ownThermometerProgram (drives : Drives master line) (driver : Thermometer)
    (model : device.model = .thermometer celsius registers)
    (high : driver.scratchpad.get 2 = registers[2]) (low : driver.scratchpad.get 3 = registers[3]) :
    Leads (fun state => (line state).Has driver.address (· = device))
      (Thermometer.program master driver)
      (fun _ state => (line state).Has driver.address
        (· = device.configure (driver.scratchpad.get 4))) fun _ => False := by
  unfold Thermometer.program
  rw [high, low]
  refine Action.leads_bind _ drives.leads_selectOwn fun _ => ?_
  refine Action.leads_bind
    (fun _ state => (line state).Alone driver.address device (.storing 2)) ?_ fun _ => ?_
  · refine drives.leads_writeByte
      (fun here => ∃ own, here.Alone driver.address own .listening ∧ own = device)
      (fun here => here.Alone driver.address device (.storing 2)) ?_
    rintro here ⟨_, alone, rfl⟩
    exact alone.storing_thermometer model
  refine Action.leads_bind
    (fun _ state => (line state).Has driver.address
      (· = device.configure (driver.scratchpad.get 4))) ?_ fun _ => ?_
  · exact drives.leads_writeBytes _ (fun here => here.Alone driver.address device (.storing 2))
      (fun here => here.Has driver.address (· = device.configure (driver.scratchpad.get 4)))
      fun here alone => ⟨_, alone.programs_thermometer model _, rfl⟩
  have configured : (device.configure (driver.scratchpad.get 4)).model =
      .thermometer celsius (Line.storeRegister registers 4 (driver.scratchpad.get 4)) := by
    rw [Device.configure_eq model]
  exact drives.leads_ownCommand fun _ alone => ⟨_, alone.copied_thermometer configured, rfl⟩

/-- **The driver of a thermometer** programs its resolution if the device is not corrupt. All other
registers stay as they were. -/
theorem Drives.leads_thermometerSetUp (drives : Drives master line) {driver : Thermometer}
    (family : driver.address.family = Family.thermometer)
    (model : device.model = .thermometer celsius registers) :
    Leads
      (fun state : Thermometer × σ =>
        state.1 = driver ∧ (line state.2).Has driver.address (· = device))
      (Thermometer.setUp master)
      (fun _ state => device.corrupt = false ∧
        (line state.2).Has driver.address (· = device.configure driver.resolution.code))
      fun state => (line state.2).Has driver.address (· = device) ∧ device.corrupt = true := by
  refine Action.leads_current_bind ?_
  rintro ⟨current, here⟩ ⟨same, has⟩
  obtain rfl : current = driver := same
  dsimp only
  rw [if_neg (not_not_intro family)]
  refine Action.leads_bind _ ((drives.leads_thermometerRefresh model).of_imp ?_) fun _ => ?_
  · rintro _ rfl
    exact ⟨rfl, has⟩
  refine Action.leads_current_bind ?_
  rintro ⟨_, now⟩ ⟨rfl, known, intact⟩
  have shown (place : Nat) (inside : place < 8) :
      (scratchpadOf registers)[place] = registers[place] := getElem_scratchpadOf registers inside
  have kept (place : Nat) (inside : place < 8) (other : 4 ≠ place) :
      ((scratchpadOf registers).setIfInBounds 4 current.resolution.code)[place] =
        registers[place] := by
    rw [Vector.getElem_setIfInBounds_ne _ other, shown place inside]
  have written : ((scratchpadOf registers).setIfInBounds 4 current.resolution.code).get 4 =
      current.resolution.code := Vector.getElem_setIfInBounds_self (by decide)
  split
  · next same =>
    have programmed : registers.resolution = current.resolution.code :=
      (shown 4 (by decide)).symm.trans same
    refine Action.leads_pure ?_
    rintro _ rfl
    rw [← programmed, Device.configure_resolution model]
    exact ⟨intact, known⟩
  · refine Action.leads_bind
      (fun _ state => (line state.2).Has current.address (· = device)) (Action.leads_update ?_)
      fun _ => ?_
    · rintro _ rfl
      exact known
    · have programs := drives.leads_ownThermometerProgram
        { current with
          scratchpad := (scratchpadOf registers).setIfInBounds 4 current.resolution.code }
        model (kept 2 (by decide) (by decide)) (kept 3 (by decide) (by decide))
      rw [written] at programs
      exact (Action.leads_second programs).mono (fun _ _ there => ⟨intact, there⟩)
        fun _ => False.elim

/-- The temperature that is read is that in the registers. -/
theorem Drives.leads_thermometerTemperature (drives : Drives master line) {driver : Thermometer}
    (model : device.model = .thermometer celsius registers) :
    Leads
      (fun state : Thermometer × σ =>
        state.1 = driver ∧ (line state.2).Has driver.address (· = device))
      (Thermometer.temperature master)
      (fun value state =>
        value = Thermometer.decode driver.resolution (scratchpadOf registers) ∧
          (line state.2).Has driver.address (· = device))
      fun state => (line state.2).Has driver.address (· = device) ∧ device.corrupt = true := by
  refine Action.leads_bind _ (drives.leads_thermometerRefresh model) fun _ => ?_
  refine Action.leads_current_bind ?_
  rintro ⟨_, now⟩ ⟨rfl, known, _⟩
  refine Action.leads_pure ?_
  rintro _ rfl
  exact ⟨rfl, known⟩

/-! ### Battery monitors -/

/-- The driver of a battery monitor reads its device. -/
theorem Drives.leads_monitorRefresh (drives : Drives master line) {driver : BatteryMonitor}
    (model : device.model = .batteryMonitor celsius vad vdd registers) :
    Leads
      (fun state : BatteryMonitor × σ =>
        state.1 = driver ∧ (line state.2).Has driver.address (· = device))
      (BatteryMonitor.refresh master)
      (fun _ state => state.1 = { driver with page := scratchpadOf registers } ∧
        (line state.2).Has driver.address (· = device) ∧ device.corrupt = false)
      fun state => (line state.2).Has driver.address (· = device) ∧ device.corrupt = true := by
  refine Action.leads_current_bind ?_
  rintro ⟨current, here⟩ ⟨same, has⟩
  obtain rfl : current = driver := same
  have monitor : ∀ own, own = device → ∃ celsius vad vdd registers,
      own.model = .batteryMonitor celsius vad vdd registers := by
    rintro _ rfl
    exact ⟨celsius, vad, vdd, registers, model⟩
  refine Action.leads_bind
    (fun page state => state.1 = current ∧ (line state.2).Has current.address (· = device) ∧
      device.corrupt = false ∧ page = scratchpadOf registers) ?_ fun page => ?_
  · refine ((Action.leads_onSecond (fun other : BatteryMonitor => other = current)
      (Action.leads_bind _ drives.leads_selectOwn fun _ =>
        Action.leads_bind _ (drives.leads_recall (.inl rfl) monitor) fun _ =>
          drives.leads_ownRead (device.monitor_sends model))).mono
        (fun _ _ there => there) fun _ there => there.2).of_imp ?_
    rintro _ rfl
    exact ⟨rfl, has⟩
  · refine Action.leads_update ?_
    rintro ⟨_, now⟩ ⟨rfl, known, intact, rfl⟩
    exact ⟨rfl, known, intact⟩

/-- **The driver of a battery monitor** can read its device if that is not corrupt. -/
theorem Drives.leads_monitorSetUp (drives : Drives master line) {driver : BatteryMonitor}
    (family : driver.address.family = Family.batteryMonitor)
    (model : device.model = .batteryMonitor celsius vad vdd registers) :
    Leads
      (fun state : BatteryMonitor × σ =>
        state.1 = driver ∧ (line state.2).Has driver.address (· = device))
      (BatteryMonitor.setUp master)
      (fun _ state => device.corrupt = false ∧ (line state.2).Has driver.address (· = device))
      fun state => (line state.2).Has driver.address (· = device) ∧ device.corrupt = true := by
  refine Action.leads_current_bind ?_
  rintro ⟨_, here⟩ ⟨rfl, has⟩
  dsimp only
  rw [if_neg (not_not_intro family)]
  refine ((drives.leads_monitorRefresh model).mono
    (fun _ _ there => ⟨there.2.2, there.2.1⟩) fun _ there => there).of_imp ?_
  rintro _ rfl
  exact ⟨rfl, has⟩

/-- The temperature that is read is that in the registers. -/
theorem Drives.leads_monitorTemperature (drives : Drives master line) {driver : BatteryMonitor}
    (model : device.model = .batteryMonitor celsius vad vdd registers) :
    Leads
      (fun state : BatteryMonitor × σ =>
        state.1 = driver ∧ (line state.2).Has driver.address (· = device))
      (BatteryMonitor.temperature master)
      (fun value state => value = BatteryMonitor.decodeTemperature (scratchpadOf registers) ∧
        (line state.2).Has driver.address (· = device))
      fun state => (line state.2).Has driver.address (· = device) ∧ device.corrupt = true := by
  refine Action.leads_bind _ (drives.leads_monitorRefresh model) fun _ => ?_
  refine Action.leads_current_bind ?_
  rintro ⟨_, now⟩ ⟨rfl, known, _⟩
  refine Action.leads_pure ?_
  rintro _ rfl
  exact ⟨rfl, known⟩

/-- The registers of the device become those of the cached page. -/
theorem Drives.leads_ownProgram (drives : Drives master line) {driver : BatteryMonitor}
    {target : Registers} (cached : driver.page.toList.take 8 = target.toList)
    (model : device.model = .batteryMonitor celsius vad vdd registers) {failed : σ → Prop} :
    Leads (fun state => (line state).Has driver.address (· = device))
      (BatteryMonitor.program master driver)
      (fun _ state => (line state).Has driver.address
        (· = { device with model := .batteryMonitor celsius vad vdd target })) failed := by
  refine Action.leads_bind _ drives.leads_selectOwn fun _ => ?_
  refine Action.leads_bind
    (fun _ state => (line state).Alone driver.address device (.storing 0)) ?_ fun _ => ?_
  · refine drives.leads_writeBytes _
      (fun here => ∃ own, here.Alone driver.address own .listening ∧ own = device)
      (fun here => here.Alone driver.address device (.storing 0)) ?_
    rintro here ⟨_, alone, rfl⟩
    exact (alone.memoryCommand model (by decide) (by decide)).storing model
  refine Action.leads_bind
    (fun _ state => (line state).Has driver.address
      (· = { device with model := .batteryMonitor celsius vad vdd target })) ?_ fun _ => ?_
  · refine drives.leads_writeBytes _ (fun here => here.Alone driver.address device (.storing 0))
      (fun here => here.Has driver.address
        (· = { device with model := .batteryMonitor celsius vad vdd target })) ?_
    intro here alone
    exact ⟨_, Line.Alone.storesAll _ (show here.Alone driver.address device
      (if 0 < 8 then .storing 0 else .idle) from alone) model cached fun _ _ none =>
        absurd none (Nat.not_lt_zero _), rfl⟩
  refine Action.leads_bind _ drives.leads_selectOwn fun _ => drives.leads_recall (.inr rfl) ?_
  rintro _ rfl
  exact ⟨celsius, vad, vdd, target, rfl⟩

/-- A battery monitor with an input selected, true for its supply. -/
def Device.selectInput (supply : Bool) (device : Device) : Device :=
  match device.model with
  | .batteryMonitor celsius vad vdd registers =>
    { device with
      model := .batteryMonitor celsius vad vdd
        (Line.storeRegister registers 0 (registers.config.withSupply supply).bits) }
  | _ => device

/-- An input that is selected is not selected again. -/
theorem withSupply_supply (config : MonitorConfig) :
    (config.withSupply config.supply).bits = config.bits := by
  have table : ∀ bits : Fin 256,
      ((MonitorConfig.mk (.ofFin bits)).withSupply (MonitorConfig.mk (.ofFin bits)).supply).bits =
        .ofFin bits := by
    decide +kernel
  exact table config.bits.toFin

theorem Device.selectInput_eq (model : device.model = .batteryMonitor celsius vad vdd registers)
    (supply : Bool) :
    device.selectInput supply =
      { device with
        model := .batteryMonitor celsius vad vdd
          (Line.storeRegister registers 0 (registers.config.withSupply supply).bits) } := by
  unfold selectInput
  rw [model]

theorem Device.selectInput_supply
    (model : device.model = .batteryMonitor celsius vad vdd registers) :
    device.selectInput registers.config.supply = device := by
  have same : Line.storeRegister registers 0 registers.config.bits = registers :=
    Line.storeRegister_getElem registers (show 0 < 8 by decide)
  rw [selectInput_eq model, withSupply_supply, same, ← model]

/-- Writing back the page with an input selected. -/
theorem Drives.leads_ownSelectInput (drives : Drives master line) {driver : BatteryMonitor}
    (model : device.model = .batteryMonitor celsius vad vdd registers) {supply : Bool}
    (cached : driver.page.toList.take 8 =
      registers.toList.set 0 (registers.config.withSupply supply).bits) {failed : σ → Prop} :
    Leads (fun state => (line state).Has driver.address (· = device))
      (BatteryMonitor.program master driver)
      (fun _ state => (line state).Has driver.address (· = device.selectInput supply)) failed := by
  rw [Device.selectInput_eq model]
  exact drives.leads_ownProgram (cached.trans Vector.toList_setIfInBounds.symm) model

/-! ### Conversions -/

/-- **A temperature conversion** of the device. -/
theorem Drives.leads_ownConvert (drives : Drives master line) {failed : σ → Prop} :
    Leads (fun state => (line state).Has code (· = device))
      (do
        master.select (some code)
        master.writeByte FunctionCommand.convertTemperature.code)
      (fun _ state => (line state).Has code (· = device.convertTemperature)) failed :=
  drives.leads_ownCommand fun _ alone => alone.convertTemperature

/-- **A voltage conversion** selects the input and converts. All other registers are written back as
they were. It fails only if the device is corrupt. -/
theorem Drives.leads_ownSampleVoltage (drives : Drives master line) {driver : BatteryMonitor}
    (model : device.model = .batteryMonitor celsius vad vdd registers) (supply : Bool) :
    Leads
      (fun state : BatteryMonitor × σ =>
        state.1 = driver ∧ (line state.2).Has driver.address (· = device))
      (BatteryMonitor.sampleVoltage master supply)
      (fun _ state => (line state.2).Has driver.address
        (· = (device.selectInput supply).convertVoltage))
      fun state => (line state.2).Has driver.address (· = device) ∧ device.corrupt = true := by
  have shown := getElem_scratchpadOf registers (show 0 < 8 by decide)
  have converts : Leads (fun state => (line state).Has driver.address
        (· = device.selectInput supply))
      (do
        master.select (some driver.address)
        master.writeByte FunctionCommand.convertVoltage.code)
      (fun _ state => (line state).Has driver.address
        (· = (device.selectInput supply).convertVoltage))
      fun state => (line state).Has driver.address (· = device) ∧ device.corrupt = true :=
    drives.leads_ownCommand fun _ alone => alone.convertsVoltage
  have cached (byte : UInt8) :
      (BatteryMonitor.mk driver.address ((scratchpadOf registers).set 0 byte)).page.toList.take 8 =
        registers.toList.set 0 byte := by
    rw [Vector.toList_set, toList_scratchpadOf, List.take_set, List.take_left' Vector.length_toList]
  have selects : Leads (fun state => (line state).Has driver.address (· = device))
      (BatteryMonitor.program master ⟨driver.address, (scratchpadOf registers).set 0
        (registers.config.withSupply supply).bits⟩)
      (fun _ state => (line state).Has driver.address (· = device.selectInput supply))
      fun state => (line state).Has driver.address (· = device) ∧ device.corrupt = true :=
    drives.leads_ownSelectInput model (cached _)
  refine Action.leads_bind _ (drives.leads_monitorRefresh model) fun _ => ?_
  refine Action.leads_current_bind ?_
  rintro ⟨_, now⟩ ⟨rfl, known, _⟩
  simp only [BatteryMonitor.config, shown]
  split
  · refine Action.leads_bind (fun _ state => (line state.2).Has driver.address (· = device))
      (Action.leads_update ?_) fun _ => ?_
    · rintro _ rfl
      exact known
    · exact Action.leads_bind _ (Action.leads_second selects) fun _ => Action.leads_second converts
  · next same =>
    obtain rfl := Decidable.not_not.mp same
    rw [Device.selectInput_supply model] at converts ⊢
    refine (Action.leads_second converts).of_imp ?_
    rintro _ rfl
    exact known

/-- **A temperature conversion** of all devices of a line. -/
theorem Drives.leads_convertAll (drives : Drives master line) {failed : σ → Prop} :
    Leads (fun state => (line state).Has code (· = device))
      (do
        master.select none
        master.writeByte FunctionCommand.convertTemperature.code)
      (fun _ state => (line state).Has code (· = device.convertTemperature)) failed := by
  refine Action.leads_bind _
    (drives.leads_select none (fun here => here.Has code (· = device))
      (fun here => ∃ start : Line, start.Has code (· = device) ∧ here = start.selecting none)
      (fun here has => ⟨here, has, rfl⟩) fun _ has => has.devices_ne_nil) fun _ => ?_
  refine drives.leads_writeByte
    (fun here => ∃ start : Line, start.Has code (· = device) ∧ here = start.selecting none)
    (fun here => here.Has code (· = device.convertTemperature)) ?_
  rintro _ ⟨start, ⟨_, found, rfl⟩, rfl⟩
  exact Line.convertAll found

end WireBridge.Sim
