/-
**What no primitive of a bus master ends.**

* `Master.Spares`: a property of the line that every primitive keeps;
* `Master.Spares.keeps_setUp`, `Master.Spares.keeps_sample`, `Master.Spares.keeps_deviceRead`,
  `Master.Spares.keeps_sampleFamily`: then every action of a device keeps it, whatever its driver;
* `Sim.Drives.spares`: on a simulated line, that the same devices are attached.
-/

import WireBridge.Proofs.Device.Basic
import WireBridge.Proofs.Sim.Population

namespace WireBridge

open WireBridge.Action (Leads Keeps)

variable {σ ε α : Type} {master : Master σ ε} {kept : σ → Prop}

/-- Every primitive keeps a property. -/
structure Master.Spares (master : Master σ ε) (kept : σ → Prop) : Prop where
  reset : Keeps kept master.reset
  writeByte : ∀ byte, Keeps kept (master.writeByte byte)
  readByte : Keeps kept master.readByte
  writeBit : ∀ value, Keeps kept (master.writeBit value)
  readBit : Keeps kept master.readBit
  readTriplet : ∀ direction, Keeps kept (master.readTriplet direction)

namespace Master.Spares

variable (spares : master.Spares kept)

include spares

theorem keeps_writeBytes (bytes : List UInt8) : Keeps kept (master.writeBytes bytes) := by
  induction bytes with
  | nil => exact Action.leads_pure fun _ here => here
  | cons byte rest ih => exact Action.leads_bind _ (spares.writeByte byte) fun _ => ih

theorem keeps_select (target : Option Address) : Keeps kept (master.select target) := by
  have strict : Keeps kept master.strict.reset :=
    Action.leads_bind _ spares.reset fun _ =>
      Action.leads_ofExcept (fun _ _ _ here => here) fun _ here => here
  refine Action.leads_bind _ strict fun _ => ?_
  cases target with
  | none => exact spares.writeByte _
  | some code =>
    exact Action.leads_bind _ (spares.writeByte _) fun _ => spares.keeps_writeBytes code.bytes

theorem keeps_read (code : Address) (command : List UInt8) :
    Keeps kept (Scratchpad.read master code command) := by
  refine Action.leads_bind _ (spares.keeps_select _) fun _ => ?_
  refine Action.leads_bind _ (spares.keeps_writeBytes command) fun _ => ?_
  refine Action.leads_bind _ (Action.keeps_collect spares.readByte 9) fun page => ?_
  split
  · exact Action.leads_pure fun _ here => here
  · exact Action.leads_fail fun _ here => here

/-- A conversion, on one device or on all. -/
theorem keeps_convert (target : Option Address) (byte : UInt8) :
    Keeps kept (do
      master.select target
      master.writeByte byte) :=
  Action.leads_bind _ (spares.keeps_select target) fun _ => spares.writeByte byte

/-! ### Thermometers -/

theorem keeps_thermometerRefresh :
    Keeps (fun state : Thermometer × σ => kept state.2) (Thermometer.refresh master) := by
  refine Action.leads_current_bind fun state here => ?_
  refine Action.leads_bind (fun _ state => kept state.2) ?_ fun _ =>
    Action.leads_update fun _ here => here
  exact (Action.leads_second (spares.keeps_read _ _)).of_imp fun _ same => same ▸ here

theorem keeps_thermometerProgram (driver : Thermometer) :
    Keeps kept (Thermometer.program master driver) := by
  refine Action.leads_bind _ (spares.keeps_select _) fun _ => ?_
  refine Action.leads_bind _ (spares.writeByte _) fun _ => ?_
  refine Action.leads_bind _ (spares.keeps_writeBytes _) fun _ => ?_
  exact spares.keeps_convert _ _

theorem keeps_thermometerSetUp :
    Keeps (fun state : Thermometer × σ => kept state.2) (Thermometer.setUp master) := by
  refine Action.leads_current_bind fun state here => ?_
  dsimp only
  split
  · exact Action.leads_fail fun _ same => same ▸ here
  · refine Action.leads_bind _
      (spares.keeps_thermometerRefresh.of_imp fun _ same => same ▸ here) fun _ => ?_
    refine Action.leads_current_bind fun current still => ?_
    split
    · exact Action.leads_pure fun _ same => same ▸ still
    · refine Action.leads_bind (fun _ state => kept state.2) (Action.leads_update ?_) fun _ => ?_
      · rintro _ rfl
        exact still
      · exact Action.leads_second (spares.keeps_thermometerProgram _)

theorem keeps_thermometerTemperature :
    Keeps (fun state : Thermometer × σ => kept state.2) (Thermometer.temperature master) := by
  refine Action.leads_bind _ spares.keeps_thermometerRefresh fun _ => ?_
  exact Action.leads_current_bind fun _ here => Action.leads_pure fun _ same => same ▸ here

/-! ### Battery monitors -/

theorem keeps_monitorRefresh :
    Keeps (fun state : BatteryMonitor × σ => kept state.2) (BatteryMonitor.refresh master) := by
  refine Action.leads_current_bind fun state here => ?_
  refine Action.leads_bind (fun _ state => kept state.2) ?_ fun _ =>
    Action.leads_update fun _ here => here
  refine (Action.leads_second ?_).of_imp fun _ same => same ▸ here
  refine Action.leads_bind _ (spares.keeps_select _) fun _ => ?_
  exact Action.leads_bind _ (spares.keeps_writeBytes _) fun _ => spares.keeps_read _ _

theorem keeps_monitorProgram (driver : BatteryMonitor) :
    Keeps kept (BatteryMonitor.program master driver) := by
  refine Action.leads_bind _ (spares.keeps_select _) fun _ => ?_
  refine Action.leads_bind _ (spares.keeps_writeBytes _) fun _ => ?_
  refine Action.leads_bind _ (spares.keeps_writeBytes _) fun _ => ?_
  exact Action.leads_bind _ (spares.keeps_select _) fun _ => spares.keeps_writeBytes _

theorem keeps_monitorSetUp :
    Keeps (fun state : BatteryMonitor × σ => kept state.2) (BatteryMonitor.setUp master) := by
  refine Action.leads_current_bind fun state here => ?_
  dsimp only
  split
  · exact Action.leads_fail fun _ same => same ▸ here
  · exact spares.keeps_monitorRefresh.of_imp fun _ same => same ▸ here

theorem keeps_sampleVoltage (supply : Bool) :
    Keeps (fun state : BatteryMonitor × σ => kept state.2)
      (BatteryMonitor.sampleVoltage master supply) := by
  refine Action.leads_bind _ spares.keeps_monitorRefresh fun _ => ?_
  refine Action.leads_current_bind fun current here => ?_
  dsimp only
  have converts : ∀ code, Keeps (fun state : BatteryMonitor × σ => kept state.2)
      (Action.onSecond do
        master.select (some code)
        master.writeByte FunctionCommand.convertVoltage.code) :=
    fun _ => Action.leads_second (spares.keeps_convert _ _)
  split
  · refine Action.leads_bind (fun _ state => kept state.2)
      (Action.leads_update fun _ same => same ▸ here) fun _ => ?_
    exact Action.leads_bind _ (Action.leads_second (spares.keeps_monitorProgram _)) fun _ =>
      converts _
  · exact (converts _).of_imp fun _ same => same ▸ here

theorem keeps_monitorTemperature :
    Keeps (fun state : BatteryMonitor × σ => kept state.2) (BatteryMonitor.temperature master) := by
  refine Action.leads_bind _ spares.keeps_monitorRefresh fun _ => ?_
  exact Action.leads_current_bind fun _ here => Action.leads_pure fun _ same => same ▸ here

theorem keeps_voltage :
    Keeps (fun state : BatteryMonitor × σ => kept state.2) (BatteryMonitor.voltage master) := by
  have reads : Keeps (fun state : BatteryMonitor × σ => kept state.2)
      (BatteryMonitor.hundredths master) := by
    refine Action.leads_bind _ spares.keeps_monitorRefresh fun _ => ?_
    exact Action.leads_current_bind fun _ here => Action.leads_pure fun _ same => same ▸ here
  exact Action.leads_bind _ reads fun _ => Action.leads_pure fun _ here => here

/-! ### Devices -/

omit spares in
theorem keeps_withDriver {δ : Type} {channel : ChannelId} {driver : δ} {store : δ → Driver}
    {action : Action (δ × σ) (BusError ε) α}
    (keeps : Keeps (fun state : δ × σ => kept state.2) action) :
    Keeps (fun state : Device × σ => kept state.2)
      (Device.withDriver channel driver store action) :=
  Device.leads_withDriver (fun _ here => here) keeps

theorem keeps_setUp :
    Keeps (fun state : Device × σ => kept state.2) (Device.setUp master) := by
  refine Action.leads_current_bind ?_
  rintro ⟨⟨channel, driver⟩, line⟩ here
  cases driver with
  | presenceOnly address => exact Action.leads_pure fun _ same => same ▸ here
  | thermometer driver =>
    exact (keeps_withDriver spares.keeps_thermometerSetUp).of_imp fun _ same => same ▸ here
  | batteryMonitor driver =>
    exact (keeps_withDriver spares.keeps_monitorSetUp).of_imp fun _ same => same ▸ here

theorem keeps_sample (quantity : Quantity) :
    Keeps (fun state : Device × σ => kept state.2) (Device.sample master quantity) :=
  Device.leads_sample (fun _ here => here)
    (fun _ _ _ here => (spares.keeps_convert _ _).of_imp fun _ same => same ▸ here)
    fun supply _ _ _ _ here => (spares.keeps_sampleVoltage supply).of_imp fun _ same => same ▸ here

theorem keeps_deviceRead (quantity : Quantity) :
    Keeps (fun state : Device × σ => kept state.2) (Device.read master quantity) :=
  Device.leads_read (fun _ here => here)
    (fun _ _ _ _ here => spares.keeps_thermometerTemperature.of_imp fun _ same => same ▸ here)
    (fun _ _ _ _ here => spares.keeps_monitorTemperature.of_imp fun _ same => same ▸ here)
    fun _ _ _ _ here => spares.keeps_voltage.of_imp fun _ same => same ▸ here

theorem keeps_sampleFamily (family : FamilyCode) :
    Keeps kept (Device.sampleFamily master family) :=
  Device.leads_sampleFamily (spares.keeps_convert none _) (fun _ here => here) family

end Master.Spares

/-! ### Simulated lines -/

namespace Sim

variable {line : σ → Line}

/-- **Nothing that is done through a bus master** attaches or detaches a device. -/
theorem Drives.spares (drives : Drives master line) (start : Line) :
    master.Spares fun state => start.Evolves (line state) where
  reset := by
    refine Action.keeps_iff.mpr fun state here => ?_
    obtain ⟨reached, resetEq, lineEq⟩ := drives.reset state
    rw [resetEq, lineEq]
    exact here.trans (.of_devices rfl)
  writeByte byte :=
    drives.leads_writeByte start.Evolves start.Evolves fun line here =>
      here.trans (line.evolves_writeByte byte)
  readByte :=
    drives.leads_readByte start.Evolves (fun _ => start.Evolves) fun line here =>
      here.trans (.of_devices line.devices_readByte)
  writeBit value := by
    refine Action.keeps_iff.mpr fun state here => ?_
    obtain ⟨reached, writeEq, lineEq⟩ := drives.writeBit value state
    rw [writeEq, lineEq]
    exact here.trans (.of_devices (Line.devices_writeBit _ value))
  readBit := by
    refine Action.keeps_iff.mpr fun state here => ?_
    obtain ⟨reached, readEq, lineEq⟩ := drives.readBit state
    rw [readEq, lineEq]
    exact here.trans (.of_devices (Line.devices_readBit _))
  readTriplet direction := by
    refine Action.keeps_iff.mpr fun state here => ?_
    obtain ⟨reached, tripletEq, lineEq⟩ := drives.readTriplet direction state
    rw [tripletEq, lineEq]
    exact here.trans (.of_devices (Line.devices_readTriplet _ direction))

end Sim

end WireBridge
