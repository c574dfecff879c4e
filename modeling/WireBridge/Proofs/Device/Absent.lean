/-
**Drivers of devices that are not there.**

Where no device sends, a line reads all ones, and these do not fit their check byte.

* `Sim.Line.Silent`: no device listens or sends;
* `Sim.Drives.absent_read`: the scratchpad of a device that is not on the line is never read;
* `Sim.Drives.absent_setUp`, `Sim.Drives.absent_deviceRead`: neither does its driver read it.
-/

import WireBridge.Proofs.Device.Drivers
import WireBridge.Proofs.Device.Sparing

namespace WireBridge.Sim

open WireBridge.Action (Leads Keeps)

variable {σ ε : Type} {master : Master σ ε} {line : σ → Line} {code : Address}

namespace Line

theorem Evolves.find?_eq_none {before after : Line} (evolves : Evolves before after)
    (absent : before.find? code = none) : after.find? code = none := by
  have related := evolves.find? code
  rw [absent] at related
  cases found : after.find? code with
  | none => rfl
  | some device =>
    rw [found] at related
    cases related

/-- No device listens or sends. -/
structure Silent (line : Line) : Prop where
  selected : line.selected = []
  out : line.out = []
  phase : line.phase = .listening ∨ line.phase = .idle

/-- The code of a device that is not there selects none. -/
theorem silent_selecting {line : Line} (absent : line.find? code = none) :
    (line.selecting (some code)).Silent := by
  have nowhere : ¬ line.placeOf code < line.devices.length := by
    intro inside
    have there :=
      @List.findIdx_getElem Device (fun device => device.address == code) line.devices inside
    exact List.find?_eq_none.mp absent _ (List.getElem_mem inside) there
  rw [selecting_some, if_neg nowhere]
  exact ⟨rfl, rfl, .inl rfl⟩

theorem Silent.onCommand {line : Line} (silent : line.Silent) (byte : UInt8) :
    (line.onCommand byte).Silent := by
  have single : ({ line with phase := .idle } : Line).single? = none := by
    unfold single?
    rw [silent.selected]
  unfold Line.onCommand
  dsimp only
  split
  · exact ⟨silent.selected, silent.out, .inr rfl⟩
  · exact ⟨silent.selected, silent.out, .inr rfl⟩
  · unfold onMemoryCommand
    rw [single]
    exact ⟨silent.selected, silent.out, .inr rfl⟩
  · exact ⟨silent.selected, silent.out, .inr rfl⟩

theorem Silent.writeByte {line : Line} (silent : line.Silent) (byte : UInt8) :
    (line.writeByte byte).Silent := by
  unfold Line.writeByte
  rcases silent.phase with listening | idle
  · rw [listening]
    exact silent.onCommand byte
  · rw [idle]
    exact silent

end Line

theorem Drives.silent_readBytes (drives : Drives master line) (count : Nat) :
    Leads (fun state => (line state).Silent) (master.readBytes count)
      (fun bytes state => (line state).Silent ∧ bytes = Vector.replicate count 0xff)
      fun _ => True := by
  induction count with
  | zero => exact Action.leads_pure fun _ silent => ⟨silent, rfl⟩
  | succ before ih =>
    refine Action.leads_bind _ ih fun earlier => ?_
    refine Action.leads_bind
      (fun byte state => (line state).Silent ∧ earlier = Vector.replicate before 0xff ∧
        byte = 0xff) ?_ fun byte => ?_
    · refine drives.leads_readByte
        (fun here => here.Silent ∧ earlier = Vector.replicate before 0xff)
        (fun byte here => here.Silent ∧ earlier = Vector.replicate before 0xff ∧ byte = 0xff) ?_
      rintro here ⟨silent, read⟩
      unfold Line.readByte
      rw [silent.out]
      exact ⟨silent, read, rfl⟩
    · refine Action.leads_pure ?_
      rintro state ⟨silent, rfl, rfl⟩
      exact ⟨silent, Vector.replicate_succ.symm⟩

/-- **What is not there is not read.** -/
theorem Drives.absent_read (drives : Drives master line) (command : List UInt8) :
    Leads (fun state => (line state).find? code = none) (Scratchpad.read master code command)
      (fun _ _ => False) fun _ => True := by
  intro state absent
  by_cases empty : (line state).devices = []
  · obtain ⟨reached, resetEq, _⟩ := drives.reset state
    have failed : (Scratchpad.read master code command).perform state =
        (.error .noDevicePresent, reached) := by
      unfold Scratchpad.read
      rw [Action.perform_bind, Master.select_perform, resetEq, Line.reset_empty empty]
      rfl
    rw [failed]
    trivial
  · have selects : Leads (· = state) (master.select (some code))
        (fun _ reached => (line reached).Silent) fun _ => True := by
      refine (drives.leads_select (some code) (· = line state) Line.Silent ?_ ?_).of_imp
        fun _ same => congrArg line same
      · rintro _ rfl
        exact Line.silent_selecting absent
      · rintro _ rfl
        exact empty
    have writes : Leads (fun reached => (line reached).Silent) (master.writeBytes command)
        (fun _ reached => (line reached).Silent) fun _ => True := by
      refine drives.leads_writeBytes command Line.Silent Line.Silent fun here silent => ?_
      induction command generalizing here with
      | nil => exact silent
      | cons byte rest ih => exact ih _ (silent.writeByte byte)
    refine Action.leads_bind _ selects (fun _ => ?_) state rfl
    refine Action.leads_bind _ writes fun _ => ?_
    refine Action.leads_bind _ (drives.silent_readBytes 9) fun page => ?_
    split
    · next fits =>
      refine Action.leads_pure ?_
      rintro _ ⟨_, rfl⟩
      exact absurd fits (by decide +kernel)
    · exact Action.leads_fail fun _ _ => trivial

/-- What is written does not attach the device. -/
theorem absent_writes {α : Type} {action : Action σ (BusError ε) α}
    (keeps : ∀ start : Line, Keeps (fun state => start.Evolves (line state)) action) :
    Leads (fun state => (line state).find? code = none) action
      (fun _ state => (line state).find? code = none) fun _ => True := by
  refine Action.Leads.mono (Action.keeps_iff.mpr fun state absent => ?_) (fun _ _ still => still)
    fun _ _ => trivial
  exact (Action.keeps_iff.mp (keeps (line state)) state (.of_devices rfl)).find?_eq_none absent

theorem Drives.absent_thermometerRefresh (drives : Drives master line) :
    Leads (fun state : Thermometer × σ => state.1.address = code ∧ (line state.2).find? code = none)
      (Thermometer.refresh master) (fun _ _ => False) fun _ => True := by
  refine Action.leads_current_bind ?_
  rintro ⟨driver, here⟩ ⟨rfl, absent⟩
  refine Action.leads_bind (fun _ _ => False) ?_ fun _ => fun _ => False.elim
  refine (Action.leads_second (drives.absent_read _)).of_imp ?_
  rintro _ rfl
  exact absent

theorem Drives.absent_monitorRefresh (drives : Drives master line) :
    Leads
      (fun state : BatteryMonitor × σ => state.1.address = code ∧ (line state.2).find? code = none)
      (BatteryMonitor.refresh master) (fun _ _ => False) fun _ => True := by
  refine Action.leads_current_bind ?_
  rintro ⟨driver, here⟩ ⟨rfl, absent⟩
  refine Action.leads_bind (fun _ _ => False) ?_ fun _ => fun _ => False.elim
  have reads : Leads (fun state => (line state).find? driver.address = none)
      (do
        master.select (some driver.address)
        master.writeBytes [FunctionCommand.recallMemory.code, BatteryMonitor.pageNumber]
        Scratchpad.read master driver.address
          [FunctionCommand.readScratchpad.code, BatteryMonitor.pageNumber])
      (fun _ _ => False) fun _ => True := by
    refine Action.leads_bind _
      (absent_writes fun start => (drives.spares start).keeps_select _) fun _ => ?_
    refine Action.leads_bind _
      (absent_writes fun start => (drives.spares start).keeps_writeBytes _) fun _ => ?_
    exact drives.absent_read _
  refine (Action.leads_second reads).of_imp ?_
  rintro _ rfl
  exact absent

/-- **A driver that has to read its device** cannot be made if that is not there. -/
theorem Drives.absent_setUp (drives : Drives master line) {channel : ChannelId} :
    Leads
      (fun state : WireBridge.Device × σ =>
        state.1 = .ofAddress channel code ∧ (line state.2).find? code = none)
      (Device.setUp master) (fun _ _ => Family.quantities code.family = []) fun _ => True := by
  have thermometer : Leads
      (fun state : Thermometer × σ => state.1.address = code ∧ (line state.2).find? code = none)
      (Thermometer.setUp master) (fun _ _ => Family.quantities code.family = [])
      fun _ => True := by
    refine Action.leads_current_bind fun state here => ?_
    dsimp only
    split
    · exact Action.leads_fail fun _ _ => trivial
    · exact Action.leads_bind _ (drives.absent_thermometerRefresh.of_imp fun _ same => same ▸ here)
        fun _ _ => False.elim
  have monitor : Leads
      (fun state : BatteryMonitor × σ => state.1.address = code ∧ (line state.2).find? code = none)
      (BatteryMonitor.setUp master) (fun _ _ => Family.quantities code.family = [])
      fun _ => True := by
    refine Action.leads_current_bind fun state here => ?_
    dsimp only
    split
    · exact Action.leads_fail fun _ _ => trivial
    · exact (drives.absent_monitorRefresh.mono (fun _ _ => False.elim) fun _ _ => trivial).of_imp
        fun _ same => same ▸ here
  refine Action.leads_current_bind ?_
  rintro ⟨device, here⟩ ⟨rfl, absent⟩
  dsimp only [Device.ofAddress]
  unfold Driver.ofAddress
  split
  · exact Device.leads_withDriver (fun state same => ⟨rfl, same ▸ absent⟩) thermometer
  · next notThermometer =>
    split
    · exact Device.leads_withDriver (fun state same => ⟨rfl, same ▸ absent⟩) monitor
    · next notMonitor =>
      refine Action.leads_pure fun _ _ => ?_
      rw [Family.quantities, if_neg notThermometer, if_neg notMonitor]

/-- **A driver of a device that is not there** reads nothing. -/
theorem Drives.absent_deviceRead (drives : Drives master line) (quantity : Quantity) :
    Leads
      (fun state : WireBridge.Device × σ =>
        state.1.driver.Fits code ∧ (line state.2).find? code = none)
      (Device.read master quantity) (fun _ _ => False) fun _ => True := by
  have thermometer : Leads
      (fun state : Thermometer × σ => state.1.address = code ∧ (line state.2).find? code = none)
      (Thermometer.temperature master) (fun _ _ => False) fun _ => True :=
    Action.leads_bind _ drives.absent_thermometerRefresh fun _ _ => False.elim
  have monitor {α : Type} (next : Unit → Action (BatteryMonitor × σ) (BusError ε) α) : Leads
      (fun state : BatteryMonitor × σ => state.1.address = code ∧ (line state.2).find? code = none)
      (BatteryMonitor.refresh master >>= next) (fun _ _ => False) fun _ => True :=
    Action.leads_bind _ drives.absent_monitorRefresh fun _ _ => False.elim
  refine Device.leads_read (fun _ _ => trivial) ?_ ?_ ?_
  · rintro _ channel driver here ⟨fits, absent⟩ _ rfl
    exact thermometer (driver, here) ⟨fits.1, absent⟩
  · rintro _ channel driver here ⟨fits, absent⟩ _ rfl
    exact monitor _ (driver, here) ⟨fits.1, absent⟩
  · rintro _ channel driver here ⟨fits, absent⟩
    refine Action.leads_bind _ ((monitor _).of_imp ?_) fun _ _ => False.elim
    rintro _ rfl
    exact ⟨fits.1, absent⟩

end WireBridge.Sim
