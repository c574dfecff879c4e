/-
**Whose errors they are.**

An action on a line fails with an error of its bus master or with one of its own. It is the same
action for every bus master, so with one that marks its errors it tells which it was.

* `Master.attributed`: a bus master that marks its errors; `BusError.plain` takes the marks off;
* `BusError.OfLine`: the errors of a bus master, and of a line that does not answer as it should;
* `Action.Blames`: an action fails with such errors only, and does what it does with marked ones;
* `Device.blames_setUp`, `Device.blames_sample`, `Device.blames_read`: this is so for the drivers
  that are made for a code, and for what its family measures.
-/

import WireBridge.Proofs.Device.Drivers

namespace WireBridge

variable {σ τ ε α β : Type}

/-- The errors of a bus master, and of a line that does not answer as it should. -/
inductive BusError.OfLine : BusError ε → Prop
  | other (error : ε) : OfLine (.other error)
  | noDevicePresent : OfLine .noDevicePresent
  | shortCircuit : OfLine .shortCircuit
  | invalidCrc : OfLine .invalidCrc

/-- An error without the mark of the bus master. -/
def BusError.plain : BusError (BusError ε) → BusError ε
  | .other error => error
  | .noDevicePresent => .noDevicePresent
  | .shortCircuit => .shortCircuit
  | .busUninitialized => .busUninitialized
  | .unimplemented => .unimplemented
  | .invalidCrc => .invalidCrc
  | .invalidFamily => .invalidFamily

/-- The bus master with a mark on each of its errors. -/
def Master.attributed (master : Master σ ε) : Master σ (BusError ε) where
  reset := master.reset.mapError .other
  writeByte byte := (master.writeByte byte).mapError .other
  readByte := master.readByte.mapError .other
  writeBit value := (master.writeBit value).mapError .other
  readBit := master.readBit.mapError .other
  readTriplet direction := (master.readTriplet direction).mapError .other

/-! ### Actions -/

namespace Action

/-- From states with a property, an action does what it does with marked errors, and then it fails
only with errors of the bus master or the line. -/
def Blames (before : σ → Prop) (action : Action σ (BusError ε) α)
    (marked : Action σ (BusError (BusError ε)) α) : Prop :=
  ∀ state, before state →
    action.perform state =
        ((marked.perform state).1.mapError .plain, (marked.perform state).2) ∧
      ∀ error, (marked.perform state).1 = .error error → error.OfLine

variable {before : σ → Prop}

theorem Blames.of_imp {start : σ → Prop} {action : Action σ (BusError ε) α}
    {marked : Action σ (BusError (BusError ε)) α} (blames : Blames before action marked)
    (weaker : ∀ state, start state → before state) : Blames start action marked :=
  fun state holds => blames state (weaker state holds)

theorem blames_pure (value : α) :
    Blames before (pure value : Action σ (BusError ε) α) (pure value) :=
  fun _ _ => ⟨rfl, fun _ failed => absurd failed (by simp)⟩

theorem blames_fail {error : BusError (BusError ε)} (known : error.OfLine) :
    Blames before (fail error.plain : Action σ (BusError ε) α) (fail error) :=
  fun _ _ => ⟨rfl, fun _ failed => Except.error.inj failed ▸ known⟩

theorem blames_update (change : σ → σ) :
    Blames before (update change : Action σ (BusError ε) Unit) (update change) :=
  fun _ _ => ⟨rfl, fun _ failed => absurd failed (by simp)⟩

theorem blames_bind {action : Action σ (BusError ε) α} {next : α → Action σ (BusError ε) β}
    {marked : Action σ (BusError (BusError ε)) α}
    {markedNext : α → Action σ (BusError (BusError ε)) β}
    (first : Blames before action marked)
    (second : ∀ value, Blames (fun _ => True) (next value) (markedNext value)) :
    Blames before (action >>= next) (marked >>= markedNext) := by
  intro state holds
  obtain ⟨same, known⟩ := first state holds
  rw [perform_bind, perform_bind, same]
  generalize marked.perform state = performed at known ⊢
  obtain ⟨error | value, reached⟩ := performed
  · exact ⟨rfl, fun other failed => Except.error.inj failed ▸ known error rfl⟩
  · exact second value reached trivial

theorem blames_current_bind {next : σ → Action σ (BusError ε) α}
    {markedNext : σ → Action σ (BusError (BusError ε)) α}
    (rest : ∀ state, before state → Blames (· = state) (next state) (markedNext state)) :
    Blames before (current >>= next) (current >>= markedNext) :=
  fun state holds => rest state holds state rfl

/-- An action of the bus master. -/
theorem blames_mapError (action : Action σ (BusError ε) α) :
    Blames before action (action.mapError .other) := by
  intro state _
  rw [perform_mapError]
  generalize action.perform state = performed
  obtain ⟨error | value, reached⟩ := performed
  · exact ⟨rfl, fun _ failed => Except.error.inj failed ▸ .other error⟩
  · exact ⟨rfl, fun _ failed => nomatch (failed : Except.ok value = Except.error _)⟩

theorem blames_onSecond {before : τ × σ → Prop} {action : Action σ (BusError ε) α}
    {marked : Action σ (BusError (BusError ε)) α} (blames : Blames (fun _ => True) action marked) :
    Blames before (onSecond action) (onSecond marked) := by
  rintro ⟨first, second⟩ _
  obtain ⟨same, known⟩ := blames second trivial
  rw [perform_onSecond, perform_onSecond, same]
  exact ⟨rfl, known⟩

theorem blames_forEach {action : β → Action σ (BusError ε) Unit}
    {marked : β → Action σ (BusError (BusError ε)) Unit}
    (each : ∀ item, Blames (fun _ => True) (action item) (marked item)) (items : List β) :
    Blames before (forEach items action) (forEach items marked) := by
  induction items generalizing before with
  | nil => exact blames_pure ()
  | cons item rest ih =>
    exact blames_bind ((each item).of_imp fun _ _ => trivial) fun _ => ih

theorem blames_collect {action : Action σ (BusError ε) α}
    {marked : Action σ (BusError (BusError ε)) α}
    (each : Blames (fun _ => True) action marked) (count : Nat) :
    Blames before (collect count action) (collect count marked) := by
  induction count with
  | zero => exact blames_pure _
  | succ earlier ih =>
    exact blames_bind ih fun _ => blames_bind each fun _ => blames_pure _

end Action

open WireBridge.Action (Blames)

variable {master : Master σ ε} {before : σ → Prop}

/-! ### Bus masters -/

namespace Master

theorem blames_writeBytes (bytes : List UInt8) :
    Blames before (master.writeBytes bytes) (master.attributed.writeBytes bytes) :=
  Action.blames_forEach (fun _ => Action.blames_mapError _) bytes

theorem blames_strict_reset :
    Blames before master.strict.reset master.attributed.strict.reset := by
  refine Action.blames_bind (Action.blames_mapError _) fun status => ?_
  obtain ⟨presence, short, level, direction⟩ := status
  cases short with
  | true => exact Action.blames_fail .shortCircuit
  | false =>
    cases presence with
    | true => exact Action.blames_pure _
    | false => exact Action.blames_fail .noDevicePresent

theorem blames_select (target : Option Address) :
    Blames before (master.select target) (master.attributed.select target) := by
  refine Action.blames_bind blames_strict_reset fun _ => ?_
  cases target with
  | none => exact Action.blames_mapError _
  | some address =>
    exact Action.blames_bind (Action.blames_mapError _) fun _ => blames_writeBytes _

end Master

theorem Scratchpad.blames_read (address : Address) (command : List UInt8) :
    Blames before (Scratchpad.read master address command)
      (Scratchpad.read master.attributed address command) := by
  refine Action.blames_bind (Master.blames_select _) fun _ => ?_
  refine Action.blames_bind (Master.blames_writeBytes _) fun _ => ?_
  refine Action.blames_bind (Action.blames_collect (Action.blames_mapError _) 9) fun bytes => ?_
  split
  · exact Action.blames_pure _
  · exact Action.blames_fail .invalidCrc

/-- The command for a conversion, to one device or to all. -/
theorem Master.blames_convert (target : Option Address) (command : UInt8) :
    Blames before
      (do
        master.select target
        master.writeByte command)
      (do
        master.attributed.select target
        master.attributed.writeByte command) :=
  Action.blames_bind (blames_select target) fun _ => Action.blames_mapError _

/-! ### Thermometers -/

namespace Thermometer

variable {before : Thermometer × σ → Prop}

theorem blames_refresh : Blames before (refresh master) (refresh master.attributed) := by
  refine Action.blames_current_bind ?_
  rintro ⟨driver, line⟩ _
  refine Action.blames_bind (Action.blames_onSecond (Scratchpad.blames_read _ _)) fun _ => ?_
  exact Action.blames_update _

theorem blames_program {before : σ → Prop} (driver : Thermometer) :
    Blames before (program master driver) (program master.attributed driver) := by
  refine Action.blames_bind (Master.blames_select _) fun _ => ?_
  refine Action.blames_bind (Action.blames_mapError _) fun _ => ?_
  refine Action.blames_bind (Master.blames_writeBytes _) fun _ => ?_
  exact Master.blames_convert _ _

/-- A thermometer reads itself without complaints about its family. -/
theorem blames_setUp (own : ∀ state, before state → state.1.address.family = Family.thermometer) :
    Blames before (setUp master) (setUp master.attributed) := by
  refine Action.blames_current_bind ?_
  rintro ⟨driver, line⟩ start
  have family := own _ start
  dsimp only at family ⊢
  rw [if_neg (not_not_intro family), if_neg (not_not_intro family)]
  refine Action.blames_bind blames_refresh fun _ => Action.blames_current_bind ?_
  rintro ⟨current, reached⟩ _
  dsimp only
  split
  · exact Action.blames_pure _
  · refine Action.blames_bind (Action.blames_update _) fun _ => ?_
    exact Action.blames_onSecond (blames_program _)

theorem blames_temperature :
    Blames before (temperature master) (temperature master.attributed) := by
  refine Action.blames_bind blames_refresh fun _ => Action.blames_current_bind ?_
  rintro ⟨driver, line⟩ _
  exact Action.blames_pure _

end Thermometer

/-! ### Battery monitors -/

namespace BatteryMonitor

variable {before : BatteryMonitor × σ → Prop}

theorem blames_refresh : Blames before (refresh master) (refresh master.attributed) := by
  refine Action.blames_current_bind ?_
  rintro ⟨driver, line⟩ _
  refine Action.blames_bind (Action.blames_onSecond ?_) fun _ => Action.blames_update _
  refine Action.blames_bind (Master.blames_select _) fun _ => ?_
  exact Action.blames_bind (Master.blames_writeBytes _) fun _ => Scratchpad.blames_read _ _

theorem blames_program {before : σ → Prop} (driver : BatteryMonitor) :
    Blames before (program master driver) (program master.attributed driver) := by
  refine Action.blames_bind (Master.blames_select _) fun _ => ?_
  refine Action.blames_bind (Master.blames_writeBytes _) fun _ => ?_
  refine Action.blames_bind (Master.blames_writeBytes _) fun _ => ?_
  exact Action.blames_bind (Master.blames_select _) fun _ => Master.blames_writeBytes _

/-- A battery monitor reads itself without complaints about its family. -/
theorem blames_setUp
    (own : ∀ state, before state → state.1.address.family = Family.batteryMonitor) :
    Blames before (setUp master) (setUp master.attributed) := by
  refine Action.blames_current_bind ?_
  rintro ⟨driver, line⟩ start
  have family := own _ start
  dsimp only at family ⊢
  rw [if_neg (not_not_intro family), if_neg (not_not_intro family)]
  exact blames_refresh

theorem blames_sampleVoltage (supply : Bool) :
    Blames before (sampleVoltage master supply) (sampleVoltage master.attributed supply) := by
  refine Action.blames_bind blames_refresh fun _ => Action.blames_current_bind ?_
  rintro ⟨driver, line⟩ _
  dsimp only
  split
  · refine Action.blames_bind (Action.blames_update _) fun _ => ?_
    refine Action.blames_bind (Action.blames_onSecond (blames_program _)) fun _ => ?_
    exact Action.blames_onSecond (Master.blames_convert _ _)
  · exact Action.blames_onSecond (Master.blames_convert _ _)

theorem blames_temperature :
    Blames before (temperature master) (temperature master.attributed) := by
  refine Action.blames_bind blames_refresh fun _ => Action.blames_current_bind ?_
  rintro ⟨driver, line⟩ _
  exact Action.blames_pure _

theorem blames_voltage : Blames before (voltage master) (voltage master.attributed) := by
  refine Action.blames_bind ?_ fun _ => Action.blames_pure _
  refine Action.blames_bind blames_refresh fun _ => Action.blames_current_bind ?_
  rintro ⟨driver, line⟩ _
  exact Action.blames_pure _

end BatteryMonitor

/-! ### Devices -/

/-- A driver implements the measurement of a quantity. -/
inductive Driver.Implements : Driver → Quantity → Prop
  | thermometer (driver : Thermometer) : Implements (.thermometer driver) .temperature
  | temperature (driver : BatteryMonitor) : Implements (.batteryMonitor driver) .temperature
  | vad (driver : BatteryMonitor) : Implements (.batteryMonitor driver) .vad
  | vdd (driver : BatteryMonitor) : Implements (.batteryMonitor driver) .vdd

/-- **What the family of a code measures** is implemented by the driver that is made for it. -/
theorem Driver.implements_of_forget {driver : Driver} {code : Address} {quantity : Quantity}
    (made : driver.forget = ofAddress code) (measured : quantity ∈ Family.quantities code.family) :
    driver.Implements quantity := by
  cases of_forget made with
  | presenceOnly notThermometer notMonitor =>
    rw [quantities_eq_nil made] at measured
    exact absurd measured List.not_mem_nil
  | @thermometer driver family address =>
    rw [family] at measured
    obtain rfl : quantity = .temperature := List.mem_singleton.mp measured
    exact .thermometer driver
  | @batteryMonitor driver family address =>
    rw [family] at measured
    cases quantity with
    | presence => exact absurd measured (by decide)
    | temperature => exact .temperature driver
    | vad => exact .vad driver
    | vdd => exact .vdd driver

namespace Device

variable {before : Device × σ → Prop} {code : Address} {quantity : Quantity}

theorem blames_withDriver {δ : Type} {channel : ChannelId} {driver : δ} {store : δ → Driver}
    {action : Action (δ × σ) (BusError ε) α} {marked : Action (δ × σ) (BusError (BusError ε)) α}
    (blames : Blames (fun state => state.1 = driver) action marked) :
    Blames before (withDriver channel driver store action)
      (withDriver channel driver store marked) := by
  rintro ⟨device, line⟩ _
  obtain ⟨same, known⟩ := blames (driver, line) rfl
  unfold withDriver
  rw [Action.perform_ofStep, Action.perform_ofStep]
  dsimp only
  rw [same]
  exact ⟨rfl, known⟩

/-- **A device that was made for a code** reads itself without complaints about its family. -/
theorem blames_setUp (made : ∀ state, before state → state.1.driver.forget = .ofAddress code) :
    Blames before (setUp master) (setUp master.attributed) := by
  refine Action.blames_current_bind ?_
  rintro ⟨⟨channel, driver⟩, line⟩ start
  have fits := Driver.fits_of_forget (made _ start)
  cases driver with
  | presenceOnly address => exact Action.blames_pure _
  | thermometer driver =>
    obtain ⟨rfl, family⟩ := fits
    refine blames_withDriver (Thermometer.blames_setUp ?_)
    rintro ⟨_, here⟩ rfl
    exact family
  | batteryMonitor driver =>
    obtain ⟨rfl, family⟩ := fits
    refine blames_withDriver (BatteryMonitor.blames_setUp ?_)
    rintro ⟨_, here⟩ rfl
    exact family

variable (implements : ∀ state, before state → state.1.driver.Implements quantity)

include implements

/-- **Starting a conversion** that a driver implements. -/
theorem blames_sample :
    Blames before (sample master quantity) (sample master.attributed quantity) := by
  refine Action.blames_current_bind ?_
  rintro ⟨⟨channel, driver⟩, line⟩ start
  have converts : Blames (· = ((⟨channel, driver⟩ : Device), line))
      (Action.onSecond do
        master.select (some driver.address)
        master.writeByte FunctionCommand.convertTemperature.code)
      (Action.onSecond do
        master.attributed.select (some driver.address)
        master.attributed.writeByte FunctionCommand.convertTemperature.code) :=
    Action.blames_onSecond (Master.blames_convert _ _)
  -- The branch that is not implemented is the one without a case here.
  cases implements _ start with
  | thermometer driver => exact Action.blames_bind converts fun _ => Action.blames_pure _
  | temperature driver => exact Action.blames_bind converts fun _ => Action.blames_pure _
  | vad driver =>
    exact Action.blames_bind (blames_withDriver (BatteryMonitor.blames_sampleVoltage false))
      fun _ => Action.blames_pure _
  | vdd driver =>
    exact Action.blames_bind (blames_withDriver (BatteryMonitor.blames_sampleVoltage true))
      fun _ => Action.blames_pure _

/-- **Reading a result** that a driver implements. -/
theorem blames_read : Blames before (read master quantity) (read master.attributed quantity) := by
  refine Action.blames_current_bind ?_
  rintro ⟨⟨channel, driver⟩, line⟩ start
  cases implements _ start with
  | thermometer driver =>
    exact Action.blames_bind (blames_withDriver Thermometer.blames_temperature) fun _ =>
      Action.blames_pure _
  | temperature driver =>
    exact Action.blames_bind (blames_withDriver BatteryMonitor.blames_temperature) fun _ =>
      Action.blames_pure _
  | vad driver => exact blames_withDriver BatteryMonitor.blames_voltage
  | vdd driver => exact blames_withDriver BatteryMonitor.blames_voltage

end Device

end WireBridge
