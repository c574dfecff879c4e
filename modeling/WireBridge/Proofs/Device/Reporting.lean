/-
**Two ways to report a line that does not answer.**

A bus master may give the status of a reset that shows an empty or a shorted line, or fail with what
is wrong. Whatever uses a reset takes such a status for the error, a short first, so nothing changes
if the bus master is strict. Notes about its calls change only for the resets that are not answered,
which have no status then.

* `Master.select_strict`, `Search.next_strict`, `Device.setUp_strict` and so on: an operation with
  the strict bus master;
* `BusCall.reported`, `Master.traced_strict`, `Master.logged_strict`: the calls of the strict bus
  master;
* `Master.Alike`, `Master.alike_strict`: bus masters that no operation tells apart;
* `Master.reports_alike`: **both reports lead to the same**, with the same calls.
-/

import WireBridge.Proofs.Bus.Positions
import WireBridge.Proofs.Device.Talking
import WireBridge.Registry.Channel

namespace WireBridge

variable {σ β ω ε ν : Type} (master : Master σ ε)

/-! ### Resets -/

@[simp] theorem Master.select_strict (target : Option Address) :
    master.strict.select target = master.select target := by
  simp only [select, strict_strict]
  rfl

/-! ### Searches -/

namespace Search

@[simp] theorem walk_strict (remaining lastZero : Nat) :
    walk master.strict remaining lastZero = walk master remaining lastZero := by
  induction remaining generalizing lastZero with
  | zero => rfl
  | succ left ih =>
    have same : slots master.strict = slots master := rfl
    simp only [walk, same, ih]

@[simp] theorem pass_strict : pass master.strict = pass master := by
  simp only [pass, walk_strict]
  rfl

@[simp] theorem next_strict : next master.strict = next master := by
  simp only [next, pass_strict, Master.strict_strict]

@[simp] theorem confirm_strict (code : Address) :
    confirm master.strict code = confirm master code := by
  simp only [confirm, next_strict]

@[simp] theorem present_strict (code : Address) :
    present master.strict code = present master code := by
  simp only [present, confirm_strict]

theorem ask_strict (state : Search × σ) (question : Question) :
    ask master.strict state question = ask master state question := by
  cases question with
  | next => simp only [ask, next_strict]
  | confirm code => simp only [ask, confirm_strict]

theorem askAll_strict (questions : List Question) (state : Search × σ) :
    askAll master.strict questions state = askAll master questions state := by
  induction questions generalizing state with
  | nil => rfl
  | cons question rest ih => simp only [askAll, ask_strict, ih]

theorem passes_strict (left : Nat) (state : Search × σ) (found : List Address) :
    passes master.strict left state found = passes master left state found := by
  induction left generalizing state found with
  | zero => rfl
  | succ left ih => simp only [passes, next_strict, ih]

end Search

/-! ### Drivers -/

@[simp] theorem Scratchpad.read_strict (address : Address) (command : List UInt8) :
    Scratchpad.read master.strict address command = Scratchpad.read master address command := by
  simp only [Scratchpad.read, Master.select_strict]
  rfl

namespace Thermometer

@[simp] theorem refresh_strict : refresh master.strict = refresh master := by
  simp only [refresh, Scratchpad.read_strict]

@[simp] theorem program_strict (driver : Thermometer) :
    program master.strict driver = program master driver := by
  simp only [program, Master.select_strict]
  rfl

@[simp] theorem setUp_strict : setUp master.strict = setUp master := by
  simp only [setUp, refresh_strict, program_strict]

@[simp] theorem sample_strict (driver : Thermometer) :
    driver.sample master.strict = driver.sample master := by
  simp only [sample, Master.select_strict]
  rfl

@[simp] theorem sampleLine_strict : sampleLine master.strict = sampleLine master := by
  simp only [sampleLine, Master.select_strict]
  rfl

@[simp] theorem temperature_strict : temperature master.strict = temperature master := by
  simp only [temperature, refresh_strict]

end Thermometer

namespace BatteryMonitor

@[simp] theorem refresh_strict : refresh master.strict = refresh master := by
  simp only [refresh, Master.select_strict, Scratchpad.read_strict]
  rfl

@[simp] theorem program_strict (driver : BatteryMonitor) :
    program master.strict driver = program master driver := by
  simp only [program, Master.select_strict]
  rfl

@[simp] theorem setUp_strict : setUp master.strict = setUp master := by
  simp only [setUp, refresh_strict]

@[simp] theorem sampleTemperature_strict (driver : BatteryMonitor) :
    driver.sampleTemperature master.strict = driver.sampleTemperature master := by
  simp only [sampleTemperature, Master.select_strict]
  rfl

@[simp] theorem sampleLine_strict : sampleLine master.strict = sampleLine master := by
  simp only [sampleLine, Master.select_strict]
  rfl

@[simp] theorem sampleVoltage_strict (supply : Bool) :
    sampleVoltage master.strict supply = sampleVoltage master supply := by
  simp only [sampleVoltage, refresh_strict, program_strict, Master.select_strict]
  rfl

@[simp] theorem temperature_strict : temperature master.strict = temperature master := by
  simp only [temperature, refresh_strict]

@[simp] theorem voltage_strict : voltage master.strict = voltage master := by
  simp only [voltage, hundredths, refresh_strict]

end BatteryMonitor

namespace Device

@[simp] theorem setUp_strict : setUp master.strict = setUp master := by
  simp only [setUp, Thermometer.setUp_strict, BatteryMonitor.setUp_strict]

@[simp] theorem sample_strict (quantity : Quantity) :
    sample master.strict quantity = sample master quantity := by
  simp only [sample, Thermometer.sample_strict, BatteryMonitor.sampleTemperature_strict,
    BatteryMonitor.sampleVoltage_strict]

@[simp] theorem read_strict (quantity : Quantity) :
    read master.strict quantity = read master quantity := by
  simp only [read, Thermometer.temperature_strict, BatteryMonitor.temperature_strict,
    BatteryMonitor.voltage_strict]

@[simp] theorem sampleFamily_strict (family : FamilyCode) :
    sampleFamily master.strict family = sampleFamily master family := by
  simp only [sampleFamily, Thermometer.sampleLine_strict, BatteryMonitor.sampleLine_strict]

end Device

/-! ### Channels -/

namespace Channel

variable (master : Master (β × ω) ε)

@[simp] theorem discover_strict (family : Option FamilyCode) :
    discover master.strict family = discover master family := by
  simp only [discover, Search.passes_strict]

@[simp] theorem addDevice_strict (code : Address) (state : Channel β × ω) :
    addDevice master.strict code state = addDevice master code state := by
  simp only [addDevice, Device.setUp_strict]

end Channel

/-! ### Calls -/

/-- A call as a strict bus master makes it: there is no status if the reset was not answered. -/
def BusCall.reported : BusCall → BusCall
  | .reset status => .reset (status.filter fun status => status.presence && !status.shortCircuit)
  | call => call

namespace Master

/-- A bus master with another reset. -/
theorem eq_with_reset {first second : Master σ ε}
    (others : { first with reset := second.reset } = second) (reset : first.reset = second.reset) :
    first = second :=
  (congrArg (fun reset => { first with reset := reset }) reset).trans others

/-- **The calls of a strict bus master** are those of the bus master itself, but for the statuses of
the resets that are not answered. -/
theorem traced_strict (note : BusCall → ν) :
    master.strict.traced note = (master.traced fun call => note call.reported).strict := by
  refine eq_with_reset rfl (Action.ext ?_)
  rintro ⟨line, notes⟩
  simp only [traced, strict, Action.noted_perform, Action.perform_bind]
  -- A log inside the strict bus master notes a reset before it fails, and so drops its status.
  rcases master.reset.perform line with ⟨error | ⟨presence, short, level, direction⟩, reached⟩
  · rfl
  · cases presence <;> cases short <;> rfl

theorem through_strict {τ : Type} (enter : τ → σ) (leave : σ → τ) :
    (master.through enter leave).strict = master.strict.through enter leave := by
  refine eq_with_reset rfl (Action.ext fun state => ?_)
  simp only [through, strict, Action.through, Action.perform_bind, Action.perform_ofStep]
  rcases master.reset.perform (enter state) with ⟨error | status, reached⟩
  · rfl
  · rfl

theorem logged_strict (master : Master (β × ω) ε) (note : BusCall → ν) :
    master.strict.logged note = (master.logged fun call => note call.reported).strict := by
  rw [logged, logged, traced_strict, through_strict]

/-! ### Bus masters that nothing tells apart -/

/-- Bus masters with which every operation gives the same result and leaves the same driver, search
and line. -/
structure Alike (first second : Master σ ε) : Prop where
  select : ∀ target, first.select target = second.select target
  search : ∀ questions state,
    Search.askAll first questions state = Search.askAll second questions state
  present : ∀ code, Search.present first code = Search.present second code
  thermometer :
    Thermometer.setUp first = Thermometer.setUp second ∧
    (∀ driver : Thermometer, driver.sample first = driver.sample second) ∧
    Thermometer.sampleLine first = Thermometer.sampleLine second ∧
    Thermometer.temperature first = Thermometer.temperature second
  batteryMonitor :
    BatteryMonitor.setUp first = BatteryMonitor.setUp second ∧
    (∀ driver : BatteryMonitor, driver.sampleTemperature first = driver.sampleTemperature second) ∧
    BatteryMonitor.sampleLine first = BatteryMonitor.sampleLine second ∧
    (∀ supply, BatteryMonitor.sampleVoltage first supply =
      BatteryMonitor.sampleVoltage second supply) ∧
    BatteryMonitor.temperature first = BatteryMonitor.temperature second ∧
    BatteryMonitor.voltage first = BatteryMonitor.voltage second
  device :
    Device.setUp first = Device.setUp second ∧
    (∀ quantity, Device.sample first quantity = Device.sample second quantity) ∧
    (∀ quantity, Device.read first quantity = Device.read second quantity) ∧
    ∀ family, Device.sampleFamily first family = Device.sampleFamily second family

/-- A bus master and the strict one. -/
theorem alike_strict : Alike master master.strict where
  select target := (master.select_strict target).symm
  search questions state := (Search.askAll_strict master questions state).symm
  present code := (Search.present_strict master code).symm
  thermometer := by simp
  batteryMonitor := by simp
  device := by simp

/-- **Both reports lead to the same.** Let a bus master give the status of each reset, and another
one, which is otherwise the same, fail if the status shows a short, or else no device. Then every
selection, all passes and questions for devices in any order, and all that drivers and devices do
have the same results, leave the same drivers, searches and lines, and consist of the same calls;
only where a reset was not answered has it no status in the calls of the second. So do the searches
of a channel, and so are devices added to it. -/
theorem reports_alike :
    (∀ (master : Master σ ε) (note : BusCall → ν),
      Alike (master.traced fun call => note call.reported) (master.strict.traced note)) ∧
    ∀ (master : Master (β × ω) ε) (note : BusCall → ν),
      (∀ family, Channel.discover (master.logged fun call => note call.reported) family =
        Channel.discover (master.strict.logged note) family) ∧
      ∀ code, Channel.addDevice (master.logged fun call => note call.reported) code =
        Channel.addDevice (master.strict.logged note) code := by
  constructor
  · intro master note
    rw [traced_strict]
    exact alike_strict _
  · intro master note
    rw [logged_strict]
    exact ⟨fun family => (Channel.discover_strict _ family).symm,
      fun code => funext fun state => (Channel.addDevice_strict _ code state).symm⟩

end Master

end WireBridge
