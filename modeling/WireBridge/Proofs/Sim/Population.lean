/-
**What stays of the devices on a line.**

Registers and counters of conversions change, but nothing that is sent on a line attaches or
detaches a device or changes what it measures.

* `Sim.Device.asAttached`: a device as it was when it was attached, with its registers at power-on;
* `Sim.Device.Later`: a device at a later time;
* `Sim.Line.population`: the devices of a line as they were attached;
* `Sim.Line.Evolves`: each device of a line at a later time. Every primitive leads to such a line
  (`Sim.Line.evolves_writeByte` and the like).
-/

import Mathlib.Data.List.Forall2
import WireBridge.Proofs.Sim.Addressing

namespace WireBridge

/-- An item is found by its key, if no other has the same. -/
theorem find?_key {α β : Type} [BEq β] [LawfulBEq β] {key : α → β} {items : List α}
    (distinct : (items.map key).Nodup) {item : α} (member : item ∈ items) :
    items.find? (fun other => key other == key item) = some item := by
  induction items with
  | nil => exact absurd member List.not_mem_nil
  | cons head tail ih =>
    obtain ⟨fresh, restDistinct⟩ := List.nodup_cons.mp distinct
    rw [List.find?_cons]
    rcases List.mem_cons.mp member with rfl | later
    · simp
    · have different : key head ≠ key item := fun same =>
        fresh (List.mem_map.mpr ⟨item, later, same.symm⟩)
      rw [beq_eq_false_iff_ne.mpr different]
      exact ih restDistinct later

namespace Sim

/-- What a device measures, with its registers at power-on. -/
def Model.atPowerOn : Model → Model
  | .presenceOnly => .presenceOnly
  | .thermometer celsius _ => .thermometer celsius thermometerPowerOn
  | .batteryMonitor celsius vad vdd _ => .batteryMonitor celsius vad vdd monitorPowerOn

namespace Device

/-- The device as it was attached. -/
def asAttached (device : Device) : Device :=
  { device with model := device.model.atPowerOn, conversions := 0 }

/-- The same device at a later time. -/
structure Later (before after : Device) : Prop where
  attached : after.asAttached = before.asAttached
  conversions : before.conversions ≤ after.conversions

theorem Later.refl (device : Device) : Later device device := ⟨rfl, Nat.le_refl _⟩

theorem Later.trans {first second third : Device} (one : Later first second)
    (other : Later second third) : Later first third :=
  ⟨other.attached.trans one.attached, Nat.le_trans one.conversions other.conversions⟩

theorem Later.address {before after : Device} (later : Later before after) :
    after.address = before.address :=
  congrArg (fun device => device.address) later.attached

theorem Later.model {before after : Device} (later : Later before after) :
    after.model.atPowerOn = before.model.atPowerOn :=
  congrArg (fun device => device.model) later.attached

/-- Other registers do not make another device. -/
theorem later_withModel (device : Device) {model : Model}
    (same : model.atPowerOn = device.model.atPowerOn) :
    Later device { device with model := model } := by
  refine ⟨?_, Nat.le_refl _⟩
  unfold asAttached
  rw [same]

theorem later_convertTemperature (device : Device) : Later device device.convertTemperature := by
  unfold convertTemperature
  split
  · exact .refl device
  · next model => exact ⟨by simp [asAttached, Model.atPowerOn, model], Nat.le_succ _⟩
  · next model => exact ⟨by simp [asAttached, Model.atPowerOn, model], Nat.le_succ _⟩

theorem later_convertVoltage (device : Device) : Later device device.convertVoltage := by
  unfold convertVoltage
  split
  · next model => exact ⟨by simp [asAttached, Model.atPowerOn, model], Nat.le_succ _⟩
  · exact .refl device

end Device

namespace Line

/-- The devices as they were attached. -/
def population (line : Line) : List Device := line.devices.map Device.asAttached

/-- Each device at a later time. -/
def Evolves (before after : Line) : Prop :=
  List.Forall₂ Device.Later before.devices after.devices

theorem Evolves.of_devices {before after : Line} (same : after.devices = before.devices) :
    Evolves before after := by
  unfold Evolves
  rw [same]
  exact List.forall₂_same.mpr fun device _ => .refl device

theorem Evolves.trans {first second third : Line} (one : Evolves first second)
    (other : Evolves second third) : Evolves first third := by
  unfold Evolves at one other ⊢
  generalize first.devices = start, second.devices = middle, third.devices = last at one other
  induction one generalizing last with
  | nil => exact other
  | cons head _ ih =>
    cases other with
    | cons headLater tail => exact .cons (head.trans headLater) (ih _ tail)

/-- The same devices are attached. -/
theorem Evolves.population_eq {before after : Line} (evolves : Evolves before after) :
    after.population = before.population := by
  unfold Evolves at evolves
  unfold population
  generalize before.devices = start, after.devices = last at evolves
  induction evolves with
  | nil => rfl
  | cons head _ ih => rw [List.map_cons, List.map_cons, head.attached, ih]

theorem codes_eq_map (line : Line) : line.codes = line.population.map Device.address := by
  unfold codes population
  rw [List.map_map]
  rfl

/-- A device is found by its code, if no other has the same. -/
theorem find?_of_mem {line : Line} (distinct : line.codes.Nodup) {device : Device}
    (member : device ∈ line.devices) : line.find? device.address = some device :=
  find?_key distinct member

theorem find?_population {line : Line} (distinct : line.codes.Nodup) {device : Device}
    (member : device ∈ line.devices) :
    line.population.find? (·.address == device.address) = some device.asAttached := by
  rw [codes_eq_map] at distinct
  exact find?_key distinct (List.mem_map_of_mem member)

theorem Has.mem_codes {line : Line} {code : Address} {holds : Device → Prop}
    (has : line.Has code holds) : code ∈ line.codes := by
  obtain ⟨device, found, _⟩ := has
  have same := List.find?_some found
  exact List.mem_map.mpr ⟨device, List.mem_of_find?_eq_some found, beq_iff_eq.mp same⟩

theorem exists_has {line : Line} {code : Address} (member : code ∈ line.codes) :
    ∃ device, line.Has code (· = device) := by
  obtain ⟨device, there, rfl⟩ := List.mem_map.mp member
  have found : (line.find? device.address).isSome :=
    List.find?_isSome.mpr ⟨device, there, beq_self_eq_true _⟩
  obtain ⟨first, here⟩ := Option.isSome_iff_exists.mp found
  exact ⟨first, first, here, rfl⟩

/-- The device with a code is the same at a later time. -/
theorem Evolves.find? {before after : Line} (evolves : Evolves before after) (code : Address) :
    Option.Rel Device.Later (before.find? code) (after.find? code) := by
  unfold Evolves at evolves
  unfold Line.find?
  generalize before.devices = start, after.devices = last at evolves
  induction evolves with
  | nil => exact .none
  | @cons device next _ _ later _ ih =>
    rw [List.find?_cons, List.find?_cons, later.address]
    cases device.address == code with
    | true => exact .some later
    | false => exact ih

theorem Evolves.has {before after : Line} (evolves : Evolves before after) {code : Address}
    {device : Device} (found : before.find? code = some device) :
    after.Has code (Device.Later device) := by
  have related := evolves.find? code
  rw [found] at related
  cases h : after.find? code with
  | none =>
    rw [h] at related
    cases related
  | some now =>
    rw [h] at related
    cases related with
    | some later => exact ⟨now, h, later⟩

/-- Every device is there at a later time. -/
theorem Evolves.exists_later {before after : Line} (evolves : Evolves before after)
    {device : Device} (member : device ∈ before.devices) :
    ∃ last ∈ after.devices, Device.Later device last := by
  unfold Evolves at evolves
  generalize before.devices = start, after.devices = final at evolves member
  induction evolves with
  | nil => exact absurd member List.not_mem_nil
  | cons later _ ih =>
    rcases List.mem_cons.mp member with rfl | member
    · exact ⟨_, List.mem_cons_self, later⟩
    · obtain ⟨last, there, laterLast⟩ := ih member
      exact ⟨last, List.mem_cons_of_mem _ there, laterLast⟩

/-! ### The primitives -/

/-- A change of one device. -/
theorem evolves_modify (line : Line) (place : Nat) {change : Device → Device}
    (later : ∀ device, line.devices[place]? = some device → Device.Later device (change device)) :
    Evolves line (line.modify place change) := by
  unfold Evolves modify
  dsimp only
  generalize line.devices = devices at later
  induction devices generalizing place with
  | nil =>
    rw [List.modify_nil]
    exact .nil
  | cons head tail ih =>
    cases place with
    | zero =>
      exact .cons (later head rfl) (List.forall₂_same.mpr fun device _ => .refl device)
    | succ place => exact .cons (.refl head) (ih place fun device found => later device found)

/-- A change of devices at some places, one after the other. -/
theorem evolves_foldl_modify {change : Device → Device}
    (later : ∀ device, Device.Later device (change device)) (places : List Nat) (line : Line) :
    Evolves line (places.foldl (fun line place => line.modify place change) line) := by
  induction places generalizing line with
  | nil => exact .of_devices rfl
  | cons place rest ih =>
    exact (line.evolves_modify place fun device _ => later device).trans (ih _)

/-- A change of selected devices. -/
theorem evolves_changeSelected (line : Line) {change : Device → Device}
    (later : ∀ device, Device.Later device (change device)) :
    Evolves line (line.changeSelected change) := by
  rw [changeSelected_eq]
  exact evolves_foldl_modify later line.selected line

theorem devices_onMemoryCommand (line : Line) (command : FunctionCommand) :
    (line.onMemoryCommand command).devices = line.devices := by
  unfold onMemoryCommand
  split
  · rfl
  · split <;> rfl

theorem devices_onPage (line : Line) (command : FunctionCommand) (page : UInt8) :
    (line.onPage command page).devices = line.devices := by
  unfold onPage
  dsimp only
  split
  · rfl
  · split
    · rfl
    · split <;> rfl

theorem devices_onRomCommand (line : Line) (byte : UInt8) :
    (line.onRomCommand byte).devices = line.devices := by
  unfold onRomCommand
  dsimp only
  repeat (split; · rfl)
  rfl

theorem devices_onCode (line : Line) (received : List UInt8) (byte : UInt8) :
    (line.onCode received byte).devices = line.devices := by
  unfold onCode
  dsimp only
  split <;> rfl

theorem evolves_onCommand (line : Line) (byte : UInt8) : Evolves line (line.onCommand byte) := by
  unfold onCommand
  dsimp only
  split
  · exact evolves_changeSelected
      { line with
        phase := .idle, broadcasts := line.broadcasts + if line.skipped then 1 else 0 }
      Device.later_convertTemperature
  · exact evolves_changeSelected { line with phase := .idle } Device.later_convertVoltage
  · exact .of_devices (devices_onMemoryCommand { line with phase := .idle } _)
  · exact .of_devices rfl

/-- The device that alone is selected is at its place. -/
theorem getElem?_of_single {line : Line} {place : Nat} {device : Device}
    (alone : line.single? = some (place, device)) : line.devices[place]? = some device := by
  unfold single? at alone
  split at alone
  · obtain ⟨_, there, same⟩ := Option.map_eq_some_iff.mp alone
    obtain ⟨rfl, rfl⟩ := Prod.mk.inj same
    exact there
  · exact absurd alone (Option.some_ne_none _).symm

/-- A register that is stored. -/
theorem evolves_storeAt (line : Line) {place : Nat} {device : Device}
    (there : line.devices[place]? = some device) (offset limit : Nat) {model : Model}
    (same : model.atPowerOn = device.model.atPowerOn) :
    Evolves line (line.storeAt place offset limit model) := by
  have changed : Evolves line
      (line.modify place fun device => { device with model := model }) := by
    refine line.evolves_modify place fun other found => ?_
    obtain rfl := Option.some.inj (there.symm.trans found)
    exact device.later_withModel same
  unfold storeAt
  split
  · exact changed
  · exact .of_devices rfl

theorem evolves_onRegister (line : Line) (offset : Nat) (byte : UInt8) :
    Evolves line (line.onRegister offset byte) := by
  unfold onRegister
  dsimp only
  split
  · exact .of_devices rfl
  · next place device alone =>
    have there := getElem?_of_single alone
    split
    · exact .of_devices rfl
    · next model =>
      exact evolves_storeAt { line with phase := .idle } there offset 5
        (by rw [model]; rfl)
    · next model =>
      exact evolves_storeAt { line with phase := .idle } there offset 8
        (by rw [model]; rfl)

/-- **Whatever is written**, the same devices are attached. -/
theorem evolves_writeByte (line : Line) (byte : UInt8) : Evolves line (line.writeByte byte) := by
  unfold writeByte
  split
  · exact .of_devices (line.devices_onRomCommand byte)
  · exact .of_devices (line.devices_onCode _ byte)
  · exact line.evolves_onCommand byte
  · exact .of_devices (line.devices_onPage _ byte)
  · exact line.evolves_onRegister _ byte
  · exact .of_devices rfl
  · exact .of_devices rfl

theorem devices_readByte (line : Line) : line.readByte.2.devices = line.devices := by
  unfold readByte
  split <;> rfl

theorem devices_writeBit (line : Line) (value : Bool) :
    (line.writeBit value).devices = line.devices := by
  unfold writeBit
  split <;> rfl

theorem devices_readBit (line : Line) : line.readBit.2.devices = line.devices := by
  unfold readBit
  split <;> rfl

theorem devices_readTriplet (line : Line) (direction : Bool) :
    (line.readTriplet direction).2.devices = line.devices := by
  have twice : line.readBit.2.readBit.2.devices = line.devices := by
    rw [devices_readBit, devices_readBit]
  unfold readTriplet
  split
  · dsimp only
    split
    · exact twice
    · rw [devices_writeBit]
      exact twice
  · rfl

end Line

end Sim

end WireBridge
