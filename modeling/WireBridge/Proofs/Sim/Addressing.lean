/-
**Talking to one device of a simulated line.**

After a reset and the code of a device, whatever is written and read until the next reset concerns
that device alone.

* `Sim.Line.selecting_some`, `Sim.Line.selecting_none`: who is selected by a code, and by nobody's;
* `Sim.Line.Has`: the device with a code satisfies a condition;
* `Sim.Line.Apart`: another device is selected; then nothing happens to the device with the code
  (`Sim.Line.Apart.writeByte`);
* `Sim.Drives.leads_select` and the like: the same through a bus master.
-/

import WireBridge.Proofs.Action
import WireBridge.Proofs.Rom.Bytes
import WireBridge.Proofs.Sim.Searching

namespace WireBridge.Sim

namespace Line

/-! ### Devices and their places -/

/-- The place of the first device with a code. -/
def placeOf (line : Line) (code : Address) : Nat := line.devices.findIdx (·.address == code)

/-- The first device with a code satisfies a condition. -/
def Has (line : Line) (code : Address) (holds : Device → Prop) : Prop :=
  ∃ device, line.find? code = some device ∧ holds device

/-- Places depend on the codes only. -/
theorem placeOf_eq {line other : Line} (same : other.codes = line.codes) (code : Address) :
    other.placeOf code = line.placeOf code := by
  have fromCodes : ∀ devices : List Device,
      devices.findIdx (·.address == code) = (devices.map Device.address).findIdx (· == code) := by
    intro devices
    rw [List.findIdx_map]
    rfl
  rw [placeOf, placeOf, fromCodes, fromCodes]
  exact congrArg (List.findIdx (· == code)) same

/-- The device with a code is at its place. -/
theorem getElem?_placeOf {line : Line} {code : Address} {device : Device}
    (found : line.find? code = some device) : line.devices[line.placeOf code]? = some device := by
  unfold find? at found
  rw [List.find?_eq_getElem?_findIdx] at found
  exact found

theorem Has.devices_ne_nil {line : Line} {code : Address} {holds : Device → Prop}
    (has : line.Has code holds) : line.devices ≠ [] := by
  obtain ⟨device, found, _⟩ := has
  exact List.ne_nil_of_mem (List.mem_of_find?_eq_some found)

theorem Has.mono {line : Line} {code : Address} {holds wanted : Device → Prop}
    (has : line.Has code holds) (weaker : ∀ device, holds device → wanted device) :
    line.Has code wanted := by
  obtain ⟨device, found, here⟩ := has
  exact ⟨device, found, weaker device here⟩

theorem placeOf_lt {line : Line} {code : Address} {device : Device}
    (found : line.find? code = some device) : line.placeOf code < line.devices.length :=
  (List.getElem?_eq_some_iff.mp (getElem?_placeOf found)).1

/-- The codes after a change that keeps codes. -/
theorem map_address_modify (devices : List Device) (place : Nat) {f : Device → Device}
    (keeps : ∀ device, (f device).address = device.address) :
    (devices.modify place f).map Device.address = devices.map Device.address := by
  refine List.ext_getElem? fun index => ?_
  rw [List.getElem?_map, List.getElem?_map, List.getElem?_modify]
  cases devices[index]? with
  | none => rfl
  | some device =>
    by_cases here : place = index
    · simp [here, keeps]
    · simp [here]

/-- A line with one device changed. -/
def modify (line : Line) (place : Nat) (f : Device → Device) : Line :=
  { line with devices := line.devices.modify place f }

theorem codes_modify (line : Line) (place : Nat) {f : Device → Device}
    (keeps : ∀ device, (f device).address = device.address) :
    (line.modify place f).codes = line.codes :=
  map_address_modify line.devices place keeps

/-- A change that keeps codes changes the device with a code if it is made at its place. -/
theorem find?_modify (line : Line) (code : Address) (place : Nat) {f : Device → Device}
    (keeps : ∀ device, (f device).address = device.address) :
    (line.modify place f).find? code =
      if place = line.placeOf code then (line.find? code).map f else line.find? code := by
  have places := placeOf_eq (line.codes_modify place keeps) code
  unfold find?
  rw [List.find?_eq_getElem?_findIdx, List.find?_eq_getElem?_findIdx]
  show (line.devices.modify place f)[(line.modify place f).placeOf code]? =
    if place = line.placeOf code then (line.devices[line.placeOf code]?).map f
    else line.devices[line.placeOf code]?
  rw [places, List.getElem?_modify]
  cases line.devices[line.placeOf code]? with
  | none => simp
  | some device => by_cases here : place = line.placeOf code <;> simp [here]

/-- A change of selected devices is made to one after the other. -/
theorem changeSelected_eq (line : Line) (f : Device → Device) :
    line.changeSelected f = line.selected.foldl (fun line place => line.modify place f) line := by
  have each : ∀ (places : List Nat) (line : Line),
      places.foldl (fun line place => line.modify place f) line =
        { line with
          devices := places.foldl (fun devices place => devices.modify place f) line.devices } := by
    intro places
    induction places with
    | nil => exact fun _ => rfl
    | cons place rest ih => exact fun line => ih (line.modify place f)
  exact (each line.selected line).symm

theorem codes_foldl_modify {f : Device → Device}
    (keeps : ∀ device, (f device).address = device.address) (places : List Nat) (line : Line) :
    (places.foldl (fun line place => line.modify place f) line).codes = line.codes := by
  induction places generalizing line with
  | nil => rfl
  | cons place rest ih =>
    rw [List.foldl_cons, ih]
    exact line.codes_modify place keeps

/-- A change of selected devices does not touch another device. -/
theorem find?_changeSelected {line : Line} {code : Address} {f : Device → Device}
    (keeps : ∀ device, (f device).address = device.address)
    (apart : line.placeOf code ∉ line.selected) :
    (line.changeSelected f).find? code = line.find? code := by
  rw [changeSelected_eq]
  generalize line.selected = places at apart
  induction places generalizing line with
  | nil => rfl
  | cons place rest ih =>
    obtain ⟨other, others⟩ := not_or.mp (mt List.mem_cons.mpr apart)
    have places := placeOf_eq (line.codes_modify place keeps) code
    rw [List.foldl_cons, ih (places ▸ others), find?_modify line code place keeps,
      if_neg fun same => other same.symm]

/-- A condition that a change keeps still holds after a change of selected devices. -/
theorem Has.changeSelected {line : Line} {code : Address} {holds : Device → Prop}
    {f : Device → Device} (keeps : ∀ device, (f device).address = device.address)
    (stable : ∀ device, holds device → holds (f device)) (has : line.Has code holds) :
    (line.changeSelected f).Has code holds := by
  rw [changeSelected_eq]
  generalize line.selected = places
  induction places generalizing line with
  | nil => exact has
  | cons place rest ih =>
    rw [List.foldl_cons]
    refine ih ?_
    obtain ⟨device, found, here⟩ := has
    have after := find?_modify line code place keeps
    rw [found] at after
    by_cases same : place = line.placeOf code
    · rw [if_pos same] at after
      exact ⟨f device, after, stable device here⟩
    · rw [if_neg same] at after
      exact ⟨device, after, here⟩

end Line

theorem Device.address_convertTemperature (device : Device) :
    device.convertTemperature.address = device.address := by
  unfold convertTemperature
  split <;> rfl

theorem Device.address_convertVoltage (device : Device) :
    device.convertVoltage.address = device.address := by
  unfold convertVoltage
  split <;> rfl

namespace Line

/-! ### Selection -/

/-- The line after a reset and the code of a device, or the command that selects all devices. -/
def selecting (line : Line) : Option Address → Line
  | some code => code.bytes.foldl writeByte (line.reset.2.writeByte RomCommand.matchRom.code)
  | none => line.reset.2.writeByte RomCommand.skipRom.code

theorem selecting_none (line : Line) :
    line.selecting none =
      { line with
        out := [], selected := line.everyone, skipped := true, phase := .listening } := rfl

/-- A code selects the first device that has it. -/
theorem selecting_some (line : Line) (code : Address) :
    line.selecting (some code) =
      { line with
        out := []
        selected := if line.placeOf code < line.devices.length then [line.placeOf code] else []
        skipped := false
        phase := .listening } := by
  have bytes : Address.ofBytes [code.byte 0, code.byte 1, code.byte 2, code.byte 3, code.byte 4,
      code.byte 5, code.byte 6, code.byte 7] = code := code.ofBytes_bytes
  have matching : line.reset.2.writeByte RomCommand.matchRom.code =
      { line with out := [], selected := [], skipped := false, phase := .matching [] } := rfl
  rw [selecting, matching]
  simp only [Address.bytes, List.foldl_cons, List.foldl_nil, writeByte, onCode, List.nil_append,
    List.cons_append, List.length_cons, List.length_nil, Nat.reduceAdd, Nat.reduceLT, if_true,
    Nat.lt_irrefl, if_false, bytes]
  rfl

/-! ### Other devices -/

/-- Devices are selected, but not the one with a code, which satisfies a condition. -/
structure Apart (code : Address) (holds : Device → Prop) (line : Line) : Prop where
  has : line.Has code holds
  apart : line.placeOf code ∉ line.selected
  settled : line.phase ≠ .addressing
  matched : ∀ received, line.phase ≠ .matching received

/-- Other lines with the same devices and the same selection. -/
theorem Apart.of_same {code : Address} {holds : Device → Prop} {line other : Line}
    (apart : Apart code holds line) (devices : other.devices = line.devices)
    (selected : other.selected = line.selected) (settled : other.phase ≠ .addressing)
    (matched : ∀ received, other.phase ≠ .matching received) : Apart code holds other := by
  refine ⟨?_, ?_, settled, matched⟩
  · obtain ⟨device, found, here⟩ := apart.has
    exact ⟨device, by rw [find?, devices]; exact found, here⟩
  · rw [placeOf, devices, selected]
    exact apart.apart

/-- A change of other devices. -/
theorem Apart.changeSelected {code : Address} {holds : Device → Prop} {line : Line}
    {f : Device → Device} (keeps : ∀ device, (f device).address = device.address)
    (apart : Apart code holds line) : Apart code holds (line.changeSelected f) := by
  obtain ⟨device, found, here⟩ := apart.has
  have codes : (line.changeSelected f).codes = line.codes := by
    rw [changeSelected_eq]
    exact codes_foldl_modify keeps line.selected line
  refine ⟨⟨device, (find?_changeSelected keeps apart.apart).trans found, here⟩, ?_, apart.settled,
    apart.matched⟩
  rw [placeOf_eq codes]
  exact apart.apart

theorem Apart.onMemoryCommand {code : Address} {holds : Device → Prop} {line : Line}
    (apart : Apart code holds line) (command : FunctionCommand) :
    Apart code holds (line.onMemoryCommand command) := by
  unfold Line.onMemoryCommand
  split
  · exact apart
  · split
    · exact apart.of_same rfl rfl Phase.noConfusion fun _ => Phase.noConfusion
    · exact apart.of_same rfl rfl apart.settled apart.matched
    · exact apart.of_same rfl rfl Phase.noConfusion fun _ => Phase.noConfusion
    · exact apart

theorem Apart.onCommand {code : Address} {holds : Device → Prop} {line : Line}
    (apart : Apart code holds line) (byte : UInt8) : Apart code holds (line.onCommand byte) := by
  have ended : Apart code holds { line with phase := .idle } :=
    apart.of_same rfl rfl Phase.noConfusion fun _ => Phase.noConfusion
  unfold Line.onCommand
  dsimp only
  split
  · have counted : Apart code holds
        { line with
          phase := .idle, broadcasts := line.broadcasts + if line.skipped then 1 else 0 } :=
      ended.of_same rfl rfl Phase.noConfusion fun _ => Phase.noConfusion
    exact counted.changeSelected Device.address_convertTemperature
  · exact ended.changeSelected Device.address_convertVoltage
  · exact ended.onMemoryCommand _
  · exact ended

theorem Apart.onPage {code : Address} {holds : Device → Prop} {line : Line}
    (apart : Apart code holds line) (command : FunctionCommand) (page : UInt8) :
    Apart code holds (line.onPage command page) := by
  have ended : Apart code holds { line with phase := .idle } :=
    apart.of_same rfl rfl Phase.noConfusion fun _ => Phase.noConfusion
  unfold Line.onPage
  dsimp only
  split
  · exact ended
  · split
    · exact ended
    · split
      · exact ended.of_same rfl rfl ended.settled ended.matched
      · exact ended.of_same rfl rfl Phase.noConfusion fun _ => Phase.noConfusion
      · exact ended

/-- A register of another device. -/
theorem Apart.storeAt {code : Address} {holds : Device → Prop} {line : Line}
    (apart : Apart code holds line) {place : Nat} (other : place ∈ line.selected)
    (offset limit : Nat) (model : Model) :
    Apart code holds (line.storeAt place offset limit model) := by
  have keeps : ∀ device : Device, ({ device with model := model } : Device).address =
      device.address := fun _ => rfl
  have different : place ≠ line.placeOf code := fun same => apart.apart (same ▸ other)
  have stored : Apart code holds
      (line.modify place fun device => { device with model := model }) := by
    obtain ⟨device, found, here⟩ := apart.has
    refine ⟨⟨device, ?_, here⟩, ?_, apart.settled, apart.matched⟩
    · rw [find?_modify line code place keeps, if_neg different]
      exact found
    · rw [placeOf_eq (line.codes_modify place keeps)]
      exact apart.apart
  unfold Line.storeAt
  split
  · split
    · exact stored.of_same rfl rfl Phase.noConfusion fun _ => Phase.noConfusion
    · exact stored.of_same rfl rfl Phase.noConfusion fun _ => Phase.noConfusion
  · exact apart

theorem mem_of_single {line : Line} {place : Nat} {device : Device}
    (alone : line.single? = some (place, device)) : place ∈ line.selected := by
  unfold single? at alone
  split at alone
  · next only selectedEq =>
    obtain ⟨_, _, same⟩ := Option.map_eq_some_iff.mp alone
    obtain ⟨rfl, _⟩ := Prod.mk.inj same
    rw [selectedEq]
    exact List.mem_cons_self
  · exact absurd alone (Option.some_ne_none _).symm

theorem Apart.onRegister {code : Address} {holds : Device → Prop} {line : Line}
    (apart : Apart code holds line) (offset : Nat) (byte : UInt8) :
    Apart code holds (line.onRegister offset byte) := by
  have ended : Apart code holds { line with phase := .idle } :=
    apart.of_same rfl rfl Phase.noConfusion fun _ => Phase.noConfusion
  unfold Line.onRegister
  dsimp only
  split
  · exact ended
  · next place device alone =>
    have selected := mem_of_single alone
    split
    · exact ended
    · exact ended.storeAt selected offset 5 _
    · exact ended.storeAt selected offset 8 _

/-- **What is written while another device is selected** does not touch the device with a code. -/
theorem Apart.writeByte {code : Address} {holds : Device → Prop} {line : Line}
    (apart : Apart code holds line) (byte : UInt8) : Apart code holds (line.writeByte byte) := by
  unfold Line.writeByte
  split
  · next phase => exact absurd phase apart.settled
  · next received phase => exact absurd phase (apart.matched received)
  · exact apart.onCommand byte
  · exact apart.onPage _ byte
  · exact apart.onRegister _ byte
  · exact apart
  · exact apart

theorem Apart.readByte {code : Address} {holds : Device → Prop} {line : Line}
    (apart : Apart code holds line) : Apart code holds line.readByte.2 := by
  unfold Line.readByte
  split
  · exact apart
  · exact apart.of_same rfl rfl apart.settled apart.matched

/-- After the code of another device. -/
theorem Has.apart {code other : Address} {holds : Device → Prop} {line : Line}
    (has : line.Has code holds) (different : other ≠ code) :
    Apart code holds (line.selecting (some other)) := by
  rw [selecting_some]
  refine ⟨has, ?_, Phase.noConfusion, fun _ => Phase.noConfusion⟩
  obtain ⟨device, found, _⟩ := has
  intro member
  by_cases present : line.placeOf other < line.devices.length
  · rw [if_pos present] at member
    have same : line.placeOf code = line.placeOf other := List.mem_singleton.mp member
    have hasOther : (line.devices[line.placeOf other].address == other) = true :=
      @List.findIdx_getElem _ (fun device : Device => device.address == other) line.devices present
    have hasCode := List.find?_some found
    have here := getElem?_placeOf found
    rw [same, List.getElem?_eq_getElem present] at here
    rw [Option.some.inj here] at hasOther
    exact different ((beq_iff_eq.mp hasOther).symm.trans (beq_iff_eq.mp hasCode))
  · rw [if_neg present] at member
    exact List.not_mem_nil member

end Line

/-! ### Through a bus master -/

variable {σ ε : Type} {master : Master σ ε} {line : σ → Line}

open WireBridge.Action (Leads)

theorem Drives.leads_writeByte (drives : Drives master line) (before after : Line → Prop)
    {failed : σ → Prop} {byte : UInt8} (step : ∀ here, before here → after (here.writeByte byte)) :
    Leads (fun state => before (line state)) (master.writeByte byte)
      (fun _ state => after (line state)) failed := by
  intro state holds
  obtain ⟨reached, written, lineEq⟩ := drives.writeByte byte state
  rw [written]
  show after (line reached)
  rw [lineEq]
  exact step _ holds

theorem Drives.leads_readByte (drives : Drives master line) (before : Line → Prop)
    (after : UInt8 → Line → Prop) {failed : σ → Prop}
    (step : ∀ here, before here → after here.readByte.1 here.readByte.2) :
    Leads (fun state => before (line state)) master.readByte
      (fun byte state => after byte (line state)) failed := by
  intro state holds
  obtain ⟨reached, read, lineEq⟩ := drives.readByte state
  rw [read]
  show after (line state).readByte.1 (line reached)
  rw [lineEq]
  exact step _ holds

theorem Drives.leads_writeBytes (drives : Drives master line) (bytes : List UInt8)
    (before after : Line → Prop) {failed : σ → Prop}
    (step : ∀ here, before here → after (bytes.foldl Line.writeByte here)) :
    Leads (fun state => before (line state)) (master.writeBytes bytes)
      (fun _ state => after (line state)) failed := by
  induction bytes generalizing before with
  | nil => exact Action.leads_pure fun _ holds => step _ holds
  | cons byte rest ih =>
    exact Action.leads_bind (fun _ state => after (rest.foldl Line.writeByte (line state)))
      (drives.leads_writeByte before (fun here => after (rest.foldl Line.writeByte here)) step)
      fun _ => ih (fun here => after (rest.foldl Line.writeByte here)) fun _ holds => holds

/-- A bus master does not fail to select devices if there are any. -/
theorem Drives.leads_select (drives : Drives master line) (target : Option Address)
    (before after : Line → Prop) {failed : σ → Prop}
    (step : ∀ here, before here → after (here.selecting target))
    (present : ∀ here, before here → here.devices ≠ []) :
    Leads (fun state => before (line state)) (master.select target)
      (fun _ state => after (line state)) failed := by
  intro state holds
  obtain ⟨afterReset, resetEq, resetLine⟩ := drives.reset state
  have done : after ((line state).selecting target) := step (line state) holds
  rw [Master.select_perform, resetEq, Line.reset_answered (present _ holds)]
  cases target with
  | none =>
    refine drives.leads_writeByte (· = (line state).reset.2) after ?_ afterReset resetLine
    rintro _ rfl
    exact done
  | some code =>
    let matching := (line state).reset.2.writeByte RomCommand.matchRom.code
    have command : Leads (fun now => line now = (line state).reset.2)
        (master.writeByte RomCommand.matchRom.code) (fun _ now => line now = matching) failed := by
      refine drives.leads_writeByte (· = (line state).reset.2) (· = matching) ?_
      rintro _ rfl
      rfl
    have address : Leads (fun now => line now = matching) (master.writeCode code)
        (fun _ now => after (line now)) failed := by
      refine drives.leads_writeBytes code.bytes (· = matching) after ?_
      rintro _ rfl
      exact done
    exact Action.leads_bind _ command (fun _ => address) afterReset resetLine

end WireBridge.Sim
