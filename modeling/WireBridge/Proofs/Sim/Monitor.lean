/-
**A battery monitor on a simulated line.**

* `Sim.Shows`: a battery monitor has given voltages at its inputs, and its voltage register shows
  what a conversion of one of them leaves there;
* `Sim.Programmed`: its configuration register selects one of the inputs;
* `Sim.PageOf`: what a driver reads of its registers, which may have one wrong bit;
* `Sim.Line.Alone`: the device alone is selected. It is told what to do and read with
  `Sim.Line.Alone.recall`, `Sim.Line.Alone.show`, `Sim.Line.Alone.program` and
  `Sim.Line.Alone.convertVoltage`.
-/

import WireBridge.Proofs.Sim.Addressing

namespace WireBridge

/-! ### Words -/

theorem Word.toNat_join (low high : UInt8) :
    (Word.join low high).toNat = low.toNat + 256 * high.toNat := by
  have lowBelow : low.toNat < 2 ^ 8 := low.toNat_lt
  have highBelow : high.toNat < 2 ^ 8 := high.toNat_lt
  have shifted : high.toNat <<< 8 % 2 ^ 16 = high.toNat <<< 8 := by
    rw [Nat.shiftLeft_eq]
    omega
  rw [Word.join, UInt16.toNat_or, UInt16.toNat_shiftLeft, UInt8.toNat_toUInt16,
    UInt8.toNat_toUInt16]
  show low.toNat ||| high.toNat <<< 8 % 2 ^ 16 = _
  rw [shifted, Nat.or_comm, ← Nat.shiftLeft_add_eq_or_of_lt lowBelow, Nat.shiftLeft_eq]
  omega

theorem Word.join_low_high (word : UInt16) : Word.join (Word.low word) (Word.high word) = word := by
  have below : word.toNat < 2 ^ 16 := word.toNat_lt
  have high : (word >>> 8).toNat = word.toNat / 2 ^ 8 := by
    rw [UInt16.toNat_shiftRight]
    exact Nat.shiftRight_eq_div_pow word.toNat 8
  refine UInt16.toNat_inj.mp ?_
  rw [toNat_join, Word.low, Word.high, UInt16.toNat_toUInt8, UInt16.toNat_toUInt8, high]
  omega

/-- The low ten bits of a word. -/
theorem Word.join_and (low high : UInt8) :
    Word.join low (high &&& 0x03) = Word.join low high &&& 0x03ff := by
  have lowBelow : low.toNat < 2 ^ 8 := low.toNat_lt
  refine UInt16.toNat_inj.mp ?_
  rw [UInt16.toNat_and, toNat_join, toNat_join, UInt8.toNat_and]
  show low.toNat + 256 * (high.toNat &&& 2 ^ 2 - 1) = (low.toNat + 256 * high.toNat) &&& 2 ^ 10 - 1
  rw [Nat.and_two_pow_sub_one_eq_mod, Nat.and_two_pow_sub_one_eq_mod]
  omega

theorem MonitorConfig.supply_withSupply (config : MonitorConfig) (supply : Bool) :
    (config.withSupply supply).supply = supply := by
  have table : ∀ bits : Fin 256, ∀ supply : Bool,
      ((MonitorConfig.mk (.ofFin bits)).withSupply supply).supply = supply := by
    decide +kernel
  exact table config.bits.toFin supply

/-- The lowest bit does not select the input. -/
theorem MonitorConfig.supply_xor_one (byte : UInt8) :
    (MonitorConfig.mk (byte ^^^ 1)).supply = (MonitorConfig.mk byte).supply := by
  have table : ∀ bits : Fin 256,
      (MonitorConfig.mk (.ofFin bits ^^^ 1)).supply = (MonitorConfig.mk (.ofFin bits)).supply := by
    decide +kernel
  exact table byte.toFin

namespace Sim

/-! ### Registers -/

/-- The word in two registers, low byte first. -/
def Registers.word (registers : Registers) (offset : Fin 7) : UInt16 :=
  Word.join (registers.get offset.castSucc) (registers.get offset.succ)

namespace Registers

variable (registers : Registers) (word : UInt16) {offset other : Fin 7}

theorem word_storeWord : (storeWord registers offset word).word offset = word := by
  show Word.join (storeWord registers offset word)[offset.val]
    (storeWord registers offset word)[offset.val + 1] = word
  unfold storeWord
  rw [Vector.getElem_set_self, Vector.getElem_set_ne _ _ (Nat.succ_ne_self _),
    Vector.getElem_set_self, Word.join_low_high]

/-- Two words that share no register. -/
theorem word_storeWord_of_apart
    (apart : offset.val + 1 < other.val ∨ other.val + 1 < offset.val) :
    (storeWord registers offset word).word other = registers.word other := by
  show Word.join (storeWord registers offset word)[other.val]
    (storeWord registers offset word)[other.val + 1] =
      Word.join registers[other.val] registers[other.val + 1]
  unfold storeWord
  rw [Vector.getElem_set_ne _ _ (by omega), Vector.getElem_set_ne _ _ (by omega),
    Vector.getElem_set_ne _ _ (by omega), Vector.getElem_set_ne _ _ (by omega)]

/-- The first register is in no other word. -/
theorem word_storeRegister_zero (byte : UInt8) (positive : 0 < offset.val) :
    (Line.storeRegister registers 0 byte).word offset = registers.word offset := by
  show Word.join (registers.setIfInBounds 0 byte)[offset.val]
    (registers.setIfInBounds 0 byte)[offset.val + 1] =
      Word.join registers[offset.val] registers[offset.val + 1]
  rw [Vector.getElem_setIfInBounds_ne _ (Nat.ne_of_lt positive),
    Vector.getElem_setIfInBounds_ne _ (Nat.ne_of_lt (Nat.succ_pos _))]

theorem config_storeRegister_zero (byte : UInt8) :
    (Line.storeRegister registers 0 byte).config = ⟨byte⟩ :=
  congrArg MonitorConfig.mk (Vector.getElem_setIfInBounds_self _)

end Registers

/-- The voltage register after a conversion of an input, true for the supply. -/
def converted (vad vdd : Float32) (supply : Bool) : UInt16 :=
  hundredths (if supply then vdd else vad) &&& 0x03ff

/-- A battery monitor with given voltages at its inputs. If an input is named, the voltage register
is as a conversion of that input leaves it. -/
structure Showing (vad vdd : Float32) (shown : Option Bool) (celsius : Float32)
    (registers : Registers) (device : Device) : Prop where
  model : device.model = .batteryMonitor celsius vad vdd registers
  register : ∀ supply, shown = some supply →
    registers.word 3 = converted vad vdd supply

/-- The same at some temperature and with some other registers. -/
def Shows (vad vdd : Float32) (shown : Option Bool) (device : Device) : Prop :=
  ∃ celsius registers, Showing vad vdd shown celsius registers device

/-- A battery monitor whose next voltage conversion measures an input. -/
def Programmed (vad vdd : Float32) (supply : Bool) (device : Device) : Prop :=
  ∃ celsius registers, device.model = .batteryMonitor celsius vad vdd registers ∧
    registers.config.supply = supply

theorem Shows.convertTemperature {vad vdd : Float32} {shown : Option Bool} (device : Device)
    (shows : Shows vad vdd shown device) : Shows vad vdd shown device.convertTemperature := by
  obtain ⟨celsius, registers, model, register⟩ := shows
  unfold Device.convertTemperature
  rw [model]
  refine ⟨celsius, _, rfl, fun supply named => ?_⟩
  rw [← register supply named]
  exact registers.word_storeWord_of_apart _ (by decide)

/-- A voltage conversion measures the input that is selected. -/
theorem Programmed.convertVoltage {vad vdd : Float32} {supply : Bool} {device : Device}
    (programmed : Programmed vad vdd supply device) :
    Shows vad vdd (some supply) device.convertVoltage := by
  obtain ⟨celsius, registers, model, rfl⟩ := programmed
  unfold Device.convertVoltage
  rw [model]
  refine ⟨celsius, _, rfl, fun supply named => ?_⟩
  obtain rfl := Option.some.inj named
  exact registers.word_storeWord _

/-! ### Pages -/

/-- What a driver needs of a page that was sent for some registers. -/
structure PageOf (registers : Registers) (page : Scratchpad) : Prop where
  supply : ∀ address, (BatteryMonitor.mk address page).config.supply = registers.config.supply
  voltage : BatteryMonitor.decodeHundredths page = registers.word 3 &&& 0x03ff

theorem Device.length_transmission (device : Device) (registers : Registers) :
    (device.transmission registers).length = 9 := by
  unfold transmission
  dsimp only
  split
  · rw [List.length_modifyHead, List.length_append, Vector.length_toList]
    rfl
  · rw [List.length_append, Vector.length_toList]
    rfl

/-- A corrupt device changes its first register only. -/
theorem Device.transmission_getElem? (device : Device) (registers : Registers) {place : Nat}
    (inside : place < 8) :
    (device.transmission registers)[place]? =
      some (if device.corrupt && place == 0 then registers[place] ^^^ 1 else registers[place]) := by
  have bytes : (registers.toList ++ [Crc.check registers.toList])[place]? =
      some registers[place] := by
    rw [List.getElem?_append_left (by simpa using inside), Vector.getElem?_toList]
    exact Vector.getElem?_eq_getElem inside
  unfold transmission
  dsimp only
  cases device.corrupt with
  | false => exact bytes
  | true =>
    rw [if_pos rfl, List.getElem?_modifyHead, bytes]
    by_cases first : place = 0 <;> simp [first]

theorem PageOf.of_transmission {device : Device} {registers : Registers} {page : Scratchpad}
    (sent : page.toList = device.transmission registers) : PageOf registers page := by
  have each : ∀ place, (inside : place < 8) → page[place] =
      if device.corrupt && place == 0 then registers[place] ^^^ 1 else registers[place] := by
    intro place inside
    have there : page.toList[place]? = some page[place] := by
      rw [Vector.getElem?_toList]
      exact Vector.getElem?_eq_getElem (by omega)
    rw [sent, device.transmission_getElem? registers inside] at there
    exact (Option.some.inj there).symm
  constructor
  · intro address
    show (MonitorConfig.mk page[0]).supply = (MonitorConfig.mk registers[0]).supply
    rw [each 0 (by decide)]
    cases device.corrupt with
    | false => rfl
    | true => exact MonitorConfig.supply_xor_one registers[0]
  · show Word.join page[3] (page[4] &&& 0x03) = Word.join registers[3] registers[4] &&& 0x03ff
    rw [Word.join_and, each 3 (by decide), each 4 (by decide)]
    simp

namespace Line

/-! ### A device that is selected -/

/-- The device with a code alone is selected, in some phase of the protocol. -/
structure Alone (code : Address) (device : Device) (phase : Phase) (line : Line) : Prop where
  found : line.find? code = some device
  selected : line.selected = [line.placeOf code]
  phase : line.phase = phase

theorem alone_selecting {line : Line} {code : Address} {device : Device}
    (found : line.find? code = some device) :
    Alone code device .listening (line.selecting (some code)) := by
  rw [selecting_some, if_pos (placeOf_lt found)]
  exact ⟨found, rfl, rfl⟩

variable {line : Line} {code : Address} {device : Device} {phase : Phase}
  {celsius vad vdd : Float32} {registers : Registers}

theorem Alone.single (alone : Alone code device phase line) :
    line.single? = some (line.placeOf code, device) := by
  unfold single?
  rw [alone.selected]
  dsimp only
  rw [getElem?_placeOf alone.found, Option.map_some]

/-- Another phase of the same line. -/
theorem Alone.of_same {other : Line} {next : Phase} (alone : Alone code device phase line)
    (devices : other.devices = line.devices) (selected : other.selected = line.selected)
    (reached : other.phase = next) : Alone code device next other := by
  refine ⟨?_, ?_, reached⟩
  · rw [find?, devices]
    exact alone.found
  · rw [selected, alone.selected, placeOf, placeOf, devices]

/-- The device after a change. -/
theorem Alone.modify (alone : Alone code device phase line) {f : Device → Device}
    (keeps : ∀ device, (f device).address = device.address) :
    Alone code (f device) phase (line.modify (line.placeOf code) f) := by
  refine ⟨?_, ?_, alone.phase⟩
  · rw [find?_modify line code _ keeps, if_pos rfl, alone.found, Option.map_some]
  · rw [placeOf_eq (line.codes_modify _ keeps)]
    exact alone.selected

/-- A battery monitor expects a page number after a memory command. -/
theorem Alone.memoryCommand (alone : Alone code device .listening line)
    (monitor : device.model = .batteryMonitor celsius vad vdd registers)
    {command : FunctionCommand} (temperature : command ≠ .convertTemperature)
    (voltage : command ≠ .convertVoltage) :
    Alone code device (.paging command) (line.writeByte command.code) := by
  have ended : Alone code device .idle { line with phase := .idle } := alone.of_same rfl rfl rfl
  have coded : FunctionCommand.ofCode? command.code = some command := by cases command <;> rfl
  have told : line.writeByte command.code =
      ({ line with phase := .idle } : Line).onMemoryCommand command := by
    unfold writeByte
    rw [alone.phase]
    dsimp only
    unfold onCommand
    rw [coded]
    cases command <;> first | rfl | contradiction
  rw [told, onMemoryCommand, ended.single]
  dsimp only
  rw [monitor]
  exact ended.of_same rfl rfl rfl

/-- After the page number of a command that neither shows nor takes registers nothing happens. -/
theorem Alone.ignored {command : FunctionCommand}
    (alone : Alone code device (.paging command) line)
    (monitor : device.model = .batteryMonitor celsius vad vdd registers)
    (read : command ≠ .readScratchpad) (write : command ≠ .writeScratchpad) :
    Alone code device .idle (line.writeByte BatteryMonitor.pageNumber) := by
  have ended : Alone code device .idle { line with phase := .idle } := alone.of_same rfl rfl rfl
  unfold writeByte
  rw [alone.phase]
  dsimp only
  rw [onPage, if_neg (by decide), alone.single]
  dsimp only
  rw [monitor]
  cases command <;> first | exact ended | contradiction

/-- The registers are sent. -/
theorem Alone.shown (alone : Alone code device (.paging .readScratchpad) line)
    (monitor : device.model = .batteryMonitor celsius vad vdd registers) :
    Alone code device .idle (line.writeByte BatteryMonitor.pageNumber) ∧
      (line.writeByte BatteryMonitor.pageNumber).out = device.transmission registers := by
  have ended : Alone code device .idle { line with phase := .idle } := alone.of_same rfl rfl rfl
  have told : line.writeByte BatteryMonitor.pageNumber =
      ({ line with phase := .idle } : Line).transmit device registers := by
    unfold writeByte
    rw [alone.phase]
    dsimp only
    rw [onPage, if_neg (by decide), alone.single]
    dsimp only
    rw [monitor]
  rw [told]
  exact ⟨ended.of_same rfl rfl rfl, rfl⟩

/-- The first register is expected. -/
theorem Alone.storing (alone : Alone code device (.paging .writeScratchpad) line)
    (monitor : device.model = .batteryMonitor celsius vad vdd registers) :
    Alone code device (.storing 0) (line.writeByte BatteryMonitor.pageNumber) := by
  have ended : Alone code device .idle { line with phase := .idle } := alone.of_same rfl rfl rfl
  unfold writeByte
  rw [alone.phase]
  dsimp only
  rw [onPage, if_neg (by decide), alone.single]
  dsimp only
  rw [monitor]
  exact ended.of_same rfl rfl rfl

/-- A register is stored, and the next one is expected below the end. -/
theorem Alone.storedAt {offset limit : Nat} {byte : UInt8} {model : Model}
    (alone : Alone code device (.storing offset) line)
    (told : line.onRegister offset byte =
      ({ line with phase := .idle } : Line).storeAt (line.placeOf code) offset limit model)
    (inside : offset < limit) :
    Alone code { device with model := model }
      (if offset + 1 < limit then .storing (offset + 1) else .idle) (line.writeByte byte) := by
  have ended : Alone code device .idle { line with phase := .idle } := alone.of_same rfl rfl rfl
  unfold writeByte
  rw [alone.phase]
  dsimp only
  rw [told, storeAt, if_pos inside]
  have changed := ended.modify (f := fun device => { device with model := model }) fun _ => rfl
  exact changed.of_same rfl rfl rfl

/-- A battery monitor takes eight registers. -/
theorem Alone.stored {offset : Nat} (alone : Alone code device (.storing offset) line)
    (monitor : device.model = .batteryMonitor celsius vad vdd registers) (inside : offset < 8)
    (byte : UInt8) :
    Alone code
      { device with model := .batteryMonitor celsius vad vdd (storeRegister registers offset byte) }
      (if offset + 1 < 8 then .storing (offset + 1) else .idle) (line.writeByte byte) := by
  refine alone.storedAt ?_ inside
  rw [onRegister, alone.single]
  dsimp only
  rw [monitor]

/-! ### What drivers tell it -/

/-- A memory command that neither shows nor takes registers. -/
theorem Alone.recall (alone : Alone code device .listening line)
    (monitor : device.model = .batteryMonitor celsius vad vdd registers)
    {command : FunctionCommand}
    (idle : command = .recallMemory ∨ command = .copyScratchpad) :
    Alone code device .idle
      ([command.code, BatteryMonitor.pageNumber].foldl writeByte line) := by
  have paging : Alone code device (.paging command) (line.writeByte command.code) := by
    rcases idle with rfl | rfl <;> exact alone.memoryCommand monitor (by decide) (by decide)
  rcases idle with rfl | rfl <;> exact paging.ignored monitor (by decide) (by decide)

theorem Alone.show (alone : Alone code device .listening line)
    (monitor : device.model = .batteryMonitor celsius vad vdd registers) :
    let reached :=
      [FunctionCommand.readScratchpad.code, BatteryMonitor.pageNumber].foldl writeByte line
    Alone code device .idle reached ∧ reached.out = device.transmission registers :=
  (alone.memoryCommand monitor (by decide) (by decide)).shown monitor

/-- The device with a code has got its configuration register and takes the others. -/
def Storing (line : Line) (code : Address) (holds : Device → Prop) : Prop :=
  ∃ device phase, Alone code device phase line ∧ holds device ∧
    (phase = .idle ∨ ∃ offset, 0 < offset ∧ offset < 8 ∧ phase = .storing offset)

theorem Storing.has {holds : Device → Prop} (storing : line.Storing code holds) :
    line.Has code holds := by
  obtain ⟨device, _, alone, here, _⟩ := storing
  exact ⟨device, alone.found, here⟩

/-- The other registers do not select the input. -/
theorem Storing.writeByte {supply : Bool} (storing : line.Storing code (Programmed vad vdd supply))
    (byte : UInt8) : (line.writeByte byte).Storing code (Programmed vad vdd supply) := by
  obtain ⟨device, phase, alone, programmed, rfl | ⟨offset, positive, inside, rfl⟩⟩ := storing
  · have same : line.writeByte byte = line := by
      unfold Line.writeByte
      rw [alone.phase]
    rw [same]
    exact ⟨device, .idle, alone, programmed, .inl rfl⟩
  · obtain ⟨celsius, registers, monitor, selects⟩ := programmed
    refine ⟨_, _, alone.stored monitor inside byte, ⟨celsius, _, rfl, ?_⟩, ?_⟩
    · show (MonitorConfig.mk (registers.setIfInBounds offset byte)[0]).supply = supply
      rw [Vector.getElem_setIfInBounds_ne _ (Nat.ne_of_gt positive)]
      exact selects
    · by_cases more : offset + 1 < 8
      · rw [if_pos more]
        exact .inr ⟨offset + 1, Nat.succ_pos offset, more, rfl⟩
      · rw [if_neg more]
        exact .inl rfl

/-- The registers of a battery monitor are written, the one that selects the input first. -/
theorem Alone.program (alone : Alone code device .listening line)
    (monitor : device.model = .batteryMonitor celsius vad vdd registers) (first : UInt8)
    (rest : List UInt8) :
    Line.Has
      ((first :: rest).foldl Line.writeByte
        ([FunctionCommand.writeScratchpad.code, BatteryMonitor.pageNumber].foldl Line.writeByte
          line))
      code (Programmed vad vdd (MonitorConfig.mk first).supply) := by
  have paging : Alone code device (.paging .writeScratchpad) _ :=
    alone.memoryCommand monitor (by decide) (by decide)
  have stored := (paging.storing monitor).stored monitor (by decide) first
  have programmed : Programmed vad vdd (MonitorConfig.mk first).supply
      { device with model := .batteryMonitor celsius vad vdd (storeRegister registers 0 first) } :=
    ⟨celsius, _, rfl, congrArg MonitorConfig.supply (registers.config_storeRegister_zero first)⟩
  have storing : Line.Storing _ code (Programmed vad vdd (MonitorConfig.mk first).supply) :=
    ⟨_, _, stored, programmed, .inr ⟨1, by decide, by decide, rfl⟩⟩
  rw [List.foldl_cons]
  show Line.Has (rest.foldl Line.writeByte ((((line.writeByte _).writeByte _)).writeByte first)) _ _
  generalize ((line.writeByte _).writeByte _).writeByte first = reached at storing
  induction rest generalizing reached with
  | nil => exact storing.has
  | cons byte rest ih =>
    rw [List.foldl_cons]
    exact ih _ (storing.writeByte byte)

/-- **A voltage conversion** of a battery monitor. -/
theorem Alone.convertVoltage (alone : Alone code device .listening line) {supply : Bool}
    (programmed : Programmed vad vdd supply device) :
    (line.writeByte FunctionCommand.convertVoltage.code).Has code
      (Shows vad vdd (some supply)) := by
  have ended : Alone code device .idle { line with phase := .idle } := alone.of_same rfl rfl rfl
  have told : line.writeByte FunctionCommand.convertVoltage.code =
      ({ line with phase := .idle } : Line).changeSelected Device.convertVoltage := by
    unfold writeByte
    rw [alone.phase]
    rfl
  rw [told, changeSelected_eq, ended.selected]
  exact ⟨device.convertVoltage, (ended.modify Device.address_convertVoltage).found,
    programmed.convertVoltage⟩

/-- **A temperature conversion** of whatever is selected. -/
theorem Has.convertTemperature {holds : Device → Prop} (has : line.Has code holds)
    (stable : ∀ device, holds device → holds device.convertTemperature)
    (listening : line.phase = .listening) :
    (line.writeByte FunctionCommand.convertTemperature.code).Has code holds := by
  have ended : Line.Has
      { line with
        phase := .idle, broadcasts := line.broadcasts + if line.skipped then 1 else 0 }
      code holds := has
  have told : line.writeByte FunctionCommand.convertTemperature.code =
      Line.changeSelected
        { line with
          phase := .idle, broadcasts := line.broadcasts + if line.skipped then 1 else 0 }
        Device.convertTemperature := by
    unfold writeByte
    rw [listening]
    rfl
  rw [told]
  exact ended.changeSelected Device.address_convertTemperature stable

end Line

end Sim

end WireBridge
