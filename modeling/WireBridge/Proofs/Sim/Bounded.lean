/-
**The arithmetic of a simulated line.**

A line finds devices by their places and bits and bytes by their indices, and counts in eight and in
thirty-two bits. Here each of these uses is checked, and the first that is out of bounds ends
everything. Indices that are the same in every use are those of a `Vector` and need no check.

* `Sim.Breakdown`: what could be out of bounds;
* `Sim.Checked.writeByte` and the like: the primitives with each use checked. On a sound line they
  do what they do unchecked (`Sim.Checked.writeByte_eq` and the like);
* `Sim.attempts`: any calls, each use checked;
* `Sim.attempts_bounded`: **no call is out of bounds but one that reads the 256th slot of a search
  position**, as long as conversions and broadcasts are fewer than can be counted;
  `Sim.attempts_of_streaks`: there is no such call if at most 255 slots are read in a row.
-/

import Mathlib.Data.List.Infix
import WireBridge.Proofs.Sim.Calls

namespace WireBridge.Sim

/-- What is out of bounds. -/
inductive Breakdown where
  /-- The place of a device. -/
  | place
  /-- The index of a bit of a ROM code. -/
  | bit
  /-- The index of a byte of a ROM code, or of what is sent. -/
  | byte
  /-- The index of a register. -/
  | register
  /-- The counter of search positions. -/
  | positions
  /-- The counter of the slots of a search position. -/
  | slots
  /-- The counter of a device's conversions. -/
  | conversions
  /-- The counter of conversions started on all devices at once. -/
  | broadcasts
deriving DecidableEq

/-- The counters of conversions have thirty-two bits. -/
structure Line.Moderate (line : Line) : Prop where
  broadcasts : line.broadcasts < 2 ^ 32
  conversions : ∀ device ∈ line.devices, device.conversions < 2 ^ 32

instance (line : Line) : Decidable line.Moderate :=
  decidable_of_iff
    (line.broadcasts < 2 ^ 32 ∧ ∀ device ∈ line.devices, device.conversions < 2 ^ 32)
    ⟨fun both => ⟨both.1, both.2⟩, fun moderate => ⟨moderate.1, moderate.2⟩⟩

/-! ### The primitives with each use checked -/

namespace Checked

/-- An index below the number of items. -/
def below (items index : Nat) (breakdown : Breakdown) : Except Breakdown Unit :=
  if index < items then .ok () else .error breakdown

/-- The item at an index. -/
def item {α : Type} (items : List α) (index : Nat) (breakdown : Breakdown) :
    Except Breakdown α :=
  match items[index]? with
  | some found => .ok found
  | none => .error breakdown

/-- One more in a counter that has some values. -/
def count (values counter : Nat) (breakdown : Breakdown) : Except Breakdown Nat :=
  if counter + 1 < values then .ok (counter + 1) else .error breakdown

/-- The bit of a device at a position of its code. -/
def bitAt (line : Line) (position place : Nat) : Except Breakdown Bool := do
  let device ← item line.devices place .place
  below 64 position .bit
  return device.address.bit position

/-- A conversion of the device at a place. -/
def convertAt (change : Device → Device) (line : Line) (place : Nat) : Except Breakdown Line := do
  let device ← item line.devices place .place
  below (2 ^ 32) (change device).conversions .conversions
  return line.modify place change

/-- Let a device send registers. -/
def transmit (line : Line) (device : Device) (registers : Registers) : Except Breakdown Line := do
  let bytes := registers.toList ++ [Crc.check registers.toList]
  if device.corrupt then
    let first ← item bytes 0 .byte
    return { line with out := bytes.set 0 (first ^^^ 1) }
  else
    return { line with out := bytes }

/-- A byte of a ROM code. -/
def onCode (line : Line) (received : List UInt8) (byte : UInt8) : Except Breakdown Line := do
  below 8 received.length .byte
  return line.onCode received byte

/-- The first byte of a memory command. -/
def onMemoryCommand (line : Line) (command : FunctionCommand) : Except Breakdown Line :=
  match line.single? with
  | none => return line
  | some (_, device) =>
    match device.model, command with
    | .batteryMonitor .., _ => return { line with phase := .paging command }
    | .thermometer _ registers, .readScratchpad => transmit line device registers
    | .thermometer .., .writeScratchpad => return { line with phase := .storing 2 }
    | _, _ => return line

/-- The temperature conversions started on all devices at once, with the one that starts now. -/
def countBroadcast (line : Line) : Except Breakdown Nat :=
  if line.skipped then count (2 ^ 32) line.broadcasts .broadcasts else return line.broadcasts

/-- A function command. -/
def onCommand (line : Line) (byte : UInt8) : Except Breakdown Line :=
  let ended := { line with phase := .idle }
  match FunctionCommand.ofCode? byte with
  | some .convertTemperature => do
    let broadcasts ← countBroadcast line
    line.selected.foldlM (convertAt Device.convertTemperature)
      { ended with broadcasts := broadcasts }
  | some .convertVoltage => line.selected.foldlM (convertAt Device.convertVoltage) ended
  | some command => onMemoryCommand ended command
  | none => return ended

/-- The page number of a memory command. -/
def onPage (line : Line) (command : FunctionCommand) (page : UInt8) : Except Breakdown Line :=
  let ended := { line with phase := .idle }
  if page ≠ 0 then return ended
  else
    match line.single? with
    | none => return ended
    | some (_, device) =>
      match device.model, command with
      | .batteryMonitor _ _ _ registers, .readScratchpad => transmit ended device registers
      | _, .writeScratchpad => return { ended with phase := .storing 0 }
      | _, _ => return ended

/-- Store a register of the device at a place. -/
def storeAt (line : Line) (place offset limit : Nat) (model : Model) : Except Breakdown Line := do
  if offset < limit then
    below 8 offset .register
  return line.storeAt place offset limit model

/-- A register that is written. -/
def onRegister (line : Line) (offset : Nat) (byte : UInt8) : Except Breakdown Line :=
  let ended := { line with phase := .idle }
  match line.single? with
  | none => return ended
  | some (place, device) =>
    match device.model with
    | .presenceOnly => return ended
    | .thermometer celsius registers =>
      storeAt ended place offset 5
        (.thermometer celsius (Line.storeRegister registers offset byte))
    | .batteryMonitor celsius vad vdd registers =>
      storeAt ended place offset 8
        (.batteryMonitor celsius vad vdd (Line.storeRegister registers offset byte))

/-- Write a byte. -/
def writeByte (line : Line) (byte : UInt8) : Except Breakdown Line :=
  match line.phase with
  | .addressing => return line.onRomCommand byte
  | .matching received => onCode line received byte
  | .listening => onCommand line byte
  | .paging command => onPage line command byte
  | .storing offset => onRegister line offset byte
  | .idle => return line
  | .searching .. => return line

/-- Write a bit. -/
def writeBit (line : Line) (value : Bool) : Except Breakdown Line :=
  match line.phase with
  | .searching position _ => do
    let kept ← line.selected.filterM fun place => do
      let bit ← bitAt line position place
      return bit == value
    if position = 63 then
      return { line with selected := kept, phase := .listening }
    else
      let following ← count 256 position .positions
      return { line with selected := kept, phase := .searching following 0 }
  | _ => return line

/-- Read a bit. -/
def readBit (line : Line) : Except Breakdown (Bool × Line) :=
  match line.phase with
  | .searching position slots => do
    let bits ← line.selected.mapM (bitAt line position)
    let counted ← count 256 slots .slots
    return (if slots = 0 then !bits.contains false else !bits.contains true,
      { line with phase := .searching position counted })
  | _ => return (true, line)

/-- Read two bits and write one. -/
def readTriplet (line : Line) (direction : Bool) : Except Breakdown (Triplet × Line) :=
  match line.phase with
  | .searching .. => do
    let (id, afterId) ← readBit line
    let (complement, afterBoth) ← readBit afterId
    if id && complement then return (⟨true, true, true⟩, afterBoth)
    else
      let taken := if id = complement then direction else id
      let written ← writeBit afterBoth taken
      return (⟨id, complement, taken⟩, written)
  | _ => return (⟨true, true, true⟩, line)

/-! ### On a sound line -/

theorem ok_bind {ε α β : Type} (value : α) (next : α → Except ε β) :
    (Except.ok value >>= next) = next value :=
  rfl

theorem below_eq {items index : Nat} (inside : index < items) (breakdown : Breakdown) :
    below items index breakdown = .ok () :=
  if_pos inside

theorem item_eq {α : Type} {items : List α} {index : Nat} {found : α}
    (here : items[index]? = some found) (breakdown : Breakdown) :
    item items index breakdown = .ok found := by
  unfold item
  rw [here]

theorem count_eq {values counter : Nat} (inside : counter + 1 < values) (breakdown : Breakdown) :
    count values counter breakdown = .ok (counter + 1) :=
  if_pos inside

theorem count_error {values counter : Nat} (beyond : values ≤ counter + 1) (breakdown : Breakdown) :
    count values counter breakdown = .error breakdown :=
  if_neg (Nat.not_lt.mpr beyond)

/-- Checks that all hold leave a map. -/
theorem mapM_eq {ε α β : Type} {check : α → Except ε β} {value : α → β} {items : List α}
    (each : ∀ one ∈ items, check one = .ok (value one)) :
    items.mapM check = .ok (items.map value) := by
  induction items with
  | nil => rfl
  | cons head tail ih =>
    obtain ⟨here, others⟩ := List.forall_mem_cons.mp each
    rw [List.mapM_cons, here, ih others]
    rfl

/-- Checks that all hold leave a filter. -/
theorem filterM_eq {ε α : Type} {check : α → Except ε Bool} {value : α → Bool} {items : List α}
    (each : ∀ one ∈ items, check one = .ok (value one)) :
    items.filterM check = .ok (items.filter value) := by
  have collected : ∀ kept : List α, List.filterAuxM check items kept =
      .ok ((items.filter value).reverse ++ kept) := by
    induction items with
    | nil => exact fun _ => rfl
    | cons head tail ih =>
      intro kept
      obtain ⟨here, others⟩ := List.forall_mem_cons.mp each
      rw [List.filterAuxM, here]
      refine (ih others _).trans (congrArg Except.ok ?_)
      cases here : value head <;> simp [here]
  unfold List.filterM
  rw [collected []]
  exact congrArg Except.ok (by simp)

variable {line : Line}

theorem bitAt_eq {position place : Nat} {device : Device}
    (here : line.devices[place]? = some device) (inside : position < 64) :
    bitAt line position place = .ok (device.address.bit position) := by
  unfold bitAt
  rw [item_eq here, ok_bind, below_eq inside]
  rfl

/-- The bits of the selected devices at the position of a search. -/
theorem bits_eq (sound : line.Sound) {position slots : Nat}
    (phase : line.phase = .searching position slots) :
    ∃ bits, line.selected.mapM (bitAt line position) = .ok bits ∧
      ∀ value, bits.contains value = line.anyBit position value := by
  have inside : position < 64 := by
    have inside := sound.inside
    rwa [phase] at inside
  let bitOf (place : Nat) : Bool :=
    (line.devices[place]?).any fun device => device.address.bit position
  refine ⟨line.selected.map bitOf, mapM_eq fun place member => ?_, fun value => ?_⟩
  · obtain ⟨device, there⟩ := sound.exists_device member
    rw [bitAt_eq there inside]
    simp [bitOf, there]
  · unfold Line.anyBit
    rw [List.contains_eq_any_beq, List.any_map, Bool.eq_iff_iff, List.any_eq_true,
      List.any_eq_true]
    refine exists_congr fun place => and_congr_right fun member => ?_
    obtain ⟨device, there⟩ := sound.exists_device member
    simp only [Function.comp_apply, bitOf, there, Option.any_some, Bool.beq_comm]

theorem writeBit_eq (sound : line.Sound) (value : Bool) :
    writeBit line value = .ok (line.writeBit value) := by
  have inside := sound.inside
  unfold writeBit Line.writeBit
  cases phase : line.phase with
  | searching position slots =>
    have below : position < 64 := by rwa [phase] at inside
    have kept : line.selected.filterM (fun place => do
          let bit ← bitAt line position place
          return bit == value) =
        .ok (line.selected.filter fun place =>
          (line.devices[place]?).any fun device => device.address.bit position == value) := by
      refine filterM_eq fun place member => ?_
      obtain ⟨device, there⟩ := sound.exists_device member
      rw [bitAt_eq there below, there]
      rfl
    dsimp only
    rw [kept]
    by_cases last : position = 63
    · rw [if_pos last]
      exact if_pos last
    · rw [if_neg last]
      refine (if_neg last).trans ?_
      rw [count_eq (by omega)]
      rfl
  | _ => rfl

/-- In a search, the bits are read and then the slot is counted. -/
theorem readBit_searching (sound : line.Sound) {position slots : Nat}
    (phase : line.phase = .searching position slots) :
    readBit line = do
      let counted ← count 256 slots .slots
      return (line.readBit.1, { line with phase := .searching position counted }) := by
  obtain ⟨bits, all, contains⟩ := bits_eq sound phase
  unfold readBit Line.readBit
  rw [phase]
  dsimp only
  rw [all, ← contains, ← contains]
  rfl

theorem readBit_eq (sound : line.Sound) (counted : line.phase.slots < 255) :
    readBit line = .ok line.readBit := by
  cases phase : line.phase with
  | searching position slots =>
    have below : slots < 255 := by rwa [phase] at counted
    rw [readBit_searching sound phase, count_eq (by omega)]
    refine congrArg Except.ok (Prod.ext rfl ?_)
    simp only [Line.readBit, phase, decide_eq_false (Nat.not_le.mpr below), Bool.or_false]
  | _ =>
    simp only [readBit, Line.readBit, phase]
    rfl

theorem readBit_error (sound : line.Sound) (beyond : 255 ≤ line.phase.slots) :
    readBit line = .error .slots := by
  cases phase : line.phase with
  | searching position slots =>
    have above : 255 ≤ slots := by rwa [phase] at beyond
    rw [readBit_searching sound phase, count_error (by omega)]
    rfl
  | _ =>
    rw [phase] at beyond
    exact absurd beyond (Nat.not_succ_le_zero 254)

theorem readTriplet_eq (sound : line.Sound) (direction : Bool) (counted : line.phase.slots < 254) :
    readTriplet line direction = .ok (line.readTriplet direction) := by
  cases phase : line.phase with
  | searching position slots =>
    have once : line.readBit.2.phase.slots < 255 := by
      rw [Line.slots_readBit phase]
      omega
    simp only [readTriplet, Line.readTriplet, phase]
    rw [readBit_eq sound (by omega)]
    show (do
      let (complement, afterBoth) ← readBit line.readBit.2
      _) = _
    rw [readBit_eq sound.readBit once]
    by_cases silent : (line.readBit.1 && line.readBit.2.readBit.1) = true
    · exact (if_pos silent).trans (congrArg Except.ok (if_pos silent).symm)
    · refine (if_neg silent).trans ?_
      rw [writeBit_eq sound.readBit.readBit]
      exact congrArg Except.ok (if_neg silent).symm
  | _ =>
    simp only [readTriplet, Line.readTriplet, phase]
    rfl

theorem readTriplet_error (sound : line.Sound) (direction : Bool)
    (beyond : 254 ≤ line.phase.slots) :
    readTriplet line direction = .error .slots := by
  cases phase : line.phase with
  | searching position slots =>
    simp only [readTriplet, phase]
    by_cases first : 255 ≤ line.phase.slots
    · rw [readBit_error sound first]
      rfl
    · have second : 255 ≤ line.readBit.2.phase.slots := by
        rw [Line.slots_readBit phase]
        omega
      rw [readBit_eq sound (by omega)]
      show (do
        let (complement, afterBoth) ← readBit line.readBit.2
        _) = _
      rw [readBit_error sound.readBit second]
      rfl
  | _ =>
    rw [phase] at beyond
    exact absurd beyond (Nat.not_succ_le_zero 253)

/-! ### Bytes on a sound line -/

/-- What is sent has a first byte. -/
theorem transmit_eq (line : Line) (device : Device) (registers : Registers) :
    transmit line device registers = .ok (line.transmit device registers) := by
  unfold transmit Line.transmit Device.transmission
  dsimp only
  cases bytes : registers.toList ++ [Crc.check registers.toList] with
  | nil => exact absurd bytes (List.concat_ne_nil _ _)
  | cons first rest => cases device.corrupt <;> rfl

theorem onMemoryCommand_eq (line : Line) (command : FunctionCommand) :
    onMemoryCommand line command = .ok (line.onMemoryCommand command) := by
  unfold onMemoryCommand Line.onMemoryCommand
  cases line.single? with
  | none => rfl
  | some alone =>
    obtain ⟨place, device⟩ := alone
    dsimp only
    cases device.model with
    | presenceOnly => cases command <;> rfl
    | batteryMonitor celsius vad vdd registers => rfl
    | thermometer celsius registers =>
      cases command with
      | readScratchpad => exact transmit_eq line device registers
      | _ => rfl

theorem onPage_eq (line : Line) (command : FunctionCommand) (page : UInt8) :
    onPage line command page = .ok (line.onPage command page) := by
  unfold onPage Line.onPage
  dsimp only
  by_cases other : page ≠ 0
  · rw [if_pos other, if_pos other]
    rfl
  rw [if_neg other, if_neg other]
  cases line.single? with
  | none => rfl
  | some alone =>
    obtain ⟨place, device⟩ := alone
    dsimp only
    cases device.model with
    | batteryMonitor celsius vad vdd registers =>
      cases command with
      | readScratchpad => exact transmit_eq _ device registers
      | _ => rfl
    | _ => cases command <;> rfl

/-- Each kind of device takes registers it has. -/
theorem storeAt_eq (line : Line) (place offset : Nat) {limit : Nat} (has : limit ≤ 8)
    (model : Model) :
    storeAt line place offset limit model = .ok (line.storeAt place offset limit model) := by
  unfold storeAt
  by_cases inside : offset < limit
  · rw [if_pos inside, below_eq (by omega)]
    rfl
  · rw [if_neg inside]
    rfl

theorem onRegister_eq (line : Line) (offset : Nat) (byte : UInt8) :
    onRegister line offset byte = .ok (line.onRegister offset byte) := by
  unfold onRegister Line.onRegister
  cases line.single? with
  | none => rfl
  | some alone =>
    obtain ⟨place, device⟩ := alone
    dsimp only
    cases device.model with
    | presenceOnly => rfl
    | thermometer celsius registers => exact storeAt_eq _ place offset (by decide) _
    | batteryMonitor celsius vad vdd registers => exact storeAt_eq _ place offset (by decide) _

/-- Conversions count up, so the counters are in their bounds if they are so in the end. -/
theorem convert_eq {change : Device → Device}
    (later : ∀ device, Device.Later device (change device)) (places : List Nat)
    (there : ∀ place ∈ places, place < line.devices.length)
    (moderate : ∀ device ∈ (places.foldl (fun line place => line.modify place change) line).devices,
      device.conversions < 2 ^ 32) :
    places.foldlM (convertAt change) line =
      .ok (places.foldl (fun line place => line.modify place change) line) := by
  induction places generalizing line with
  | nil => rfl
  | cons place rest ih =>
    obtain ⟨here, others⟩ := List.forall_mem_cons.mp there
    have found : line.devices[place]? = some line.devices[place] :=
      List.getElem?_eq_getElem here
    have changed : change line.devices[place] ∈ (line.modify place change).devices := by
      refine List.mem_of_getElem? (i := place) ?_
      show (line.devices.modify place change)[place]? = _
      rw [List.getElem?_modify_eq, found]
      rfl
    obtain ⟨last, final, further⟩ :=
      (Line.evolves_foldl_modify later rest (line.modify place change)).exists_later changed
    have fits : (change line.devices[place]).conversions < 2 ^ 32 :=
      Nat.lt_of_le_of_lt further.conversions (moderate last final)
    have once : convertAt change line place = .ok (line.modify place change) := by
      unfold convertAt
      rw [item_eq found, ok_bind, below_eq fits]
      rfl
    rw [List.foldlM_cons, once]
    refine ih (fun other member => ?_) moderate
    show other < (line.devices.modify place change).length
    rw [List.length_modify]
    exact others other member

/-- Every selected device converts. -/
theorem convert_selected_eq {change : Device → Device}
    (later : ∀ device, Device.Later device (change device))
    (places : ∀ place ∈ line.selected, place < line.devices.length)
    (moderate : (line.changeSelected change).Moderate) :
    line.selected.foldlM (convertAt change) line = .ok (line.changeSelected change) := by
  rw [Line.changeSelected_eq] at moderate ⊢
  exact convert_eq later line.selected places moderate.conversions

theorem countBroadcast_eq (fits : (line.broadcasts + if line.skipped then 1 else 0) < 2 ^ 32) :
    countBroadcast line = .ok (line.broadcasts + if line.skipped then 1 else 0) := by
  unfold countBroadcast
  by_cases skipped : line.skipped = true
  · rw [if_pos skipped] at fits ⊢
    rw [if_pos skipped, count_eq fits]
  · rw [if_neg skipped, if_neg skipped]
    rfl

theorem onCommand_eq (sound : line.Sound) (byte : UInt8)
    (moderate : (line.onCommand byte).Moderate) :
    onCommand line byte = .ok (line.onCommand byte) := by
  unfold onCommand
  unfold Line.onCommand at moderate ⊢
  dsimp only at moderate ⊢
  cases known : FunctionCommand.ofCode? byte with
  | none => rfl
  | some command =>
    rw [known] at moderate
    cases command with
    | convertTemperature =>
      dsimp only
      rw [countBroadcast_eq moderate.broadcasts, ok_bind]
      exact convert_selected_eq Device.later_convertTemperature sound.places moderate
    | convertVoltage =>
      exact convert_selected_eq Device.later_convertVoltage sound.places moderate
    | _ => exact onMemoryCommand_eq { line with phase := .idle } _

theorem writeByte_eq (sound : line.Sound) (byte : UInt8)
    (moderate : (line.writeByte byte).Moderate) :
    writeByte line byte = .ok (line.writeByte byte) := by
  have inside := sound.inside
  unfold writeByte
  unfold Line.writeByte at moderate ⊢
  cases phase : line.phase with
  | matching received =>
    rw [phase] at inside
    exact (congrArg (· >>= _) (below_eq inside .byte)).trans rfl
  | listening =>
    rw [phase] at moderate
    exact onCommand_eq sound byte moderate
  | paging command => exact onPage_eq line command byte
  | storing offset => exact onRegister_eq line offset byte
  | _ => rfl

end Checked

/-- The line after a call, if nothing is out of bounds in it. -/
def Call.attempt (line : Line) : Call → Except Breakdown Line
  | .attach address model => return line.attach address model
  | .remove address => return line.remove address
  | .set address setting => return line.change address setting.apply
  | .reset => return line.reset.2
  | .writeByte byte => Checked.writeByte line byte
  | .readByte => return line.readByte.2
  | .writeBit value => Checked.writeBit line value
  | .readBit => return (← Checked.readBit line).2
  | .readTriplet direction => return (← Checked.readTriplet line direction).2

/-- The line after some calls, if nothing is out of bounds in any. -/
def attempts (line : Line) (calls : List Call) : Except Breakdown Line :=
  calls.foldlM Call.attempt line

theorem attempts_concat (line : Line) (calls : List Call) (call : Call) :
    attempts line (calls ++ [call]) = attempts line calls >>= call.attempt := by
  unfold attempts
  rw [List.foldlM_append]
  refine congrArg (attempts line calls >>= ·) (funext fun reached => ?_)
  exact bind_pure (call.attempt reached)

/-- **One call of a sound line** is in bounds unless it reads a slot that is not counted. -/
theorem Call.attempt_eq {line : Line} (sound : line.Sound) (call : Call)
    (moderate : (call.run line).Moderate) :
    call.attempt line = if call.overruns line then .error .slots else .ok (call.run line) := by
  cases call with
  | writeByte byte => exact Checked.writeByte_eq sound byte moderate
  | writeBit value => exact Checked.writeBit_eq sound value
  | readBit =>
    by_cases beyond : 255 ≤ line.phase.slots
    · refine Eq.trans ?_ (if_pos (decide_eq_true beyond)).symm
      exact congrArg (· >>= fun answer => .ok answer.2) (Checked.readBit_error sound beyond)
    · refine Eq.trans ?_ (if_neg fun here => beyond (of_decide_eq_true here)).symm
      exact congrArg (· >>= fun answer => .ok answer.2) (Checked.readBit_eq sound (by omega))
  | readTriplet direction =>
    by_cases beyond : 254 ≤ line.phase.slots
    · refine Eq.trans ?_ (if_pos (decide_eq_true beyond)).symm
      exact congrArg (· >>= fun answer => .ok answer.2)
        (Checked.readTriplet_error sound direction beyond)
    · refine Eq.trans ?_ (if_neg fun here => beyond (of_decide_eq_true here)).symm
      exact congrArg (· >>= fun answer => .ok answer.2)
        (Checked.readTriplet_eq sound direction (by omega))
  | _ => rfl

/-- Any calls of a sound line. -/
theorem attempts_eq {line : Line} (sound : line.Sound) (counted : line.overrun = false)
    {calls : List Call}
    (moderate : ∀ earlier, earlier <+: calls → (runs line earlier).Moderate) :
    attempts line calls =
      if (runs line calls).overrun then .error .slots else .ok (runs line calls) := by
  induction calls using List.reverseRecOn with
  | nil =>
    rw [show runs line [] = line from rfl, counted]
    rfl
  | append_singleton calls last ih =>
    have before := ih fun earlier within => moderate earlier (within.trans (List.prefix_append _ _))
    have step := Call.attempt_eq (sound_runs sound calls) last
      (runs_concat line calls last ▸ moderate _ List.prefix_rfl)
    rw [attempts_concat, before, runs_concat, Call.overrun_run]
    cases (runs line calls).overrun with
    | true => rfl
    | false => exact step

/-- **Nothing is out of bounds** if at most 255 slots are read between two bits that are written. -/
theorem attempts_of_streaks {calls : List Call}
    (moderate : ∀ earlier, earlier <+: calls → (runs .empty earlier).Moderate)
    (short : ∀ earlier, earlier <+: calls → streak earlier ≤ 255) :
    attempts .empty calls = .ok (runs .empty calls) := by
  rw [attempts_eq Line.sound_empty rfl moderate, overrun_of_streaks short]
  rfl

/-- **No call is out of bounds** in any sequence, whatever is attached and detached in between, but
one that reads the 256th slot of a search position. -/
theorem attempts_bounded (calls : List Call)
    (moderate : ∀ earlier, earlier <+: calls → (runs .empty earlier).Moderate) :
    attempts .empty calls =
        (if (runs .empty calls).overrun then .error .slots else .ok (runs .empty calls)) ∧
      ((runs .empty calls).overrun = true ↔
        ∃ earlier call, earlier ++ [call] <+: calls ∧
          call.overruns (runs .empty earlier) = true) := by
  refine ⟨attempts_eq Line.sound_empty rfl moderate, ?_⟩
  rw [overrun_runs]
  exact or_iff_right Bool.false_ne_true

/-- A search in which a device is replaced and another one detached, and a conversion after it. -/
def commotion : List Call :=
  let device : Address := ⟨0x6100000000000128⟩
  let other : Address := ⟨0x3800000000000328⟩
  [.attach device (.thermometer 20 thermometerPowerOn), .attach other .presenceOnly, .reset,
    .writeByte 0xf0, .readTriplet true, .attach device (.thermometer 21 thermometerPowerOn),
    .readBit, .readBit, .readBit, .writeBit true, .remove other, .readBit, .reset, .writeByte 0xcc,
    .writeByte 0x44, .readByte]

theorem attempts_bounded_commotion :
    (∀ earlier, earlier <+: commotion → (runs .empty earlier).Moderate) ∧
      attempts .empty commotion = .ok (runs .empty commotion) := by
  have moderate : ∀ earlier, earlier <+: commotion → (runs .empty earlier).Moderate := by
    simp only [← List.mem_inits]
    decide +kernel
  have counted : (runs .empty commotion).overrun = false := by decide +kernel
  refine ⟨moderate, (attempts_bounded commotion moderate).1.trans ?_⟩
  rw [counted]
  rfl

/-- A search on an empty line that reads the slots of its first position only. -/
def staring : List Call := [.reset, .writeByte 0xf0] ++ List.replicate 256 .readBit

/-- Eight bits do not count the slots of a position that is never left. -/
theorem attempts_staring : ¬∀ calls : List Call,
    (∀ earlier, earlier <+: calls → (runs .empty earlier).Moderate) →
      ∃ line, attempts .empty calls = .ok line := by
  intro always
  have moderate : ∀ earlier, earlier <+: staring → (runs .empty earlier).Moderate := by
    simp only [← List.mem_inits]
    decide +kernel
  obtain ⟨line, answered⟩ := always staring moderate
  have broken : (attempts .empty staring).toBool = false := by decide +kernel
  rw [answered] at broken
  exact Bool.false_ne_true broken.symm

end WireBridge.Sim
