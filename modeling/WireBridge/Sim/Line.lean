/-
**A simulated 1-Wire line.**

The line is wired-and: a slot reads one only if every device that takes part sends one. All devices
follow the same protocol, so the line has one protocol phase and a list of the devices that are
selected, by their places in the list of attached devices.

* `Sim.Line.attach`, `Sim.Line.remove` and the setters: the world outside;
* `Sim.Line.reset`, `writeByte`, `readByte`, `writeBit`, `readBit`, `readTriplet`: the primitives;
* `Sim.master`: the line as a bus master, which never fails.

The read slots of one search position are counted in eight bits; `overrun` records that more were
read than the counter holds. Broadcasts are counted in thirty-two bits, as the conversions of each
device are. These counts are natural numbers here, with no record of one that gets too large: they
are those of the line while it is `Sim.Line.Moderate`.
-/

import WireBridge.Sim.Device

namespace WireBridge.Sim

/-- Where the protocol is. -/
inductive Phase where
  /-- Nothing is expected before a reset. -/
  | idle
  /-- A ROM command is expected. -/
  | addressing
  /-- The bytes of a ROM code are expected. -/
  | matching (received : List UInt8)
  /-- A search is at a position, 0 to 63, where some slots have been read. -/
  | searching (position slots : Nat)
  /-- A function command is expected. -/
  | listening
  /-- The page number of a memory command is expected. -/
  | paging (command : FunctionCommand)
  /-- A register is expected. -/
  | storing (offset : Nat)
deriving DecidableEq

/-- A simulated line. -/
structure Line where
  /-- The attached devices, in the order in which they were attached. -/
  devices : List Device
  /-- The places of the devices that take part. -/
  selected : List Nat
  /-- Where the protocol is. -/
  phase : Phase
  /-- All devices were selected at once. -/
  skipped : Bool
  /-- The bytes that are sent next. -/
  out : List UInt8
  /-- The temperature conversions started on all devices at once. -/
  broadcasts : Nat
  /-- More slots of a search position were read than can be counted. -/
  overrun : Bool

namespace Line

/-- A line without devices. -/
def empty : Line := ⟨[], [], .idle, false, [], 0, false⟩

/-- Attach a device, in place of one with the same code. -/
def attach (line : Line) (address : Address) (model : Model) : Line :=
  { line with
    devices := line.devices.filter (·.address ≠ address) ++ [Device.fresh address model] }

/-- Whether a device with a code is attached. -/
def attached (line : Line) (address : Address) : Bool :=
  line.devices.any (·.address == address)

/-- Detach a device. -/
def remove (line : Line) (address : Address) : Line :=
  { line with
    devices := line.devices.filter (·.address ≠ address)
    selected := []
    phase := .idle }

/-- Change the first device with a code. -/
def change (line : Line) (address : Address) (f : Device → Device) : Line :=
  { line with
    devices := line.devices.modify (line.devices.findIdx (·.address == address)) f }

/-- The first device with a code. -/
def find? (line : Line) (address : Address) : Option Device :=
  line.devices.find? (·.address == address)

/-- The conversions that a device has run. -/
def conversions (line : Line) (address : Address) : Nat :=
  (line.find? address).elim 0 Device.conversions

/-- The places of all devices. -/
def everyone (line : Line) : List Nat := List.range line.devices.length

/-- The place of the device that alone is selected, and the device. -/
def single? (line : Line) : Option (Nat × Device) :=
  match line.selected with
  | [place] => (line.devices[place]?).map (place, ·)
  | _ => none

/-- Change every selected device. -/
def changeSelected (line : Line) (f : Device → Device) : Line :=
  { line with
    devices := line.selected.foldl (fun devices place => devices.modify place f) line.devices }

/-- Let a device send registers. -/
def transmit (line : Line) (device : Device) (registers : Registers) : Line :=
  { line with out := device.transmission registers }

/-- The phase after a ROM command. Nobody takes part in a conditional search, as there is no model
of alarms. -/
def onRomCommand (line : Line) (byte : UInt8) : Line :=
  let fresh := { line with skipped := false }
  if byte = RomCommand.matchRom.code then { fresh with phase := .matching [] }
  else if byte = RomCommand.skipRom.code then
    { fresh with selected := line.everyone, skipped := true, phase := .listening }
  else if byte = RomCommand.search.code then
    { fresh with selected := line.everyone, phase := .searching 0 0 }
  else if byte = RomCommand.conditionalSearch.code then { fresh with phase := .searching 0 0 }
  else { fresh with phase := .idle }

/-- A byte of a ROM code. The eighth selects the device with the code. -/
def onCode (line : Line) (received : List UInt8) (byte : UInt8) : Line :=
  let bytes := received ++ [byte]
  if bytes.length < 8 then { line with phase := .matching bytes }
  else
    let place := line.devices.findIdx (·.address == Address.ofBytes bytes)
    { line with
      selected := if place < line.devices.length then [place] else []
      phase := .listening }

/-- The first byte of a memory command. Thermometers take it at once and battery monitors expect a
page number first. -/
def onMemoryCommand (line : Line) (command : FunctionCommand) : Line :=
  match line.single? with
  | none => line
  | some (_, device) =>
    match device.model, command with
    | .batteryMonitor .., _ => { line with phase := .paging command }
    | .thermometer _ registers, .readScratchpad => line.transmit device registers
    | .thermometer .., .writeScratchpad => { line with phase := .storing 2 }
    | _, _ => line

/-- A function command. -/
def onCommand (line : Line) (byte : UInt8) : Line :=
  let ended := { line with phase := .idle }
  match FunctionCommand.ofCode? byte with
  | some .convertTemperature =>
    { ended with broadcasts := line.broadcasts + if line.skipped then 1 else 0 }.changeSelected
      Device.convertTemperature
  | some .convertVoltage => ended.changeSelected Device.convertVoltage
  | some command => ended.onMemoryCommand command
  | none => ended

/-- The page number of a memory command. Only page 0 is modelled. -/
def onPage (line : Line) (command : FunctionCommand) (page : UInt8) : Line :=
  let ended := { line with phase := .idle }
  if page ≠ 0 then ended
  else
    match line.single? with
    | none => ended
    | some (_, device) =>
      match device.model, command with
      | .batteryMonitor _ _ _ registers, .readScratchpad => ended.transmit device registers
      | _, .writeScratchpad => { ended with phase := .storing 0 }
      | _, _ => ended

/-- Registers with one replaced, if there is one at the offset. -/
def storeRegister (registers : Registers) (offset : Nat) (byte : UInt8) : Registers :=
  registers.setIfInBounds offset byte

/-- Store a register of the device at a place and expect the next one below the end. -/
def storeAt (line : Line) (place offset limit : Nat) (model : Model) : Line :=
  if offset < limit then
    { line with
      devices := line.devices.modify place fun device => { device with model := model }
      phase := if offset + 1 < limit then .storing (offset + 1) else .idle }
  else line

/-- A register that is written. A thermometer takes those from the alarms to the configuration, a
battery monitor takes all. -/
def onRegister (line : Line) (offset : Nat) (byte : UInt8) : Line :=
  let ended := { line with phase := .idle }
  match line.single? with
  | none => ended
  | some (place, device) =>
    match device.model with
    | .presenceOnly => ended
    | .thermometer celsius registers =>
      ended.storeAt place offset 5 (.thermometer celsius (storeRegister registers offset byte))
    | .batteryMonitor celsius vad vdd registers =>
      ended.storeAt place offset 8
        (.batteryMonitor celsius vad vdd (storeRegister registers offset byte))

/-- Whether some selected device has a bit at a position of its code. -/
def anyBit (line : Line) (position : Nat) (value : Bool) : Bool :=
  line.selected.any fun place =>
    (line.devices[place]?).any fun device => device.address.bit position == value

/-! ### The primitives -/

/-- Reset the line. -/
def reset (line : Line) : ResetStatus × Line :=
  (⟨!line.devices.isEmpty, false, none, none⟩,
    { line with out := [], selected := [], skipped := false, phase := .addressing })

/-- Write a byte. -/
def writeByte (line : Line) (byte : UInt8) : Line :=
  match line.phase with
  | .addressing => line.onRomCommand byte
  | .matching received => line.onCode received byte
  | .listening => line.onCommand byte
  | .paging command => line.onPage command byte
  | .storing offset => line.onRegister offset byte
  | .idle => line
  | .searching .. => line

/-- Read a byte; the idle line reads all ones. -/
def readByte (line : Line) : UInt8 × Line :=
  match line.out with
  | [] => (0xff, line)
  | byte :: rest => (byte, { line with out := rest })

/-- Write a bit. In a search, devices with the other bit drop out and the next position follows. -/
def writeBit (line : Line) (value : Bool) : Line :=
  match line.phase with
  | .searching position _ =>
    { line with
      selected := line.selected.filter fun place =>
        (line.devices[place]?).any fun device => device.address.bit position == value
      phase := if position = 63 then .listening else .searching (position + 1) 0 }
  | _ => line

/-- Read a bit. In a search, the first slot of a position reads the bits of the selected devices
and later slots read the complements. -/
def readBit (line : Line) : Bool × Line :=
  match line.phase with
  | .searching position slots =>
    (if slots = 0 then !line.anyBit position false else !line.anyBit position true,
      { line with
        phase := .searching position (slots + 1)
        overrun := line.overrun || decide (255 ≤ slots) })
  | _ => (true, line)

/-- Read two bits and write one. -/
def readTriplet (line : Line) (direction : Bool) : Triplet × Line :=
  match line.phase with
  | .searching .. =>
    let (id, afterId) := line.readBit
    let (complement, afterBoth) := afterId.readBit
    if id && complement then (⟨true, true, true⟩, afterBoth)
    else
      let taken := if id = complement then direction else id
      (⟨id, complement, taken⟩, afterBoth.writeBit taken)
  | _ => (⟨true, true, true⟩, line)

end Line

/-- The line as a bus master. -/
def master {ε : Type} : Master Line ε where
  reset := Action.ofStep fun line => ((.ok line.reset.1), line.reset.2)
  writeByte byte := Action.update fun line => line.writeByte byte
  readByte := Action.ofStep fun line => (.ok line.readByte.1, line.readByte.2)
  writeBit value := Action.update fun line => line.writeBit value
  readBit := Action.ofStep fun line => (.ok line.readBit.1, line.readBit.2)
  readTriplet direction := Action.ofStep fun line =>
    (.ok (line.readTriplet direction).1, (line.readTriplet direction).2)

end WireBridge.Sim
