/-
**The driver of the bridge chip (DS2484).**

The chip is told what to do by two-wire writes and reports by reads of its registers. After a 1-Wire
command, or a reset of the chip, its status is read until the chip is done, at most as often as the
driver's limit says, with a millisecond after each futile read. A chip that was reset takes no
1-Wire command before it is configured.

* `Chip.build`: reset and configure a chip and bring its port codes to the wanted ones;
* `Chip.changePort`: change one port code and check it;
* `Chip.master`: the chip as a bus master.
-/

import WireBridge.Chip.Registers
import WireBridge.I2c.Basic

namespace WireBridge

/-- Why an operation of the chip failed. -/
inductive ChipError (ε : Type) where
  /-- The two-wire bus failed. -/
  | i2c (error : ε)
  /-- The chip was not done in time. -/
  | timeout
  /-- The chip did not take a configuration. -/
  | configRefused
  /-- The chip did not take port codes. -/
  | portRefused
  /-- There is no such port parameter, or the code does not fit. -/
  | noSuchCode
deriving DecidableEq

instance {ε : Type} [Diagnostic ε] : Diagnostic (ChipError ε) where
  name
    | .i2c error => s!"I2c({Diagnostic.name error})"
    | .timeout => "RetriesExceeded"
    | .configRefused => "ConfigMismatch"
    | .portRefused => "PortConfigMismatch"
    | .noSuchCode => "InvalidPortParameter"
  message
    | .i2c error => s!"I2C error: {Diagnostic.name error}"
    | .timeout => "busy wait retries exceeded"
    | .configRefused => "device configuration not applied"
    | .portRefused => "1-Wire port configuration not applied"
    | .noSuchCode => "invalid 1-Wire port parameter"

/-- How a chip is reached: the two-wire bus it is on, and a way to wait. -/
structure ChipLink (σ ε : Type) where
  /-- The two-wire bus. -/
  bus : I2c σ ε
  /-- Wait for a number of milliseconds. -/
  pause : Nat → σ → σ

/-- What a driver knows of its chip. -/
structure Chip where
  /-- How often the status is read before giving up. -/
  retries : UInt8
  /-- The chip was reset and has not been configured. -/
  unconfigured : Bool
  /-- The port codes that the chip confirmed. -/
  port : PortCodes
deriving DecidableEq

/-- What a chip is built with. -/
structure ChipSettings where
  /-- How often the status is read before giving up. -/
  retries : UInt8
  /-- The configuration. -/
  config : ChipConfig
  /-- The wanted port codes. -/
  port : PortCodes
deriving DecidableEq

namespace Chip

/-- The address of every chip. -/
def address : I2c.PeerAddress := 0x18

/-- The usual settings: ten reads, the active pull-up and the power-on codes. -/
def defaultSettings : ChipSettings := ⟨10, .ofPullups true false, .powerOn⟩

/-- The driver of a chip whose state is unknown. -/
def fresh (settings : ChipSettings) : Chip := ⟨settings.retries, true, settings.port⟩

/-! ### Command bytes -/

/-- Reset the chip. -/
def deviceResetCommand : UInt8 := 0xf0

/-- Choose the register that is read. -/
def readPointerCommand : UInt8 := 0xe1

/-- Write the configuration. -/
def writeConfigCommand : UInt8 := 0xd2

/-- Adjust the port. -/
def adjustPortCommand : UInt8 := 0xc3

/-- Reset the 1-Wire line. -/
def lineResetCommand : UInt8 := 0xb4

/-- Write a byte to the 1-Wire line. -/
def writeByteCommand : UInt8 := 0xa5

/-- Read a byte from the 1-Wire line. -/
def readByteCommand : UInt8 := 0x96

/-- Make one slot on the 1-Wire line. -/
def singleBitCommand : UInt8 := 0x87

/-- Make the three slots of a search position. -/
def tripletCommand : UInt8 := 0x78

/-- The pointer to the status register. -/
def statusPointer : UInt8 := 0xf0

/-- The pointer to the byte that was read. -/
def dataPointer : UInt8 := 0xe1

/-- The pointer to the configuration register. -/
def configPointer : UInt8 := 0xc3

/-- The pointer to the port codes. -/
def portPointer : UInt8 := 0xb4

/-- The byte that carries a bit. -/
def bitByte (value : Bool) : UInt8 := if value then 0x80 else 0x00

/-! ### Registers -/

variable {σ ε α : Type} (link : ChipLink σ ε)

/-- A transfer with the chip. -/
def transfer (action : Action σ ε α) : Action (Chip × σ) (ChipError ε) α :=
  Action.onSecond (action.mapError .i2c)

/-- Wait. -/
def wait (milliseconds : Nat) : Action (Chip × σ) (ChipError ε) Unit :=
  Action.update fun (chip, line) => (chip, link.pause milliseconds line)

/-- Read a register of some bytes. -/
def register (pointer : UInt8) (count : Nat) :
    Action (Chip × σ) (ChipError ε) (Vector UInt8 count) :=
  transfer (link.bus.writeRead address [readPointerCommand, pointer] count)

/-- Read the status register. -/
def status : Action (Chip × σ) (ChipError ε) ChipStatus := do
  let bytes ← register link statusPointer 1
  pure ⟨bytes[0]⟩

/-- Read the configuration register. -/
def readConfig : Action (Chip × σ) (ChipError ε) ChipConfig := do
  let bytes ← register link configPointer 1
  pure ⟨(ChipConfig.mk bytes[0]).stored⟩

/-- Read the port codes. -/
def readPort : Action (Chip × σ) (ChipError ε) PortCodes := do
  let bytes ← register link portPointer 8
  pure (.ofBytes bytes)

/-- Read the status until a condition holds, a number of times at most. -/
def poll (done : ChipStatus → Bool) : Nat → Action (Chip × σ) (ChipError ε) ChipStatus
  | 0 => Action.fail .timeout
  | left + 1 => do
    let bytes ← transfer (link.bus.read address 1)
    if done ⟨bytes[0]⟩ then pure ⟨bytes[0]⟩
    else do
      wait link 1
      poll done left

/-- Read the status until a condition holds, as often as the driver's limit says. -/
def await (done : ChipStatus → Bool) : Action (Chip × σ) (ChipError ε) ChipStatus := do
  let (chip, _) ← Action.current
  poll link done chip.retries.toNat

/-- Reset the chip. It has to be configured afterwards. -/
def resetChip : Action (Chip × σ) (ChipError ε) ChipStatus := do
  transfer (link.bus.write address [deviceResetCommand])
  Action.update fun (chip, line) => ({ chip with unconfigured := true }, line)
  await link ChipStatus.chipReset

/-- Write the configuration, which the chip echoes. -/
def configure (config : ChipConfig) : Action (Chip × σ) (ChipError ε) Unit := do
  let echo ← transfer (link.bus.writeRead address [writeConfigCommand, config.encoded] 1)
  if echo[0] ≠ config.stored then Action.fail .configRefused
  else Action.update fun (chip, line) => ({ chip with unconfigured := false }, line)

/-- Write the codes that differ from the current ones, and check all by reading them back. -/
def correctPort (wanted current : PortCodes) : Action (Chip × σ) (ChipError ε) Unit := do
  let bytes := wanted.changes current
  if bytes.isEmpty then pure ()
  else do
    transfer (link.bus.write address (adjustPortCommand :: bytes))
    let confirmed ← readPort link
    if confirmed = wanted then pure () else Action.fail .portRefused

/-- Change one port code and check it. -/
def changePort (parameter : PortParameter) (overdrive : Bool) (code : UInt8) :
    Action (Chip × σ) (ChipError ε) Unit := do
  if PortCodes.maxCode < code || (parameter.index? overdrive).isNone then
    Action.fail .noSuchCode
  else do
    let current ← readPort link
    match current.set? parameter overdrive code with
    | none => Action.fail .noSuchCode
    | some wanted => do
      correctPort link wanted current
      Action.update fun (chip, line) => ({ chip with port := wanted }, line)

/-- Reset and configure the chip and bring its port codes to the wanted ones. -/
def setUp (settings : ChipSettings) : Action (Chip × σ) (ChipError ε) Unit := do
  let _ ← resetChip link
  configure link settings.config
  let current ← readPort link
  correctPort link settings.port current

/-- The driver of a chip with given settings. -/
def build (settings : ChipSettings) : Action σ (ChipError ε) Chip :=
  Action.ofStep fun line =>
    let (outcome, (chip, reached)) := (setUp link settings).perform (fresh settings, line)
    (outcome.map fun _ => chip, reached)

/-! ### The chip as a bus master -/

/-- Send a 1-Wire command and wait until it is done. -/
def command (bytes : List UInt8) :
    Action (Chip × σ) (BusError (ChipError ε)) ChipStatus := do
  let (chip, _) ← Action.current
  if chip.unconfigured then Action.fail .busUninitialized
  else Action.mapError .other do
    transfer (link.bus.write address bytes)
    await link fun status => !status.busy

/-- The chip as a bus master. It reports an empty or shorted line as an error. -/
def master : Master (Chip × σ) (ChipError ε) where
  reset := do
    let status ← command link [lineResetCommand]
    Action.ofExcept status.toReset.answered
  writeByte byte := do
    let _ ← command link [writeByteCommand, byte]
    pure ()
  readByte := do
    let _ ← command link [readByteCommand]
    let bytes ← Action.mapError .other (register link dataPointer 1)
    pure bytes[0]
  writeBit value := do
    let _ ← command link [singleBitCommand, bitByte value]
    pure ()
  readBit := do
    let status ← command link [singleBitCommand, bitByte true]
    pure status.singleBit
  readTriplet direction := do
    let status ← command link [tripletCommand, bitByte direction]
    pure ⟨status.singleBit, status.secondBit, status.branch⟩

end Chip

end WireBridge
