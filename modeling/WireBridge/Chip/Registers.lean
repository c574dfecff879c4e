/-
**Registers of the bridge chip (DS2484).**

The chip turns two-wire transfers into 1-Wire slots. It has a status register, a configuration
register of four bits, and eight codes of four bits that set the timing and the pull-up of its
1-Wire port.

* `ChipStatus`, `ChipConfig`: the two registers;
* `PortParameter`: what can be adjusted on the port, and where its code is;
* `PortCodes`: the eight codes, with what they mean;
* `PortCodes.changes`: the control bytes that turn some codes into others;
* `PortCodes.adjusted`: the codes after the chip took a control byte.
-/

import WireBridge.Bus.Master

namespace WireBridge

/-- The status register. -/
structure ChipStatus where
  /-- The whole register. -/
  bits : UInt8
deriving DecidableEq

namespace ChipStatus

/-- A bit of the register. -/
def flag (status : ChipStatus) (place : Nat) : Bool := status.bits.toNat.testBit place

/-- A 1-Wire command is in progress. -/
def busy (status : ChipStatus) : Bool := status.flag 0

/-- The last 1-Wire reset saw a presence pulse. -/
def presence (status : ChipStatus) : Bool := status.flag 1

/-- The last 1-Wire reset saw a short. -/
def short (status : ChipStatus) : Bool := status.flag 2

/-- The level of the line. -/
def level (status : ChipStatus) : Bool := status.flag 3

/-- The chip was reset and has to be configured. -/
def chipReset (status : ChipStatus) : Bool := status.flag 4

/-- The bit read by a single-bit command, or in the first slot of a triplet. -/
def singleBit (status : ChipStatus) : Bool := status.flag 5

/-- The bit read in the second slot of a triplet. -/
def secondBit (status : ChipStatus) : Bool := status.flag 6

/-- The bit written in the third slot of a triplet. -/
def branch (status : ChipStatus) : Bool := status.flag 7

/-- The status as the outcome of a 1-Wire reset. -/
def toReset (status : ChipStatus) : ResetStatus :=
  ⟨status.presence, status.short, some status.level, some status.branch⟩

end ChipStatus

/-- The configuration register. -/
structure ChipConfig where
  /-- The whole register, of which the low four bits are stored. -/
  bits : UInt8
deriving DecidableEq

namespace ChipConfig

/-- A configuration from its two pull-up settings. -/
def ofPullups (active strong : Bool) : ChipConfig :=
  ⟨(if active then 1 else 0) ||| (if strong then 4 else 0)⟩

/-- The four bits that the chip stores. -/
def stored (config : ChipConfig) : UInt8 := config.bits &&& 0x0f

/-- The byte that is written: the four bits with their complement above them. -/
def encoded (config : ChipConfig) : UInt8 :=
  config.stored ||| ((~~~config.stored &&& 0x0f) <<< 4)

/-- The active pull-up, power-down, strong pull-up and speed bits. -/
def flags (config : ChipConfig) : List Bool :=
  (List.range 4).map fun place => config.bits.toNat.testBit place

end ChipConfig

/-- What can be adjusted on the 1-Wire port. -/
inductive PortParameter where
  /-- The low time of a reset. -/
  | resetLow
  /-- The sampling time of presence pulses. -/
  | presenceDetect
  /-- The low time of a zero. -/
  | writeZeroLow
  /-- The recovery time after a zero; the same at both speeds. -/
  | writeZeroRecovery
  /-- The weak pull-up; the same at both speeds. -/
  | weakPullup
deriving DecidableEq

namespace PortParameter

/-- The number of a parameter in control bytes. -/
def selector : PortParameter → UInt8
  | .resetLow => 0
  | .presenceDetect => 1
  | .writeZeroLow => 2
  | .writeZeroRecovery => 3
  | .weakPullup => 4

/-- The place of a parameter's code among the eight, at standard speed or overdrive. -/
def index? : PortParameter → (overdrive : Bool) → Option (Fin 8)
  | .resetLow, false => some 0
  | .resetLow, true => some 1
  | .presenceDetect, false => some 2
  | .presenceDetect, true => some 3
  | .writeZeroLow, false => some 4
  | .writeZeroLow, true => some 5
  | .writeZeroRecovery, false => some 6
  | .weakPullup, false => some 7
  | .writeZeroRecovery, true => none
  | .weakPullup, true => none

/-- The parameter with a number. -/
def ofSelector? (number : UInt8) : Option PortParameter :=
  [resetLow, presenceDetect, writeZeroLow, writeZeroRecovery, weakPullup].find? fun parameter =>
    parameter.selector == number

/-- The byte that sets a code: parameter, speed, code. -/
def controlByte (parameter : PortParameter) (overdrive : Bool) (code : UInt8) : UInt8 :=
  (parameter.selector <<< 5) ||| (if overdrive then 0x10 else 0x00) ||| (code &&& 0x0f)

/-- The parameters and speeds in the order of their codes. -/
def order : List (PortParameter × Bool) :=
  [(.resetLow, false), (.resetLow, true), (.presenceDetect, false), (.presenceDetect, true),
    (.writeZeroLow, false), (.writeZeroLow, true), (.writeZeroRecovery, false),
    (.weakPullup, false)]

end PortParameter

/-- The eight codes of the 1-Wire port. -/
structure PortCodes where
  /-- The codes in the order in which they are read. -/
  codes : Vector UInt8 8
deriving DecidableEq

namespace PortCodes

/-- The largest code. -/
def maxCode : UInt8 := 0x0f

/-- The codes at power-on. -/
def powerOn : PortCodes := ⟨Vector.replicate 8 6⟩

/-- The codes in the low halves of eight bytes. -/
def ofBytes (bytes : Vector UInt8 8) : PortCodes := ⟨bytes.map (· &&& 0x0f)⟩

/-- The code of a parameter. -/
def get? (port : PortCodes) (parameter : PortParameter) (overdrive : Bool) : Option UInt8 :=
  (parameter.index? overdrive).map fun place => port.codes[place]

/-- The codes with one replaced, if the parameter has it and the code fits. -/
def set? (port : PortCodes) (parameter : PortParameter) (overdrive : Bool) (code : UInt8) :
    Option PortCodes :=
  match parameter.index? overdrive with
  | none => none
  | some place => if maxCode < code then none else some ⟨port.codes.set place code⟩

/-- The control bytes that turn the current codes into the wanted ones. -/
def changes (wanted current : PortCodes) : List UInt8 :=
  (PortParameter.order.zip (wanted.codes.toList.zip current.codes.toList)).filterMap
    fun ((parameter, overdrive), (code, present)) =>
      if code = present then none else some (parameter.controlByte overdrive code)

/-- The codes after the chip took a control byte. One that names no code changes nothing. -/
def adjusted (port : PortCodes) (control : UInt8) : PortCodes :=
  let overdrive := control &&& 0x10 != 0
  ((PortParameter.ofSelector? (control >>> 5)).bind fun parameter =>
    port.set? parameter overdrive (control &&& 0x0f)).getD port

/-- The low time of a reset in nanoseconds. -/
def resetLowTime (port : PortCodes) : Nat := (440 + 20 * (port.codes.get 0).toNat) * 1000

/-- The sampling time of presence pulses in nanoseconds, from 58 to 76 microseconds. -/
def presenceSampleTime (port : PortCodes) : Nat :=
  min 76 (max 58 (56 + 2 * min 13 (max 1 (port.codes.get 2).toNat))) * 1000

/-- The low time of a zero in nanoseconds, up to 70 microseconds. -/
def zeroLowTime (port : PortCodes) : Nat := (52 + 2 * min 9 (port.codes.get 4).toNat) * 1000

/-- The recovery time after a zero in nanoseconds, up to 25.25 microseconds. -/
def recoveryTime (port : PortCodes) : Nat :=
  2750 + 2500 * (min 14 (max 5 (port.codes.get 6).toNat) - 5)

/-- The weak pull-up in ohms. -/
def pullupResistor (port : PortCodes) : Nat := if (port.codes.get 7).toNat ≤ 5 then 500 else 1000

end PortCodes

end WireBridge
