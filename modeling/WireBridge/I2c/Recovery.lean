/-
**Freeing a two-wire bus.**

A peer that was interrupted in the middle of a transfer may hold the data line low. It lets go after
at most nine clock pulses, one byte and its acknowledge. Recovery releases both lines, pulses the
clock until the data line is high, and then signals a start and a stop. A peer may stretch a pulse
by holding the clock low, but only so long.

* `I2c.Pins`: the two lines as pins; a line that is not driven low is released to its pull-up;
* `I2c.Pins.recover`: the recovery sequence.
-/

import WireBridge.I2c.Basic

namespace WireBridge.I2c

/-- Why recovery failed. -/
inductive RecoveryError where
  /-- A peer holds the clock low. -/
  | clockLow
  /-- The data line is low after all pulses. -/
  | dataLow
  /-- A pin could not be driven or read. -/
  | pin
deriving DecidableEq

instance : Diagnostic RecoveryError where
  name
    | .clockLow => "SclLow"
    | .dataLow => "SdaLow"
    | .pin => "Pin"
  message
    | .clockLow => "SCL held low"
    | .dataLow => "SDA held low"
    | .pin => "recovery pin failure"

/-- The two lines. -/
inductive Wire where
  | clock
  | data
deriving DecidableEq

/-- The lines as pins, which fail with any errors. -/
structure Pins (σ ε : Type) where
  /-- Drive a line low, or release it. -/
  drive : Wire → (released : Bool) → Action σ ε Unit
  /-- The level of a line. -/
  level : Wire → Action σ ε Bool
  /-- Wait for a number of microseconds. -/
  pause : Nat → σ → σ

namespace Pins

/-- Half of a clock period in microseconds. -/
def halfPeriod : Nat := 5

/-- How often the clock is looked at after a pulse, a microsecond apart. -/
def stretchLimit : Nat := 250

/-- The most clock pulses that are needed. -/
def maxPulses : Nat := 9

variable {σ ε : Type} (pins : Pins σ ε)

/-- Drive a line low, or release it. All failures are reported alike. -/
def set (wire : Wire) (released : Bool) : Action σ RecoveryError Unit :=
  (pins.drive wire released).mapError fun _ => .pin

/-- The level of a line. -/
def look (wire : Wire) : Action σ RecoveryError Bool :=
  (pins.level wire).mapError fun _ => .pin

/-- Wait. -/
def wait (microseconds : Nat) : Action σ RecoveryError Unit :=
  Action.update (pins.pause microseconds)

/-- Wait until the clock is high, for a number of looks. -/
def awaitClock : Nat → Action σ RecoveryError Unit
  | 0 => Action.fail .clockLow
  | looks + 1 => do
    if ← pins.look .clock then pure ()
    else do
      pins.wait 1
      awaitClock looks

/-- One clock pulse. -/
def pulse : Action σ RecoveryError Unit := do
  pins.set .clock false
  pins.wait halfPeriod
  pins.set .clock true
  pins.wait halfPeriod
  pins.awaitClock stretchLimit

/-- Pulse the clock while the data line is low, a number of times at most. -/
def pulses : Nat → Action σ RecoveryError Unit
  | 0 => pure ()
  | left + 1 => do
    if ← pins.look .data then pure ()
    else do
      pins.pulse
      pulses left

/-- The recovery sequence. -/
def recover : Action σ RecoveryError Unit := do
  pins.set .data true
  pins.set .clock true
  pins.wait halfPeriod
  if !(← pins.look .clock) then Action.fail .clockLow
  else do
    pins.pulses maxPulses
    if !(← pins.look .data) then Action.fail .dataLow
    else do
      pins.set .data false
      pins.wait halfPeriod
      pins.set .data true
      pins.wait halfPeriod

end Pins

end WireBridge.I2c
