/-
**Channels on bridge chips behind a switch.**

Each channel is the 1-Wire port of a bridge chip on its own output of a two-wire switch. Setting the
channels up looks for the switch, checks the configured port codes, and builds a chip for every
channel in use. A chip that cannot be built leaves its channel out.

* `ChipBank.link`, `ChipBank.master`: the chip of a channel;
* `ChipBank.setUp`: the channels;
* `Timing.port?`: the port codes of a configuration.
-/

import WireBridge.Config
import WireBridge.Chip.Basic
import WireBridge.I2c.Mux
import WireBridge.Registry.Basic

namespace WireBridge

/-- Why channels could not be set up. -/
inductive BankError (ε : Type) where
  /-- The switch did not answer. -/
  | mux (error : MuxError ε)
  /-- A configured port code does not fit. -/
  | invalidTiming
deriving DecidableEq

instance {ε : Type} [Diagnostic ε] : Diagnostic (BankError ε) where
  name
    | .mux error => s!"Mux({Diagnostic.name error})"
    | .invalidTiming => "InvalidTiming"
  message
    | .mux error => s!"multiplexer: {Diagnostic.message error}"
    | .invalidTiming => "invalid 1-Wire port timing code"

/-- The port codes of a configuration, with the power-on codes for overdrive. -/
def Timing.port? (timing : Timing) : Option PortCodes := do
  let port ← PortCodes.powerOn.set? .resetLow false timing.resetLow
  let port ← port.set? .presenceDetect false timing.presenceDetect
  let port ← port.set? .writeZeroLow false timing.writeZeroLow
  let port ← port.set? .writeZeroRecovery false timing.writeZeroRecovery
  port.set? .weakPullup false timing.weakPullup

namespace ChipBank

variable {σ ε : Type} (bus : I2c σ ε) (pause : Nat → σ → σ)

/-- The link to the chip of a channel, counted from one. -/
def link (id : ChannelId) : ChipLink (Mux × σ) (MuxError ε) where
  bus := Mux.channel bus (id - 1)
  pause milliseconds state := (state.1, pause milliseconds state.2)

/-- The chip of a channel as a bus master. -/
def master (id : ChannelId) : Master (Chip × (Mux × σ)) (ChipError (MuxError ε)) :=
  Chip.master (link bus pause id)

/-- Build the chips of channels in order. -/
def build (config : Config) (port : PortCodes) : List ChannelId → Mux × σ →
    List (Channel Chip) × (Mux × σ)
  | [], state => ([], state)
  | id :: rest, state =>
    if config.inUse id then
      let settings : ChipSettings :=
        ⟨Chip.defaultSettings.retries, .ofPullups config.activePullup config.strongPullup, port⟩
      match (Chip.build (link bus pause id) settings).perform state with
      | (.ok chip, built) =>
        let (channels, last) := build config port rest built
        (⟨id, chip, []⟩ :: channels, last)
      | (.error _, failed) => build config port rest failed
    else build config port rest state

/-- The numbers of all channels. -/
def ids : List ChannelId := [1, 2, 3, 4]

/-- Look for the switch and set up the channels in use. -/
def setUp (config : Config) :
    Action (Mux × σ) (BankError ε) (List (Channel Chip)) := do
  let _ ← Action.mapError .mux (Mux.probe bus)
  match config.timing.port? with
  | none => Action.fail .invalidTiming
  | some port => Action.ofStep fun state =>
    let (channels, reached) := build bus pause config port ids state
    (.ok channels, reached)

end ChipBank

end WireBridge
