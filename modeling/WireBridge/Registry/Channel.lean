/-
**Channels of a bridge.**

A channel is a 1-Wire line with a number and the codes found on it when it was last searched. The
state of a channel's line is `β`; all channels share a world `ω`, such as the hardware behind them.

* `Channel.discover`: search the line;
* `Channel.addDevice`: make the driver of a device and let it read its device;
* `Search.passes`: the passes of a search, at most 128, with the codes found.
-/

import WireBridge.Bus.Search
import WireBridge.Device.Basic

namespace WireBridge

namespace Search

variable {σ ε : Type} (master : Master σ ε)

/-- The most passes of one search. -/
def maxPasses : Nat := 128

/-- A list of codes with one more, unless it has it already. -/
def note (found : List Address) (code : Address) : List Address :=
  if found.contains code then found else found ++ [code]

/-- A number of passes, or less if the search ends or fails. Codes that do not fit their check byte
are passed over. The result has the codes found in either case. -/
def passes : Nat → Search × σ → List Address → Except (BusError ε) Unit × List Address × σ
  | 0, (_, line), found => (.ok (), found, line)
  | left + 1, state, found =>
    match (next master).perform state with
    | (.ok none, (_, line)) => (.ok (), found, line)
    | (.ok (some code), reached) => passes left reached (note found code)
    | (.error .invalidCrc, reached) => passes left reached found
    | (.error error, (_, line)) => (.error error, found, line)

/-- Whether a device is present. -/
def present (code : Address) : Action σ (BusError ε) Bool :=
  Action.ofStep fun line =>
    let (outcome, (_, reached)) := (confirm master code).perform (start .normal none, line)
    (outcome, reached)

end Search

/-- A channel. -/
structure Channel (β : Type) where
  /-- Its number. -/
  id : ChannelId
  /-- The state of its line. -/
  line : β
  /-- The codes found when it was last searched, in the order in which they were found. -/
  found : List Address

namespace Channel

variable {β ω ε ε' α : Type}

/-- An action on the line of a channel. -/
def onLine (action : Action (β × ω) ε' α) : Action (Channel β × ω) ε' α :=
  Action.ofStep fun (channel, world) =>
    let (outcome, (line, reached)) := action.perform (channel.line, world)
    (outcome, ({ channel with line := line }, reached))

variable (master : Master (β × ω) ε)

/-- Search the line for all devices, or for those of one family. -/
def discover (family : Option FamilyCode) : Action (Channel β × ω) (BusError ε) Unit :=
  Action.ofStep fun (channel, world) =>
    let (outcome, found, (line, reached)) :=
      Search.passes master Search.maxPasses (Search.start .normal family, (channel.line, world)) []
    (outcome, ({ channel with line := line, found := found }, reached))

/-- The device with a code, after its driver read it; nothing if that fails. -/
def addDevice (code : Address) (state : Channel β × ω) : Option Device × (Channel β × ω) :=
  let (channel, world) := state
  let (outcome, (device, (line, reached))) :=
    (Device.setUp master).perform (Device.ofAddress channel.id code, (channel.line, world))
  (match outcome with
    | .ok _ => some device
    | .error _ => none,
    ({ channel with line := line }, reached))

end Channel

end WireBridge
