/-
**The registry of devices.**

A registry has the channels of a bridge and the devices that were found on them, by their codes. The
lines are driven by bus masters given by the number of a channel.

* `Registry.find?`, `Registry.ofFamily`, `Registry.hosting`: what is registered;
* `Registry.onChannel`: an action on the line of a channel;
* `Registry.onDevice`: an action of a registered device.
-/

import WireBridge.Registry.Channel

namespace WireBridge

/-- Why an operation of the registry failed. -/
inductive RegistryError (ε : Type) where
  /-- The line of a channel failed. -/
  | channel (id : ChannelId) (error : BusError ε)
  /-- There is no such channel. -/
  | unknownChannel (id : ChannelId)
deriving DecidableEq

instance {ε : Type} [Diagnostic ε] : Diagnostic (RegistryError ε) where
  name
    | .channel id error =>
      "Channel \x7b channel: " ++ toString id.toNat ++ ", error: " ++ Diagnostic.name error ++
        " \x7d"
    | .unknownChannel id => s!"UnknownChannel({id.toNat})"
  message
    | .channel id error => s!"channel {id.toNat}: {Diagnostic.message error}"
    | .unknownChannel id => s!"no channel {id.toNat}"

/-- Channels and the devices found on them. -/
structure Registry (β : Type) where
  /-- The channels. -/
  channels : List (Channel β)
  /-- The devices by their codes. -/
  devices : KeyMap Address Device

namespace Registry

variable {β ω ε ε' α : Type}

/-- Channels on which nothing has been found. -/
def ofChannels (channels : List (Channel β)) : Registry β := ⟨channels, .empty⟩

/-- The registered device with a code. -/
def find? (registry : Registry β) (code : Address) : Option Device := registry.devices.find? code

/-- The registered devices of a family, in the order of their codes. -/
def ofFamily (registry : Registry β) (family : FamilyCode) : KeyMap Address Device :=
  registry.devices.filter fun code _ => code.family == family

/-- The numbers of the channels that have a registered device of a family, in ascending order. -/
def hosting (registry : Registry β) (family : FamilyCode) : List ChannelId :=
  let ids := (registry.ofFamily family).entries.map fun entry => entry.2.channel
  (ids.mergeSort fun first second => first.toNat ≤ second.toNat).eraseReps

/-- The registry with another device under a code. -/
def store (registry : Registry β) (code : Address) (device : Device) : Registry β :=
  { registry with devices := registry.devices.insert code device }

/-- The registry without a code. -/
def drop (registry : Registry β) (code : Address) : Registry β :=
  { registry with devices := registry.devices.erase code }

/-- Store a device that could be added, and remove its code otherwise. -/
def settle (registry : Registry β) (code : Address) (added : Option Device) : Registry β :=
  match added with
  | some device => registry.store code device
  | none => registry.drop code

/-- The place of the first channel with a number. -/
def place? (registry : Registry β) (id : ChannelId) : Option Nat :=
  registry.channels.findIdx? fun channel => channel.id == id

/-- What happens to the channel at a place; nothing happens where there is none. -/
def atPlace (place : Nat) (change : Channel β × ω → α × (Channel β × ω)) (default : α)
    (state : Registry β × ω) : α × (Registry β × ω) :=
  let (registry, world) := state
  match registry.channels[place]? with
  | none => (default, state)
  | some channel =>
    let (value, (changed, reached)) := change (channel, world)
    (value, ({ registry with channels := registry.channels.set place changed }, reached))

/-- An action on the line of the first channel with a number. -/
def onChannel (id : ChannelId) (action : Action (β × ω) (BusError ε) α) :
    Action (Registry β × ω) (RegistryError ε) α :=
  Action.ofStep fun state =>
    match state.1.place? id with
    | none => (.error (.unknownChannel id), state)
    | some place =>
      atPlace place
        (fun channel => (Channel.onLine (action.mapError (.channel id))).perform channel)
        (.error (.unknownChannel id)) state

/-- An action of a registered device, on the line of its channel. Its driver is stored again. -/
def onDevice (lines : ChannelId → Master (β × ω) ε) (code : Address) (device : Device)
    (action : Master (β × ω) ε → Action (Device × (β × ω)) (BusError ε) α) :
    Action (Registry β × ω) (RegistryError ε) α := do
  let (outcome, changed) ← onChannel device.channel (Action.ofStep fun line =>
    let (outcome, (changed, reached)) := (action (lines device.channel)).perform (device, line)
    (.ok (outcome, changed), reached))
  Action.update fun (registry, world) => (registry.store code changed, world)
  Action.ofExcept (outcome.mapError (.channel device.channel))

end Registry

end WireBridge
