/-
**Keeping the registry up to date.**

A scan searches every channel and makes the registered devices those that were found. A channel
whose search failed keeps its devices. A device that is found on the channel on which it is
registered keeps its driver; any other device that is found gets a new one.

* `Registry.scan`: all devices, or those of one family;
* `Registry.locate`: one device;
* `Registry.start`: leave out channels that are not in use and scan for the first time.
-/

import WireBridge.Config
import WireBridge.Registry.Basic

namespace WireBridge.Registry

variable {β ω ε : Type} (lines : ChannelId → Master (β × ω) ε)

/-! ### Scans -/

/-- Search channels in order. The result has the outcome of each. -/
def searchAll (family : Option FamilyCode) : List (Channel β) → ω →
    List (Except (BusError ε) Unit) × List (Channel β) × ω
  | [], world => ([], [], world)
  | channel :: rest, world =>
    let (outcome, (searched, reached)) :=
      (Channel.discover (lines channel.id) family).perform (channel, world)
    let (outcomes, others, last) := searchAll family rest reached
    (outcome :: outcomes, searched :: others, last)

/-- The first failure, with the number of its channel. -/
def firstFailure : List (Except (BusError ε) Unit) → List (Channel β) →
    Option (RegistryError ε)
  | .error error :: _, channel :: _ => some (.channel channel.id error)
  | .ok _ :: outcomes, _ :: channels => firstFailure outcomes channels
  | _, _ => none

/-- The numbers of the channels whose search failed. -/
def failedChannels : List (Except (BusError ε) Unit) → List (Channel β) → List ChannelId
  | .error _ :: outcomes, channel :: channels => channel.id :: failedChannels outcomes channels
  | .ok _ :: outcomes, _ :: channels => failedChannels outcomes channels
  | _, _ => []

/-- The codes found by searches that did not fail, with the places of their channels. -/
def sightings (place : Nat) : List (Except (BusError ε) Unit) → List (Channel β) →
    List (Address × Nat)
  | .ok _ :: outcomes, channel :: channels =>
    channel.found.map (·, place) ++ sightings (place + 1) outcomes channels
  | .error _ :: outcomes, _ :: channels => sightings (place + 1) outcomes channels
  | _, _ => []

/-- Whether a device stays registered: it was not looked for, its channel failed, or it was seen. -/
def stays (family : Option FamilyCode) (failed : List ChannelId) (seen : List (Address × Nat))
    (code : Address) (device : Device) : Bool :=
  family.any (· != code.family) || failed.contains device.channel ||
    seen.any fun sighting => sighting.1 == code

/-- Register a device that was seen, unless it is registered on that channel. -/
def enroll (state : Registry β × ω) (sighting : Address × Nat) : Registry β × ω :=
  let (code, place) := sighting
  match state.1.channels[place]? with
  | none => state
  | some channel =>
    if (state.1.find? code).any fun device => device.channel == channel.id then state
    else
      let (added, (registry, world)) :=
        atPlace place (Channel.addDevice (lines channel.id) code) none state
      (registry.settle code added, world)

/-- Search every channel and register what is found. The first failure is told after all. -/
def scan (family : Option FamilyCode) : Action (Registry β × ω) (RegistryError ε) Unit :=
  Action.ofStep fun (registry, world) =>
    let (outcomes, channels, searched) := searchAll lines family registry.channels world
    let seen := sightings 0 outcomes channels
    let kept := registry.devices.filter (stays family (failedChannels outcomes channels) seen)
    let settled := seen.foldl (enroll lines) (⟨channels, kept⟩, searched)
    (match firstFailure outcomes channels with
      | some failure => .error failure
      | none => .ok (),
      settled)

/-! ### One device -/

/-- What asking the channels for a device shows. -/
structure Inquiry (β ε : Type) where
  /-- The first channel that answered, with the device if it could be added. -/
  answer : Option (ChannelId × Option Device)
  /-- The first channel that failed before that. -/
  failure : Option (RegistryError ε)
  /-- The channels afterwards. -/
  channels : List (Channel β)

/-- Ask channels in order until one has the device. -/
def inquire (code : Address) : List (Channel β) → ω → Inquiry β ε × ω
  | [], world => (⟨none, none, []⟩, world)
  | channel :: rest, world =>
    let master := lines channel.id
    match (Channel.onLine (Search.present master code)).perform (channel, world) with
    | (.ok true, asked) =>
      let (added, (changed, reached)) := Channel.addDevice master code asked
      (⟨some (channel.id, added), none, changed :: rest⟩, reached)
    | (.ok false, (asked, reached)) =>
      let (later, last) := inquire code rest reached
      (⟨later.answer, later.failure, asked :: later.channels⟩, last)
    | (.error error, (asked, reached)) =>
      let (later, last) := inquire code rest reached
      (⟨later.answer, some (.channel channel.id error), asked :: later.channels⟩, last)

/-- Look for one device on every channel, and register it where it is found first. -/
def locate (code : Address) :
    Action (Registry β × ω) (RegistryError ε) (Option ChannelId) :=
  Action.ofStep fun (registry, world) =>
    let (inquiry, reached) := inquire lines code registry.channels world
    let asked := { registry with channels := inquiry.channels }
    match inquiry.answer, inquiry.failure with
    | some (id, added), _ => (.ok (some id), (asked.settle code added, reached))
    | none, some failure => (.error failure, (asked.drop code, reached))
    | none, none => (.ok none, (asked.drop code, reached))

/-! ### The start -/

/-- Leave out the channels that are not in use, and scan if the configuration says so. -/
def start (config : Config) : Action (Registry β × ω) (RegistryError ε) Unit := do
  Action.update fun (registry, world) =>
    ({ registry with
      channels := registry.channels.filter fun channel => config.inUse channel.id }, world)
  if config.initialScan then scan lines none else pure ()

end WireBridge.Registry
