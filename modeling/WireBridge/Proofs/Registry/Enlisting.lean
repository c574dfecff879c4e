/-
**Entries of a registry that was never in other hands.**

* `Registry.Enlisted`: the entry of a device has a driver that was made for its code, and if that
  driver has to read its device then the device was attached to the channel of the entry;
* `Registry.Settled`: the devices are where they were attached, and all entries are of this kind.
  Looking for devices keeps this (`Registry.scan_settled`, `Registry.locate_settled`), and so do the
  actions of devices (`Registry.onDevice_settled`);
* `Channel.Separate`: channels where a code is at one place only, which is then that of its entry.
-/

import Mathlib.Data.List.Nodup
import Mathlib.Data.List.Pairwise
import WireBridge.Proofs.Device.Absent
import WireBridge.Proofs.Registry.Roster
import WireBridge.Proofs.Registry.Tending

namespace WireBridge

open WireBridge.Action (Leads Keeps)
open Sim (Line Drives)

/-! ### Channels -/

/-- The channels have different numbers, and no code is attached twice. -/
structure Channel.Separate (channels : List (Channel Line)) : Prop where
  ids : (channels.map Channel.id).Nodup
  codes : (channels.flatMap fun channel => channel.line.codes).Nodup

namespace Channel.Separate

variable {channels : List (Channel Line)} (separate : Separate channels)

include separate

/-- A code is on one channel only. -/
theorem eq_of_code {first second : Channel Line} (one : first ∈ channels)
    (other : second ∈ channels) {code : Address} (here : code ∈ first.line.codes)
    (there : code ∈ second.line.codes) : first = second := by
  have disjoint := (List.nodup_flatMap.mp separate.codes).2
  have symmetric : Std.Symm (Function.onFun List.Disjoint fun channel : Channel Line =>
    channel.line.codes) := ⟨fun _ _ apart _ here there => apart there here⟩
  by_contra different
  exact disjoint.forall one other different here there

/-- A device is where it is looked for. -/
theorem hosts {channel : Channel Line} (member : channel ∈ channels) {device : Sim.Device}
    (attached : device ∈ channel.line.devices) :
    Channel.Hosts channel.id (fun line => line.Has device.address (· = device)) channels := by
  have distinct := (List.nodup_flatMap.mp separate.codes).1 channel member
  exact ⟨channel, find?_key separate.ids member, device, Line.find?_of_mem distinct attached, rfl⟩

end Channel.Separate

namespace Registry

variable {ω ε α : Type} {lines : ChannelId → Master (Line × ω) ε}
  {berths : List (ChannelId × List Sim.Device)} {code : Address} {entry : Device}

/-- An entry with a driver that was made for its code. A driver that measures something had to read
its device. -/
structure Enlisted (berths : List (ChannelId × List Sim.Device)) (code : Address)
    (entry : Device) : Prop where
  unread : entry.unread = .ofAddress entry.channel code
  berthed : Family.quantities code.family ≠ [] →
    ∃ berth ∈ berths, berth.1 = entry.channel ∧ code ∈ berth.2.map Sim.Device.address

theorem Enlisted.forget (enlisted : Enlisted berths code entry) :
    entry.driver.forget = .ofAddress code := congrArg Device.driver enlisted.unread

theorem Enlisted.fits (enlisted : Enlisted berths code entry) : entry.driver.Fits code :=
  Driver.fits_of_forget enlisted.forget

/-- What a driver has read does not matter. -/
theorem Enlisted.of_unread {other : Device} (enlisted : Enlisted berths code entry)
    (same : other.unread = entry.unread) : Enlisted berths code other := by
  have channel : other.unread.channel = entry.unread.channel := congrArg Device.channel same
  change other.channel = entry.channel at channel
  refine ⟨same.trans (channel ▸ enlisted.unread), fun measures => ?_⟩
  rw [channel]
  exact enlisted.berthed measures

/-- The device of an entry whose driver measures something. -/
theorem Enlisted.exists_device {channels : List (Channel Line)}
    (enlisted : Enlisted (channels.map Channel.berth) code entry)
    (measures : Family.quantities code.family ≠ []) :
    ∃ channel ∈ channels, channel.id = entry.channel ∧
      ∃ device ∈ channel.line.devices, device.address = code := by
  obtain ⟨berth, member, here, attached⟩ := enlisted.berthed measures
  obtain ⟨channel, there, rfl⟩ := List.mem_map.mp member
  change code ∈ channel.line.population.map Sim.Device.address at attached
  rw [← Line.codes_eq_map] at attached
  exact ⟨channel, there, here, List.mem_map.mp attached⟩

/-- An entry names the channel of its device. -/
theorem Enlisted.channel_eq {channels : List (Channel Line)} (separate : Channel.Separate channels)
    {channel : Channel Line} (there : channel ∈ channels) {device : Sim.Device}
    (attached : device ∈ channel.line.devices)
    (measures : Family.quantities device.address.family ≠ [])
    (enlisted : Enlisted (channels.map Channel.berth) device.address entry) :
    entry.channel = channel.id := by
  obtain ⟨other, otherThere, here, twin, twinAttached, same⟩ := enlisted.exists_device measures
  have both := separate.eq_of_code there otherThere (List.mem_map.mpr ⟨device, attached, rfl⟩)
    (List.mem_map.mpr ⟨twin, twinAttached, same⟩)
  rw [← here, both]

/-- The devices are where they were attached, and all entries are of this kind. -/
structure Settled (berths : List (ChannelId × List Sim.Device)) (registry : Registry Line) :
    Prop where
  roster : registry.roster = berths
  enlisted : ∀ code entry, registry.find? code = some entry → Enlisted berths code entry

theorem settled_eq : Settled berths = Tended Channel.berth berths (Enlisted berths) :=
  funext fun _ => propext
    ⟨fun settled => ⟨settled.roster, settled.enlisted⟩, fun tended => ⟨tended.marks, tended.good⟩⟩

theorem ofChannels_settled (channels : List (Channel Line)) :
    Settled (channels.map Channel.berth) (ofChannels channels) := by
  rw [settled_eq]
  exact tended_ofChannels channels

/-! ### Actions on lines -/

theorem onChannel_settled {action : Action (Line × ω) (BusError ε) α}
    (keeps : ∀ start : Line, Keeps (fun state => start.Evolves state.1) action) (id : ChannelId) :
    Keeps (fun state : Registry Line × ω => state.1.Settled berths) (onChannel id action) := by
  rw [settled_eq]
  exact tended_onChannel (Channel.berth_line keeps) id

/-- **The actions of a device**, which do not change what was made. -/
theorem onDevice_settled {device : Device}
    {action : Master (Line × ω) ε → Action (Device × (Line × ω)) (BusError ε) α}
    (evolves : ∀ start : Line, Keeps (fun state : Device × (Line × ω) => start.Evolves state.2.1)
      (action (lines device.channel)))
    (unread : Keeps (fun state : Device × (Line × ω) => state.1.unread = device.unread)
      (action (lines device.channel)))
    (enlisted : Enlisted berths code device) :
    Keeps (fun state : Registry Line × ω => state.1.Settled berths)
      (onDevice lines code device action) := by
  rw [settled_eq]
  exact tended_onDevice (Channel.berth_device evolves) fun line =>
    enlisted.of_unread (Action.keeps_iff.mp unread (device, line) rfl)

variable (drives : ∀ id, Drives (lines id) Prod.fst)

include drives

/-! ### Looking for devices -/

/-- **A device that was added** was made for its code, and it was there if it had to be read. -/
theorem addDevice_enlisted {other : ChannelId} {state : Channel Line × ω}
    (member : state.1.berth ∈ berths)
    (added : (Channel.addDevice (lines other) code state).1 = some entry) :
    Enlisted berths code entry := by
  have unread := Channel.unread_addDevice added
  have here : entry.channel = state.1.id := congrArg Device.channel unread
  obtain ⟨channel, world⟩ := state
  have never : Leads
      (fun state : Device × (Line × ω) =>
        state.1 = .ofAddress channel.id code ∧ state.2.1.find? code = none)
      (Device.setUp (lines other)) (fun _ _ => Family.quantities code.family = []) fun _ => True :=
    (drives other).absent_setUp
  have absent := never (Device.ofAddress channel.id code, (channel.line, world))
  unfold Channel.addDevice at added
  dsimp only at added
  generalize (Device.setUp (lines other)).perform
    (Device.ofAddress channel.id code, (channel.line, world)) = performed at absent added
  rcases performed with ⟨error | done, reached, after⟩
  · exact absurd added (Option.some_ne_none _).symm
  · refine ⟨here ▸ unread, fun measures => ⟨channel.berth, member, here.symm, ?_⟩⟩
    by_contra missing
    refine measures (absent ⟨rfl, List.find?_eq_none.mpr fun device there same => missing ?_⟩)
    show code ∈ channel.line.population.map Sim.Device.address
    rw [← Line.codes_eq_map]
    exact List.mem_map.mpr ⟨device, there, beq_iff_eq.mp same⟩

theorem admits_enlisted : Admits lines Channel.berth berths (Enlisted berths) where
  marked := Channel.marked_berth drives
  added _ _ _ _ _ member added := addDevice_enlisted drives member added

/-- **A scan.** -/
theorem scan_settled (family : Option FamilyCode) :
    Keeps (fun state => state.1.Settled berths) (scan lines family) := by
  rw [settled_eq]
  exact (admits_enlisted drives).scan family

/-- **Looking for one device.** -/
theorem locate_settled (code : Address) :
    Keeps (fun state => state.1.Settled berths) (locate lines code) := by
  rw [settled_eq]
  exact (admits_enlisted drives).locate code

end Registry

end WireBridge
