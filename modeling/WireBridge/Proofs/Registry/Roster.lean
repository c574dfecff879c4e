/-
**Who is attached where.**

Whatever a registry does, its channels keep their numbers and the devices on their lines.

* `Registry.roster`: the numbers of the channels, with the devices as they were attached;
* `Registry.roster_onChannel`, `Registry.roster_onDevice`: actions on lines do not change the
  roster;
* `Registry.roster_scan`, `Registry.roster_locate`: looking for devices does not change it.
-/

import WireBridge.Proofs.Device.Sparing
import WireBridge.Proofs.Sim.Looking

namespace WireBridge

open WireBridge.Action (Keeps)
open Sim (Line Drives)

variable {ω ε α : Type} {lines : ChannelId → Master (Line × ω) ε}

/-- The number of a channel, with the devices on its line as they were attached. -/
def Channel.berth (channel : Channel Line) : ChannelId × List Sim.Device :=
  (channel.id, channel.line.population)

namespace Channel

theorem berth_of_evolves {before after : Channel Line} (same : after.id = before.id)
    (evolves : before.line.Evolves after.line) : after.berth = before.berth := by
  rw [berth, berth, same, evolves.population_eq]

/-- An action on the line. -/
theorem berth_line {action : Action (Line × ω) (BusError ε) α}
    (keeps : ∀ start : Line, Keeps (fun state => start.Evolves state.1) action)
    (channel : Channel Line) (world : ω) :
    berth { channel with line := (action.perform (channel.line, world)).2.1 } = channel.berth :=
  berth_of_evolves rfl
    (Action.keeps_iff.mp (keeps channel.line) (channel.line, world) (.of_devices rfl))

/-- An action of a device on the line. -/
theorem berth_device {device : Device} {action : Action (Device × (Line × ω)) (BusError ε) α}
    (keeps : ∀ start : Line, Keeps (fun state => start.Evolves state.2.1) action)
    (channel : Channel Line) (world : ω) :
    berth { channel with line := (action.perform (device, (channel.line, world))).2.2.1 } =
      channel.berth :=
  berth_of_evolves rfl
    (Action.keeps_iff.mp (keeps channel.line) (device, (channel.line, world)) (.of_devices rfl))

variable (drives : ∀ id, Drives (lines id) Prod.fst)

include drives

/-- Adding a device. -/
theorem berth_addDevice (other : ChannelId) (code : Address) (state : Channel Line × ω) :
    (addDevice (lines other) code state).2.1.berth = state.1.berth := by
  obtain ⟨channel, world⟩ := state
  have keeps := ((drives other).spares channel.line).keeps_setUp
  have evolves := Action.keeps_iff.mp keeps
    (Device.ofAddress channel.id code, (channel.line, world)) (.of_devices rfl)
  exact berth_of_evolves rfl evolves

/-- Searching a line. -/
theorem berth_discover (other : ChannelId) (family : Option FamilyCode) (state : Channel Line × ω) :
    ((discover (lines other) family).perform state).2.1.berth = state.1.berth :=
  berth_of_evolves rfl (.of_devices
    ((drives other).passes_devices Search.maxPasses (state.1.line, state.2)
      (Search.start_kind .normal family) []))

/-- Asking for a device. -/
theorem berth_present (other : ChannelId) (code : Address) (state : Channel Line × ω) :
    ((onLine (Search.present (lines other) code)).perform state).2.1.berth = state.1.berth :=
  berth_of_evolves rfl (.of_devices
    ((drives other).present_devices code (state.1.line, state.2)))

/-- Looking for devices does not change who is attached. -/
theorem marked_berth : Marked lines berth :=
  ⟨berth_addDevice drives, berth_discover drives, berth_present drives⟩

end Channel

namespace Registry

/-- The numbers of the channels, with the devices as they were attached. -/
def roster (registry : Registry Line) : List (ChannelId × List Sim.Device) :=
  registry.channels.map Channel.berth

/-- Where the roster is the same, the same codes are on the lines. -/
theorem exists_hosts_of_roster {first second : Registry Line} (same : first.roster = second.roster)
    {id : ChannelId} {code : Address} {holds : Sim.Device → Prop}
    (hosts : first.Hosts id fun line => line.Has code holds) :
    ∃ device, second.Hosts id fun line => line.Has code (· = device) := by
  obtain ⟨channel, found, has⟩ := hosts
  have listed (registry : Registry Line) :
      registry.roster.find? (fun berth => berth.1 == id) =
        (registry.channels.find? fun channel => channel.id == id).map Channel.berth :=
    List.find?_map
  have berth := (listed first).symm.trans ((congrArg _ same).trans (listed second))
  rw [found] at berth
  obtain ⟨twin, twinFound, twinBerth⟩ := Option.map_eq_some_iff.mp berth.symm
  have population : twin.line.population = channel.line.population := congrArg Prod.snd twinBerth
  have member : code ∈ twin.line.codes := by
    rw [Line.codes_eq_map, population, ← Line.codes_eq_map]
    exact has.mem_codes
  obtain ⟨device, there⟩ := Line.exists_has member
  exact ⟨device, twin, twinFound, there⟩

/-! ### Actions on lines -/

theorem roster_onChannel {action : Action (Line × ω) (BusError ε) α}
    (keeps : ∀ start : Line, Keeps (fun state => start.Evolves state.1) action) (id : ChannelId)
    (state : Registry Line × ω) :
    ((onChannel id action).perform state).2.1.roster = state.1.roster :=
  marks_onChannel (Channel.berth_line keeps) id state

theorem roster_onDevice {code : Address} {device : Device}
    {action : Master (Line × ω) ε → Action (Device × (Line × ω)) (BusError ε) α}
    (keeps : ∀ start : Line, Keeps (fun state : Device × (Line × ω) => start.Evolves state.2.1)
      (action (lines device.channel))) (state : Registry Line × ω) :
    ((onDevice lines code device action).perform state).2.1.roster = state.1.roster :=
  marks_onDevice (Channel.berth_device keeps) state

/-! ### Looking for devices -/

variable (drives : ∀ id, Drives (lines id) Prod.fst)

include drives

theorem roster_enroll (state : Registry Line × ω) (sighting : Address × Nat) :
    (enroll lines state sighting).1.roster = state.1.roster :=
  marks_enroll (Channel.marked_berth drives) state sighting

/-- **A scan** attaches and detaches nothing. -/
theorem roster_scan (family : Option FamilyCode) (state : Registry Line × ω) :
    ((scan lines family).perform state).2.1.roster = state.1.roster :=
  marks_scan (Channel.marked_berth drives) family state

/-- **Looking for one device** attaches and detaches nothing. -/
theorem roster_locate (code : Address) (state : Registry Line × ω) :
    ((locate lines code).perform state).2.1.roster = state.1.roster :=
  marks_locate (Channel.marked_berth drives) code state

end Registry

end WireBridge
