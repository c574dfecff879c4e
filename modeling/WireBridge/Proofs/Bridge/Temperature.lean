/-
**Which temperature a read tells.**

A device that was measured shows its temperature from then on, whatever commands run between the
phases of a read: no command makes it forget (`Registry.steady_stable`).

* `Poll.Took.measures_temperature`: a poll that starts a conversion of the temperature of a device;
* `Poll.Took.tells_temperature`: a poll that fetches it afterwards;
* `Bridge.run_temperature`: in every run, the answer to a read of the temperature of one device.
-/

import WireBridge.Proofs.Bridge.Performed
import WireBridge.Proofs.Bridge.Stable
import WireBridge.Proofs.Device.Temperature
import WireBridge.Proofs.Registry.Enlisting

namespace WireBridge

open WireBridge.Action (Leads Keeps)
open Sim (Drives Line Tempered)

variable {ω ε : Type} {lines : ChannelId → Master (Line × ω) ε}
  {berths : List (ChannelId × List Sim.Device)} {holds : Sim.Device → Prop} {id : ChannelId}
  {code : Address} {device : Sim.Device} {measured : Bool}

/-! ### Registries -/

namespace Registry

variable (drives : ∀ id, Drives (lines id) Prod.fst)

include drives

/-- Commands do not bring in entries of another kind. -/
theorem settled_stable : Stable lines (Enlisted berths) (Settled berths) where
  known _ settled := settled.enlisted
  scan := scan_settled drives
  locate := locate_settled drives
  sample _ _ quantity enlisted _ :=
    onDevice_settled (fun start => ((drives _).spares start).keeps_sample quantity)
      ((Device.blind_unread _).keeps_sample quantity) enlisted
  read _ _ quantity enlisted :=
    onDevice_settled (fun start => ((drives _).spares start).keeps_deviceRead quantity)
      ((Device.blind_unread _).keeps_read quantity) enlisted
  broadcast id family :=
    onChannel_settled (fun start => ((drives id).spares start).keeps_sampleFamily family) id

/-- **Commands do not end a steady condition** on a device. -/
theorem steady_stable (steady : Sim.Steady holds) :
    Stable lines (Enlisted berths) fun registry =>
      registry.Settled berths ∧ registry.Hosts id fun line => line.Has code holds where
  known _ kept := kept.1.enlisted
  scan family :=
    ((settled_stable drives).scan family).and
      (scan_hosts (Sim.steady_calm drives steady code) family)
  locate other :=
    ((settled_stable drives).locate other).and
      (locate_hosts (Sim.steady_calm drives steady code) other)
  sample other entry quantity enlisted converted :=
    ((settled_stable drives).sample other entry quantity enlisted converted).and
      (onDevice_hosts (((drives _).steady_sample steady quantity).of_imp
        fun _ start => ⟨start.1 ▸ enlisted.fits, start.2⟩))
  read other entry quantity enlisted :=
    ((settled_stable drives).read other entry quantity enlisted).and
      (onDevice_hosts (((drives _).steady_read steady quantity).of_imp
        fun _ start => ⟨start.1 ▸ enlisted.fits, start.2⟩))
  broadcast other family :=
    ((settled_stable drives).broadcast other family).and
      (onChannel_hosts ((drives other).steady_sampleFamily steady family) other)

variable {entry : WireBridge.Device} (enlisted : Enlisted berths code entry)
  (here : entry.channel = id)

include enlisted here

/-- Afterwards the device shows its temperature. -/
theorem tempered_sample :
    Leads
      (fun state : Registry Line × ω =>
        state.1.Hosts id fun line => line.Has code (Tempered device measured))
      (onDevice lines code entry fun master => Device.sample master .temperature)
      (fun _ state => state.1.Hosts id fun line => line.Has code (Tempered device true))
      fun state => state.1.Hosts id fun line => line.Has code (Tempered device measured) :=
  onDevice_leads here ((drives _).tempered_sample.of_imp
    fun _ start => ⟨start.1 ▸ enlisted.fits, start.2⟩)

/-- What is read is what the device shows. It can be read unless the device sends flipped bits. -/
theorem tempered_read (suits : device.Suits) :
    Leads
      (fun state : Registry Line × ω =>
        state.1.Hosts id fun line => line.Has code (Tempered device true))
      (onDevice lines code entry fun master => Device.read master .temperature)
      (fun value _ => ∃ reading, device.reading? = some reading ∧ value = reading.celsius)
      fun _ => Family.quantities code.family ≠ [] → device.corrupt = true := by
  have reads : Leads
      (fun state : Registry Line × ω =>
        state.1.Hosts id fun line => line.Has code (Tempered device true))
      (onDevice lines code entry fun master => Device.read master .temperature)
      (fun value state => state.1.Hosts id fun _ =>
        ∃ reading, device.reading? = some reading ∧ value = reading.celsius)
      fun state => state.1.Hosts id fun _ =>
        Family.quantities code.family ≠ [] → device.corrupt = true :=
    onDevice_leads here (((drives _).tempered_read suits).of_imp
      fun _ start => ⟨start.1 ▸ enlisted.forget, start.2⟩)
  exact reads.mono (fun _ _ ⟨_, _, told⟩ => told) fun _ ⟨_, _, unread⟩ => unread

end Registry

/-! ### Channels -/

/-- Channels as they are made: each code is attached once, each device is of the kind that its
family says, and its registers are at power-on. -/
structure Channel.Fresh (channels : List (Channel Line)) : Prop extends Separate channels where
  suits : ∀ channel ∈ channels, ∀ device ∈ channel.line.devices, device.Suits
  powerOn : ∀ channel ∈ channels, ∀ device ∈ channel.line.devices,
    device.model = device.model.atPowerOn

/-- No device shows its temperature yet. -/
theorem Channel.Fresh.tempered {channels : List (Channel Line)} (fresh : Fresh channels)
    {channel : Channel Line} (there : channel ∈ channels)
    (attached : device ∈ channel.line.devices) :
    Channel.Hosts channel.id
      (fun line => line.Has device.address (Tempered device.asAttached false)) channels := by
  refine (fresh.toSeparate.hosts there attached).mono fun line has => has.mono fun other same => ?_
  rw [same]
  exact .start (fresh.powerOn channel there device attached)

/-! ### Polls -/

namespace Bridge

open Registry (Enlisted Settled)

section Taken

variable (drives : ∀ id, Drives (lines id) Prod.fst) {poll : Poll Line ω} (took : poll.Took lines)
  (selected : poll.command.device = some code) (asked : poll.command.quantity = some .temperature)
  (settled : poll.before.1.Settled berths)
  (located : ∀ entry, Enlisted berths code entry → entry.channel = id)

include drives took selected asked settled located

/-- A poll that starts a conversion. Afterwards the device shows its temperature. -/
theorem Poll.Took.measures_temperature {wait : Nat} (samples : poll.Samples wait)
    (hosts : poll.before.1.Hosts id fun line => line.Has code (Tempered device measured)) :
    poll.after.1.Hosts id fun line => line.Has code (Tempered device true) := by
  obtain ⟨_, entry, _, found, ran⟩ :=
    Command.sampledDevice selected asked (by decide) (took.sampled samples)
  have enlisted := settled.enlisted code entry found
  exact (Registry.tempered_sample drives enlisted (located entry enlisted)).of_perform hosts ran

variable (verb : poll.command.verb = .read) (suits : device.Suits)
  (hosts : poll.before.1.Hosts id fun line => line.Has code (Tempered device true))

include verb suits hosts

/-- A poll that fetches the temperature of a device that shows it. -/
theorem Poll.Took.tells_temperature {sink : Sink} {response : Response}
    (delivered : .result sink response ∈ poll.turn.deliveries) :
    ∃ reading, device.reading? = some reading ∧
      response =
        { verb := .read,
          device := some
            { address := code, channel := some id, temperature := some reading.celsius } } := by
  have measures : poll.command.Measures := ⟨verb, _, asked, by decide⟩
  obtain ⟨_, entry, value, found, ran, rfl⟩ :=
    Command.fetchedDevice selected asked (by decide) (took.answered measures delivered)
  have enlisted := settled.enlisted code entry found
  have here := located entry enlisted
  obtain ⟨reading, shown, rfl⟩ :=
    (Registry.tempered_read drives enlisted here suits).of_perform hosts ran
  exact ⟨reading, shown, here ▸ rfl⟩

/-- Such a poll has a result unless the device is not registered or sends flipped bits. -/
theorem Poll.Took.answers_temperature (unselected : poll.command.family = none)
    (due : poll.command.timer.expired poll.now = true) (phase : poll.command.phase = .result)
    (accepted : Command.checkQuantity code.family .temperature = .ok ())
    {entry : WireBridge.Device} (found : poll.before.1.find? code = some entry)
    (intact : device.corrupt = false) :
    ∃ response, .success poll.command response ∈ poll.turn.deliveries := by
  refine (took.told due verb phase).resolve_right ?_
  rintro ⟨error, ran⟩
  obtain ⟨failure, unread⟩ :=
    Command.unfetchedDevice selected asked (by decide) unselected phase accepted found ran
  have enlisted := settled.enlisted code entry found
  have reads :=
    Registry.tempered_read drives enlisted (located entry enlisted) suits poll.before hosts
  rw [unread] at reads
  exact absurd ((reads (Command.quantities_ne_nil accepted)).symm.trans intact) (by decide)

end Taken

/-! ### Runs -/

section Runs

variable (drives : ∀ id, Drives (lines id) Prod.fst) {channels : List (Channel Line)}
  (fresh : Channel.Fresh channels) {capacity : Nat} {bridge : Bridge Line}
  (made : ofRegistry? (.ofChannels channels) capacity = some bridge) {world : ω}

include drives made

/-- A bridge that starts without registered devices has no entries of another kind. -/
theorem run_settled (events : List Event) :
    (run lines events (.start bridge world)).2.bridge.registry.Settled
      (channels.map Channel.berth) := by
  refine (Registry.settled_stable drives).run_keeps events (Ledger.start_sound made world) ?_
  obtain ⟨queue, _, rfl⟩ := Option.map_eq_some_iff.mp made
  exact Registry.ofChannels_settled channels

include fresh

/-- **Once a conversion was started** the device shows its temperature until the end of the run. -/
theorem run_tempered (events : List Event) {sampling : Poll Line ω}
    (sampled : sampling ∈ polls (run lines events (.start bridge world)).1) {wait : Nat}
    (samples : sampling.Samples wait) {channel : Channel Line} (there : channel ∈ channels)
    (attached : device ∈ channel.line.devices)
    (selected : sampling.command.device = some device.address)
    (asked : sampling.command.quantity = some .temperature) :
    (run lines events (.start bridge world)).2.bridge.registry.Hosts channel.id fun line =>
      line.Has device.address (Tempered device.asAttached true) := by
  have stable (measured : Bool) :
      Registry.Stable lines (Enlisted (channels.map Channel.berth)) fun registry =>
        registry.Settled (channels.map Channel.berth) ∧ registry.Hosts channel.id fun line =>
          line.Has device.address (Tempered device.asAttached measured) :=
    Registry.steady_stable drives (Tempered.steady
      (device.suits_asAttached.mpr (fresh.suits channel there device attached)))
  have start := Ledger.start_sound made world
  have hosts : (Ledger.start bridge world : Ledger Line ω).bridge.registry.Hosts channel.id
      fun line => line.Has device.address (Tempered device.asAttached false) := by
    obtain ⟨queue, _, rfl⟩ := Option.map_eq_some_iff.mp made
    exact fresh.tempered there attached
  obtain ⟨took, ⟨settled, before⟩, settledAfter, _⟩ :=
    (stable false).run_polls events start ⟨run_settled drives made [], hosts⟩ sampling sampled
  have measured : Family.quantities device.address.family ≠ [] :=
    Command.quantities_ne_nil
      (Command.sampledDevice selected asked (by decide) (took.sampled samples)).1
  have shows := took.measures_temperature drives selected asked settled
    (fun _ enlisted => enlisted.channel_eq fresh.toSeparate there attached measured) samples before
  exact ((stable true).run_after events start sampled ⟨settledAfter, shows⟩).2

/-- **A poll that fetches the temperature** of a registered device tells it, if the device can be
read. -/
theorem run_fetches (events : List Event)
    (initial : ∀ command, .accept command ∈ events → command.phase = .initial)
    {first rest : List (Entry Line ω)} {entry : Entry Line ω}
    (place : (run lines events (.start bridge world)).1 = first ++ entry :: rest)
    {poll : Poll Line ω} (polled : entry.poll? = some poll) (verb : poll.command.verb = .read)
    (selected : poll.command.device = some code)
    (asked : poll.command.quantity = some .temperature) (fetches : poll.Fetches)
    (accepted : Command.checkQuantity code.family .temperature = .ok ())
    {registered : WireBridge.Device} (found : poll.before.1.find? code = some registered) :
    ∃ channel ∈ channels, ∃ device ∈ channel.line.devices, device.address = code ∧
      (∀ sink response, .result sink response ∈ poll.turn.deliveries →
        ∃ reading, device.reading? = some reading ∧
          response =
            { verb := .read,
              device := some
                { address := code, channel := some channel.id,
                  temperature := some reading.celsius } }) ∧
      (poll.command.family = none → device.corrupt = false →
        ∃ response, .success poll.command response ∈ poll.turn.deliveries) := by
  obtain ⟨earlier, rfl, took, before, _⟩ :=
    run_poll events (Ledger.start_sound made world) place polled
  obtain ⟨sampling, sampled, _, wait, samples, awaiting⟩ :=
    (run_sampled made events initial place polled ⟨verb, _, asked, by decide⟩).2 fetches
  have settled : poll.before.1.Settled (channels.map Channel.berth) :=
    before ▸ run_settled drives made earlier
  -- the entry that is read tells where the device is
  have measured := Command.quantities_ne_nil accepted
  obtain ⟨channel, there, _, device, attached, rfl⟩ :=
    (settled.enlisted code registered found).exists_device measured
  have located : ∀ entry, Enlisted (channels.map Channel.berth) device.address entry →
      entry.channel = channel.id := fun _ enlisted =>
    enlisted.channel_eq fresh.toSeparate there attached measured
  have suits : device.asAttached.Suits :=
    device.suits_asAttached.mpr (fresh.suits channel there device attached)
  -- and it was measured before
  have shows : poll.before.1.Hosts channel.id fun line =>
      line.Has device.address (Tempered device.asAttached true) := by
    rw [awaiting] at selected asked
    rw [before]
    exact run_tempered drives fresh made earlier sampled samples there attached selected asked
  refine ⟨channel, there, device, attached, rfl, fun sink response answer => ?_,
    fun unselected intact => ?_⟩
  · rw [← device.reading?_asAttached]
    exact took.tells_temperature drives selected asked settled located verb suits shows answer
  · exact took.answers_temperature drives selected asked settled located verb suits shows unselected
      fetches.due fetches.phase accepted found intact

end Runs

/-- **A read of the temperature of one device tells it as a conversion of that device does.** In
every run of a bridge that knows no devices at first, whatever else is queued and whenever its polls
come, the answer tells the channel of the device and what a conversion makes of the device's
temperature. -/
theorem run_temperature (simulated : ∀ id, lines id = Sim.master.beside)
    {channels : List (Channel Line)} (fresh : Channel.Fresh channels) {capacity : Nat}
    {bridge : Bridge Line} (made : ofRegistry? (.ofChannels channels) capacity = some bridge)
    {world : ω} (events : List Event)
    (initial : ∀ command, .accept command ∈ events → command.phase = .initial)
    {entry : Entry Line ω} (member : entry ∈ (run lines events (.start bridge world)).1)
    {poll : Poll Line ω} (polled : entry.poll? = some poll) (verb : poll.command.verb = .read)
    (selected : poll.command.device = some code)
    (asked : poll.command.quantity = some .temperature) {sink : Sink} {response : Response}
    (delivered : .result sink response ∈ entry.deliveries) :
    ∃ channel ∈ channels, ∃ device ∈ channel.line.devices, device.address = code ∧
      ∃ reading, device.reading? = some reading ∧
        response =
          { verb := .read,
            device := some
              { address := code, channel := some channel.id,
                temperature := some reading.celsius } } := by
  have drives : ∀ id, Drives (lines id) Prod.fst := by
    intro id
    rw [simulated id]
    exact Sim.beside_drives
  have measures : poll.command.Measures := ⟨verb, _, asked, by decide⟩
  obtain ⟨first, rest, place⟩ := List.append_of_mem member
  obtain ⟨_, _, took, _, delivers⟩ := run_poll events (Ledger.start_sound made world) place polled
  have answer := (delivers sink response).mp delivered
  have fetches := (run_sampled made events initial place polled measures).1.fetches answer
  obtain ⟨accepted, _, _, found, _⟩ :=
    Command.fetchedDevice selected asked (by decide) (took.answered measures answer)
  obtain ⟨channel, there, device, attached, same, tells, _⟩ := run_fetches drives fresh made events
    initial place polled verb selected asked fetches accepted found
  exact ⟨channel, there, device, attached, same, tells sink response answer⟩

/-- Scans run before the first phase of a read and between its phases. -/
theorem run_temperature_scan :
    let lines : ChannelId → Master (Line × Unit) Empty := fun _ => Sim.master.beside
    let code : Address := ⟨0x24000000000a0b26⟩
    let device : Sim.Device := .fresh code (.batteryMonitor 19.3 1.25 4.98 Sim.monitorPowerOn)
    let channel : Channel Line := ⟨1, { Line.empty with devices := [device] }, []⟩
    let bridge : Bridge Line := ⟨.ofChannels [channel], ⟨[], 3⟩, .empty⟩
    let scan : Command := { verb := .scan, results := 3, errors := 4 }
    let read : Command :=
      { verb := .read, device := some code, quantity := some .temperature, results := 1,
        errors := 2 }
    let events : List Event :=
      [.accept scan, .accept read, .accept scan, .turn 0, .turn 0, .turn 0, .turn 10]
    Channel.Fresh [channel] ∧ ofRegistry? (.ofChannels [channel]) 3 = some bridge ∧
      ∃ entry ∈ (run lines events (.start bridge ())).1, ∃ poll response reading,
        entry.poll? = some poll ∧ poll.command.device = some code ∧
          .result 1 response ∈ entry.deliveries ∧ device.reading? = some reading ∧
          response =
            { verb := .read,
              device := some
                { address := code, channel := some 1, temperature := some reading.celsius } } := by
  intro lines code device channel bridge scan read events
  have fresh : Channel.Fresh [channel] := by
    refine ⟨⟨by decide, by decide⟩, ?_, ?_⟩
    · simp [channel, device, Sim.Device.fresh, Sim.Device.Suits]
      decide
    · simp [channel, device, Sim.Device.fresh, Sim.Model.atPowerOn]
  have drives (id : ChannelId) : Drives (lines id) Prod.fst := Sim.beside_drives
  have made : ofRegistry? (.ofChannels [channel]) 3 = some bridge := rfl
  have initial : ∀ command, .accept command ∈ events → command.phase = .initial := by
    intro command offered
    simp only [events, List.mem_cons, Event.accept.injEq, reduceCtorEq, List.not_mem_nil, or_false]
      at offered
    rcases offered with rfl | rfl | rfl
    all_goals rfl
  refine ⟨fresh, made, ?_⟩
  -- the read is in its last phase when its time has come
  have last : ((run lines events (.start bridge ())).1[6]?.bind Entry.poll?).map (fun poll =>
      (poll.command, poll.now, (poll.before.1.find? code).isSome)) =
        some (read.awaiting 10 0, 10, true) := by
    decide +kernel
  obtain ⟨poll, reached, same⟩ := Option.map_eq_some_iff.mp last
  obtain ⟨entry, there, polled⟩ := Option.bind_eq_some_iff.mp reached
  obtain ⟨command, rest⟩ := Prod.mk.inj same
  obtain ⟨now, known⟩ := Prod.mk.inj rest
  obtain ⟨registered, found⟩ := Option.isSome_iff_exists.mp known
  have verb : poll.command.verb = .read := congrArg Command.verb command
  have selected : poll.command.device = some code := congrArg Command.device command
  have asked : poll.command.quantity = some .temperature :=
    congrArg Command.quantity command
  have phase : poll.command.phase = .result := congrArg Command.phase command
  have due : poll.command.timer.expired poll.now = true := by rw [command, now]; decide
  have member := List.mem_of_getElem? there
  obtain ⟨first, others, place⟩ := List.append_of_mem member
  obtain ⟨_, _, _, _, delivers⟩ := run_poll events (Ledger.start_sound made ()) place polled
  have proceeds := (run_sampled made events initial place polled ⟨verb, _, asked, by decide⟩).1
  obtain ⟨_, only, own, attached, _, _, answers⟩ := run_fetches drives fresh made events initial
    place polled verb selected asked (proceeds.fetches_of_due due phase) (by decide) found
  obtain rfl := List.mem_singleton.mp only
  obtain rfl := List.mem_singleton.mp attached
  obtain ⟨response, answer⟩ := answers (congrArg Command.family command) rfl
  have delivered : .result 1 response ∈ entry.deliveries := by
    refine (delivers 1 response).mpr ?_
    rw [command] at answer
    exact answer
  obtain ⟨_, here, _, twin, _, reading, told, responseEq⟩ := run_temperature (fun _ => rfl) fresh
    made events initial member polled verb selected asked delivered
  obtain rfl := List.mem_singleton.mp here
  obtain rfl := List.mem_singleton.mp twin
  exact ⟨entry, member, poll, response, reading, polled, selected, delivered, told, responseEq⟩

end Bridge

end WireBridge
