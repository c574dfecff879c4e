/-
**Which devices of a family a read has converted.**

The last phase of a read of a family reads all devices that are registered by then, and some of them
may not have been when the first phase started the conversions.

* `Registry.Reaches`: whether the first phase goes to a device;
* `Command.ran_sampleChannels`, `Command.ran_sampleDevices`: then its conversion is run;
* `Command.fetchDevices_attached`: devices that are read are attached;
* `Bridge.run_family`: in every run, what an answer to a read of a family tells is what its first
  phase converted, for all devices that this phase went to.
-/

import WireBridge.Proofs.Bridge.Performed
import WireBridge.Proofs.Bridge.Stable
import WireBridge.Proofs.Device.Absent
import WireBridge.Proofs.Device.Conversion
import WireBridge.Proofs.Registry.Roster

namespace WireBridge

open WireBridge.Action (Leads Keeps)
open Sim (Drives Line Ran)
open Sim.Device (Later)

variable {ω ε : Type} {lines : ChannelId → Master (Line × ω) ε}
  {berths : List (ChannelId × List Sim.Device)} {id : ChannelId} {code : Address}
  {start : Sim.Device} {quantity : Quantity} {failed : CommandError}

/-- Whether a conversion that is started for a whole family goes to a device: temperatures are
converted on every channel that has a registered device of the family, voltages on each of the
registered devices. -/
def Registry.Reaches (registry : Registry Line) (quantity : Quantity) (id : ChannelId)
    (code : Address) : Prop :=
  if quantity = .temperature then id ∈ registry.hosting code.family
  else ∃ entry, registry.find? code = some entry ∧ entry.channel = id

section Steps

variable (drives : ∀ id, Drives (lines id) Prod.fst)

include drives

/-! ### Registries -/

namespace Registry

/-- Commands keep the drivers of entries and the devices on lines. -/
theorem roster_stable : Stable lines (fun code entry => entry.driver.Fits code) fun registry =>
    registry.Sound ∧ registry.roster = berths where
  known _ kept := kept.1
  scan family := (scan_sound family).and <| Action.keeps_iff.mpr fun state here =>
    (roster_scan drives family state).trans here
  locate code := (locate_sound code).and <| Action.keeps_iff.mpr fun state here =>
    (roster_locate drives code state).trans here
  sample _ _ quantity fits _ :=
    (onDevice_sound fits ((Device.blind_fits _).keeps_sample quantity)).and <|
      Action.keeps_iff.mpr fun state here =>
        (roster_onDevice (fun start => ((drives _).spares start).keeps_sample quantity) state).trans
          here
  read _ _ quantity fits :=
    (onDevice_sound fits ((Device.blind_fits _).keeps_read quantity)).and <|
      Action.keeps_iff.mpr fun state here =>
        (roster_onDevice (fun start => ((drives _).spares start).keeps_deviceRead quantity)
          state).trans here
  broadcast id family := (onChannel_sound id _).and <| Action.keeps_iff.mpr fun state here =>
    (roster_onChannel (fun start => ((drives id).spares start).keeps_sampleFamily family) id
      state).trans here

/-- A device that is read is attached to the channel of its entry. -/
theorem hosts_of_read {entry : Device} (fits : entry.driver.Fits code)
    {state after : Registry Line × ω} {value : Float32}
    (ran : (onDevice lines code entry fun master => Device.read master quantity).perform state =
      (.ok value, after)) :
    ∃ device, state.1.Hosts entry.channel fun line => line.Has code (· = device) := by
  obtain ⟨registry, world⟩ := state
  cases found : registry.place? entry.channel with
  | none =>
    rw [onDevice_unknown found] at ran
    exact absurd (congrArg Prod.fst ran) (by simp)
  | some place =>
    obtain ⟨channel, there, same⟩ := exists_of_place found
    rw [onDevice_perform found there] at ran
    have read := Action.ok_of_mapError (congrArg Prod.fst ran)
    cases attached : channel.line.find? code with
    | none =>
      exact False.elim (((drives _).absent_deviceRead quantity).of_perform ⟨fits, attached⟩
        (Prod.ext read rfl))
    | some device =>
      exact ⟨device, Channel.hosts_of_findIdx? found there same ⟨device, attached, rfl⟩⟩

/-- What only lets devices evolve, and what runs a conversion on a device. -/
theorem later_broadcast (other : ChannelId) (family : FamilyCode) :
    Keeps (fun state : Registry Line × ω =>
        state.1.Hosts id fun line => line.Has code (Later start))
      (onChannel other (Device.sampleFamily (lines other) family)) := by
  have evolves : Keeps (fun state : Line × ω => state.1.Has code (Later start))
      (Device.sampleFamily (lines other) family) :=
    Sim.keeps_later fun here => ((drives other).spares here).keeps_sampleFamily family
  exact onChannel_hosts evolves other

theorem ran_broadcast (family : FamilyCode) :
    Leads
      (fun state : Registry Line × ω => state.1.Hosts id fun line => line.Has code (Later start))
      (onChannel id (Device.sampleFamily (lines id) family))
      (fun _ state => state.1.Hosts id fun line => line.Has code (Ran .temperature start))
      fun state => state.1.Hosts id fun line => line.Has code (Later start) :=
  onChannel_leads ((drives id).leads_ranSampleFamily family)

theorem keeps_ran_broadcast (other : ChannelId) (family : FamilyCode) :
    Keeps (fun state : Registry Line × ω =>
        state.1.Hosts id fun line => line.Has code (Ran .temperature start))
      (onChannel other (Device.sampleFamily (lines other) family)) :=
  onChannel_hosts ((drives other).keeps_ranSampleFamily family) other

section Devices

variable {other : Address} {entry : Device}

theorem later_sample :
    Keeps (fun state : Registry Line × ω =>
        state.1.Hosts id fun line => line.Has code (Later start))
      (onDevice lines other entry fun master => Device.sample master quantity) := by
  have evolves : Keeps (fun state : Device × (Line × ω) => state.2.1.Has code (Later start))
      (Device.sample (lines entry.channel) quantity) :=
    Sim.keeps_later fun here => ((drives entry.channel).spares here).keeps_sample quantity
  exact onDevice_hosts ((evolves.mono (fun _ _ here => here) fun _ here => here).of_imp
    fun _ start => start.2)

theorem ran_sample (fits : entry.driver.Fits code) (here : entry.channel = id) :
    Leads
      (fun state : Registry Line × ω => state.1.Hosts id fun line => line.Has code (Later start))
      (onDevice lines code entry fun master => Device.sample master quantity)
      (fun _ state => state.1.Hosts id fun line => line.Has code (Ran quantity start))
      fun state => state.1.Hosts id fun line => line.Has code (Later start) :=
  onDevice_leads here ((drives _).leads_ranSample.of_imp
    fun _ start => ⟨start.1 ▸ fits, start.2⟩)

theorem keeps_ran_sample (fits : entry.driver.Fits other) :
    Keeps (fun state : Registry Line × ω =>
        state.1.Hosts id fun line => line.Has code (Ran quantity start))
      (onDevice lines other entry fun master => Device.sample master quantity) :=
  onDevice_hosts ((drives _).keeps_ranSample.of_imp fun _ start => ⟨start.1 ▸ fits, start.2⟩)

end Devices

end Registry

/-! ### Phases -/

namespace Command

/-- **Temperatures** are converted on the channels that are named. -/
theorem ran_sampleChannels {family : FamilyCode} {ids : List ChannelId} (named : id ∈ ids)
    (longest : Nat) :
    Leads
      (fun state : Registry Line × ω => state.1.Hosts id fun line => line.Has code (Later start))
      (sampleChannels lines family failed ids longest)
      (fun _ state => state.1.Hosts id fun line => line.Has code (Ran .temperature start))
      fun _ => True := by
  induction ids generalizing longest with
  | nil => exact absurd named List.not_mem_nil
  | cons head rest ih =>
    by_cases here : id = head
    · subst here
      refine Action.leads_bind
        (fun _ state => state.1.Hosts id fun line => line.Has code (Ran .temperature start))
        (Action.leads_mapError ((Registry.ran_broadcast drives family).mono (fun _ _ ran => ran)
          fun _ _ => trivial)) fun wait => ?_
      exact (keeps_sampleChannels (fun other => Registry.keeps_ran_broadcast drives other family)
        rest wait).mono (fun _ _ ran => ran) fun _ _ => trivial
    · refine Action.leads_bind
        (fun _ state => state.1.Hosts id fun line => line.Has code (Later start))
        (Action.leads_mapError ((Registry.later_broadcast drives head family).mono
          (fun _ _ later => later) fun _ _ => trivial)) fun wait => ?_
      exact ih (List.mem_of_ne_of_mem here named) wait

/-- **Other quantities** are converted by the devices that are named. -/
theorem ran_sampleDevices {devices : List (Address × Device)} {entry : Device}
    (named : (code, entry) ∈ devices) (here : entry.channel = id)
    (fits : ∀ entry ∈ devices, entry.2.driver.Fits entry.1) (longest : Nat) :
    Leads
      (fun state : Registry Line × ω => state.1.Hosts id fun line => line.Has code (Later start))
      (sampleDevices lines quantity failed devices longest)
      (fun _ state => state.1.Hosts id fun line => line.Has code (Ran quantity start))
      fun _ => True := by
  induction devices generalizing longest with
  | nil => exact absurd named List.not_mem_nil
  | cons head rest ih =>
    obtain ⟨other, device⟩ := head
    have restFits : ∀ entry ∈ rest, entry.2.driver.Fits entry.1 :=
      fun entry member => fits entry (List.mem_cons_of_mem _ member)
    rcases List.mem_cons.mp named with same | later
    · obtain ⟨rfl, rfl⟩ := Prod.mk.inj same
      refine Action.leads_bind
        (fun _ state => state.1.Hosts id fun line => line.Has code (Ran quantity start))
        (Action.leads_mapError ((Registry.ran_sample drives (fits _ List.mem_cons_self) here).mono
          (fun _ _ ran => ran) fun _ _ => trivial)) fun wait => ?_
      exact (keeps_sampleDevices
        (fun entry member => Registry.keeps_ran_sample drives (restFits entry member)) _).mono
          (fun _ _ ran => ran) fun _ _ => trivial
    · refine Action.leads_bind
        (fun _ state => state.1.Hosts id fun line => line.Has code (Later start))
        (Action.leads_mapError ((Registry.later_sample drives).mono (fun _ _ later => later)
          fun _ _ => trivial)) fun wait => ?_
      exact ih later restFits _

/-- **Devices that are read are attached** to the channels that are told. -/
theorem fetchDevices_attached {devices : List (Address × Device)}
    (fits : ∀ entry ∈ devices, entry.2.driver.Fits entry.1) {state after : Registry Line × ω}
    {reports : List DeviceReport}
    (ran : (fetchDevices lines quantity failed devices).perform state = (.ok reports, after)) :
    ∀ report ∈ reports, ∃ entry ∈ devices, report.address = entry.1 ∧
      report.channel = some entry.2.channel ∧
      ∃ device, state.1.Hosts entry.2.channel fun line => line.Has entry.1 (· = device) := by
  induction devices generalizing state reports with
  | nil =>
    obtain ⟨rfl, _⟩ := Action.pure_ok ran
    exact fun _ member => absurd member List.not_mem_nil
  | cons head rest ih =>
    obtain ⟨address, entry⟩ := head
    have own : entry.driver.Fits address := fits _ List.mem_cons_self
    obtain ⟨value, reached, read, others⟩ := Action.bind_ok ran
    obtain ⟨otherReports, _, restRan, last⟩ := Action.bind_ok others
    obtain ⟨rfl, rfl⟩ := Action.pure_ok last
    have first := Action.mapError_ok read
    have roster : ((Registry.onDevice lines address entry fun master =>
        Device.read master quantity).perform state).2.1.roster = state.1.roster :=
      Registry.roster_onDevice
        (fun start => ((drives _).spares start).keeps_deviceRead quantity) state
    rw [first] at roster
    intro report member
    rcases List.mem_cons.mp member with rfl | later
    · refine ⟨_, List.mem_cons_self, ?_, ?_, Registry.hosts_of_read drives own first⟩
      · cases quantity <;> exact own.address_eq
      · cases quantity <;> rfl
    · obtain ⟨there, inside, same, channel, device, hosts⟩ :=
        ih (fun entry member => fits entry (List.mem_cons_of_mem _ member)) restRan report later
      exact ⟨there, List.mem_cons_of_mem _ inside, same, channel,
        Registry.exists_hosts_of_roster roster hosts⟩

end Command

/-! ### Polls -/

namespace Bridge

variable {poll : Poll Line ω}

/-- **A poll that starts the conversions of a family** runs those of the devices that it reaches. -/
theorem Poll.Took.ran_family (took : poll.Took lines) (sound : poll.before.1.Sound)
    (selected : poll.command.family = some code.family)
    (asked : poll.command.quantity = some quantity) (measured : quantity ≠ .presence) {wait : Nat}
    (samples : poll.Samples wait) (reaches : poll.before.1.Reaches quantity id code)
    (hosts : poll.before.1.Hosts id fun line => line.Has code (· = start)) :
    poll.after.1.Hosts id fun line => line.Has code (Ran quantity start) := by
  obtain ⟨failed, wait, ran⟩ :=
    Command.sampledFamily selected asked measured (took.sampled samples)
  have begins : poll.before.1.Hosts id fun line => line.Has code (Later start) :=
    hosts.mono fun _ has => has.mono fun _ same => same ▸ .refl _
  unfold Registry.Reaches at reaches
  split at ran
  · next warms =>
    subst warms
    rw [if_pos rfl] at reaches
    exact (Command.ran_sampleChannels drives reaches 0).of_perform begins ran
  · next converts =>
    rw [if_neg converts] at reaches
    obtain ⟨entry, found, here⟩ := reaches
    refine (Command.ran_sampleDevices drives (Registry.mem_ofFamily.mpr ⟨found, rfl⟩) here
      (fun entry member => ?_) 0).of_perform begins ran
    exact sound entry.1 entry.2 (Registry.mem_ofFamily.mp member).1

end Bridge

end Steps

/-! ### Runs -/

/-- The devices that an answer lists, with its sink. -/
def Delivery.lists? : Delivery → Option (Sink × List (Address × Option ChannelId))
  | .result sink response =>
    some (sink, (response.devices.getD []).map fun report => (report.address, report.channel))
  | .error .. => none

namespace Bridge

/-- **What a read of a family tells was converted by its first phase**, for all devices that this
phase reached. In every run of a bridge on simulated lines, the answer to a read of a measured
quantity of a family comes after a poll of the same command that started conversions. All devices
that the answer lists were attached to their channels then, and if they were reached their
conversion was run. -/
theorem run_family {family : FamilyCode} (simulated : ∀ id, lines id = Sim.master.beside)
    {registry : Registry Line} {world : ω} (had : Registry.Made lines (registry, world))
    {capacity : Nat} {bridge : Bridge Line} (made : ofRegistry? registry capacity = some bridge)
    (events : List Event)
    (initial : ∀ command, .accept command ∈ events → command.phase = .initial)
    {first rest : List (Entry Line ω)} {entry : Entry Line ω}
    (place : (run lines events (.start bridge world)).1 = first ++ entry :: rest)
    {poll : Poll Line ω} (polled : entry.poll? = some poll) (verb : poll.command.verb = .read)
    (selected : poll.command.family = some family) (asked : poll.command.quantity = some quantity)
    (measured : quantity ≠ .presence) {sink : Sink} {response : Response}
    (delivered : .result sink response ∈ entry.deliveries) :
    ∃ reports, response = { verb := .read, family := some family, devices := some reports } ∧
      ∃ before sampling between, polls first = before ++ sampling :: between ∧
        sampling.number = poll.number ∧ (∃ wait, sampling.Samples wait) ∧
        ∀ report ∈ reports, ∃ id start, report.channel = some id ∧ report.address.family = family ∧
          sampling.before.1.Hosts id (fun line => line.Has report.address (· = start)) ∧
          (sampling.before.1.Reaches quantity id report.address →
            sampling.after.1.Hosts id fun line =>
              line.Has report.address (Ran quantity start)) := by
  have drives : ∀ id, Drives (lines id) Prod.fst := by
    intro id
    rw [simulated id]
    exact Sim.beside_drives
  have measures : poll.command.Measures := ⟨verb, quantity, asked, measured⟩
  have start := Ledger.start_sound made world
  have registryEq : (Ledger.start bridge world : Ledger Line ω).bridge.registry = registry := by
    obtain ⟨queue, _, rfl⟩ := Option.map_eq_some_iff.mp made
    rfl
  have begins : (Ledger.start bridge world : Ledger Line ω).bridge.registry.Sound ∧
      (Ledger.start bridge world : Ledger Line ω).bridge.registry.roster = registry.roster := by
    rw [registryEq]
    exact ⟨had.sound, rfl⟩
  have stable : Registry.Stable lines (fun code entry => entry.driver.Fits code) fun other =>
      other.Sound ∧ other.roster = registry.roster := Registry.roster_stable drives
  obtain ⟨earlier, rfl, took, before, delivers⟩ := run_poll events start place polled
  have answer := (delivers sink response).mp delivered
  obtain ⟨proceeds, fetched⟩ := run_sampled made events initial place polled measures
  obtain ⟨sampling, sampled, number, wait, samples, awaiting⟩ := fetched (proceeds.fetches answer)
  obtain ⟨_, failed, reports, ran, responseEq⟩ :=
    Command.fetchedFamily selected asked measured (took.answered measures answer)
  obtain ⟨sound, roster⟩ := stable.run_keeps earlier start begins
  rw [← before] at sound roster
  obtain ⟨sampler, ⟨soundThen, rosterThen⟩, _⟩ :=
    stable.run_polls earlier start begins sampling sampled
  obtain ⟨firsts, between, split⟩ := List.append_of_mem sampled
  refine ⟨reports, responseEq, firsts, sampling, between, split, number, ⟨wait, samples⟩, ?_⟩
  intro report member
  obtain ⟨⟨code, registered⟩, inside, rfl, channel, _, hosts⟩ :=
    Command.fetchDevices_attached drives
      (fun entry member => sound entry.1 entry.2 (Registry.mem_ofFamily.mp member).1) ran report
      member
  obtain ⟨_, own⟩ := Registry.mem_ofFamily.mp inside
  obtain ⟨device, hosted⟩ := Registry.exists_hosts_of_roster (roster.trans rosterThen.symm) hosts
  refine ⟨registered.channel, device, channel, own, hosted, fun reaches => ?_⟩
  rw [awaiting] at selected asked
  subst own
  exact sampler.ran_family drives soundThen selected asked measured samples reaches hosted

/-! ### A monitor that is registered late -/

/-- The codes of two monitors. -/
def early : Address := ⟨0x24000000000a0b26⟩

def late : Address := ⟨0x3800000000000326⟩

/-- A channel with a monitor. -/
def pairChannel (id : ChannelId) (code : Address) (vad : Float32) : Channel Line :=
  ⟨id, .attach .empty code (.batteryMonitor 19.0 vad 4.98 Sim.monitorPowerOn), []⟩

/-- Both channels as bus masters. -/
def pairLines (_ : ChannelId) : Master (Line × Unit) Empty := Sim.master.beside

/-- A bridge that knows neither of the monitors. -/
def pairBridge : Bridge Line :=
  ⟨.ofChannels [pairChannel 1 early 1.25, pairChannel 2 late 2.5], ⟨[], 3⟩, .empty⟩

/-- One of the monitors is looked for. Then both are read, with a scan between the phases. -/
def pairEvents : List Event :=
  [.accept
      { verb := .read, device := some early, quantity := some .presence, results := 1,
        errors := 2 },
    .accept
      { verb := .read, family := some Family.batteryMonitor, quantity := some .vad, results := 3,
        errors := 4 },
    .accept { verb := .scan, results := 5, errors := 6 }, .turn 0, .turn 0, .turn 0, .turn 10]

theorem pair_made : Registry.Made pairLines (pairBridge.registry, ()) := .new _ ()

theorem pair_initial : ∀ command, .accept command ∈ pairEvents → command.phase = .initial := by
  intro command offered
  simp only [pairEvents, List.mem_cons, Event.accept.injEq, reduceCtorEq, List.not_mem_nil,
    or_false] at offered
  rcases offered with rfl | rfl | rfl
  all_goals rfl

/-- The read tells both monitors. When it started conversions, one was registered and the other had
converted nothing. -/
theorem pair_reads :
    ∃ first entry rest poll response,
      (run pairLines pairEvents (.start pairBridge ())).1 = first ++ entry :: rest ∧
      entry.poll? = some poll ∧ poll.command.verb = .read ∧
      poll.command.family = some Family.batteryMonitor ∧ poll.command.quantity = some .vad ∧
      .result 3 response ∈ entry.deliveries ∧
      ((response.devices.getD []).map fun report => (report.address, report.channel)) =
        [(early, some 1), (late, some 2)] ∧
      ∀ sampling ∈ polls first, sampling.number = poll.number →
        (sampling.before.1.find? early).map Device.channel = some 1 ∧
        ((sampling.after.1.channels.find? fun channel => channel.id == 2).bind fun channel =>
          channel.line.find? late).map (fun device =>
            (device.conversions, device.supplySelected?.isSome)) = some (0, true) := by
  generalize ranEq : (run pairLines pairEvents (.start pairBridge ())).1 = entries
  have asks : (entries[6]?.bind Entry.poll?).map (fun poll =>
      (poll.number, poll.command.verb, poll.command.family, poll.command.quantity)) =
        some (1, .read, some Family.batteryMonitor, some .vad) := by
    rw [← ranEq]
    decide +kernel
  have tells : (entries[6]?.bind fun entry => entry.deliveries.head?).bind Delivery.lists? =
      some (3, [(early, some 1), (late, some 2)]) := by
    rw [← ranEq]
    decide +kernel
  have sampled : ∀ sampling ∈ polls (entries.take 6), sampling.number = 1 →
      (sampling.before.1.find? early).map Device.channel = some 1 ∧
      ((sampling.after.1.channels.find? fun channel => channel.id == 2).bind fun channel =>
        channel.line.find? late).map (fun device =>
          (device.conversions, device.supplySelected?.isSome)) = some (0, true) := by
    rw [← ranEq]
    decide +kernel
  obtain ⟨poll, reached, asked⟩ := Option.map_eq_some_iff.mp asks
  obtain ⟨entry, there, polled⟩ := Option.bind_eq_some_iff.mp reached
  obtain ⟨delivery, first, lists⟩ := Option.bind_eq_some_iff.mp tells
  rw [there] at first
  have delivered := List.mem_of_mem_head? first
  obtain ⟨inside, here⟩ := List.getElem?_eq_some_iff.mp there
  have place : entries = entries.take 6 ++ entry :: entries.drop 7 := by
    rw [← here, ← List.drop_eq_getElem_cons, List.take_append_drop]
  obtain ⟨number, verb, family, quantity⟩ : poll.number = 1 ∧ poll.command.verb = .read ∧
      poll.command.family = some Family.batteryMonitor ∧ poll.command.quantity = some .vad := by
    simpa using asked
  cases delivery with
  | error sink report => exact absurd lists (Option.some_ne_none _).symm
  | result sink response =>
    obtain ⟨rfl, listed⟩ := Prod.mk.inj (Option.some.inj lists)
    exact ⟨_, entry, _, poll, response, place, polled, verb, family, quantity, delivered, listed,
      fun sampling member same => sampled sampling member (same.trans number)⟩

/-- The monitor that was registered first was measured. -/
theorem run_family_early :
    ∃ first entry rest poll response,
      (run pairLines pairEvents (.start pairBridge ())).1 = first ++ entry :: rest ∧
      entry.poll? = some poll ∧ poll.command.family = some Family.batteryMonitor ∧
      .result 3 response ∈ entry.deliveries ∧
      ∃ before sampling between start, polls first = before ++ sampling :: between ∧
        sampling.number = poll.number ∧ sampling.before.1.Reaches .vad 1 early ∧
        sampling.after.1.Hosts 1 fun line => line.Has early (Ran .vad start) := by
  obtain ⟨first, entry, rest, poll, response, place, polled, verb, selected, asked, delivered,
    listed, facts⟩ := pair_reads
  obtain ⟨reports, rfl, before, sampling, between, split, number, _, each⟩ :=
    run_family (fun _ => rfl) pair_made (rfl : ofRegistry? pairBridge.registry 3 = some pairBridge)
      pairEvents pair_initial place polled verb selected asked (by decide) delivered
  have member : sampling ∈ polls first := split ▸ List.mem_append_right _ List.mem_cons_self
  have told : (early, some 1) ∈ reports.map fun report => (report.address, report.channel) := by
    rw [show reports.map _ = _ from listed]
    exact List.mem_cons_self
  obtain ⟨report, inside, same⟩ := List.mem_map.mp told
  obtain ⟨address, channel⟩ := Prod.mk.inj same
  obtain ⟨id, start, known, _, _, ran⟩ := each report inside
  obtain rfl : 1 = id := Option.some.inj (channel.symm.trans known)
  rw [address] at ran
  have reaches : sampling.before.1.Reaches .vad 1 early :=
    Option.map_eq_some_iff.mp (facts sampling member number).1
  exact ⟨first, entry, rest, poll, _, place, polled, selected, delivered, before, sampling, between,
    start, split, number, reaches, ran reaches⟩

/-- **Devices that were not reached may be listed.** A monitor that is registered between the phases
of a read is listed without having been measured. -/
theorem run_family_late :
    ¬ ∀ {lines : ChannelId → Master (Line × Unit) Empty} (_ : ∀ id, lines id = Sim.master.beside)
        {registry : Registry Line} (_ : Registry.Made lines (registry, ())) {capacity : Nat}
        {bridge : Bridge Line} (_ : ofRegistry? registry capacity = some bridge)
        (events : List Event) (_ : ∀ command, .accept command ∈ events → command.phase = .initial)
        {first rest : List (Entry Line Unit)} {entry : Entry Line Unit}
        (_ : (run lines events (.start bridge ())).1 = first ++ entry :: rest)
        {poll : Poll Line Unit} (_ : entry.poll? = some poll) (_ : poll.command.verb = .read)
        {family : FamilyCode} (_ : poll.command.family = some family) {quantity : Quantity}
        (_ : poll.command.quantity = some quantity) (_ : quantity ≠ .presence) {sink : Sink}
        {response : Response} (_ : .result sink response ∈ entry.deliveries),
        ∃ reports, response = { verb := .read, family := some family, devices := some reports } ∧
          ∃ before sampling between, polls first = before ++ sampling :: between ∧
            sampling.number = poll.number ∧ (∃ wait, sampling.Samples wait) ∧
            ∀ report ∈ reports, ∃ id start, report.channel = some id ∧
              report.address.family = family ∧
              sampling.before.1.Hosts id (fun line => line.Has report.address (· = start)) ∧
              sampling.after.1.Hosts id fun line =>
                line.Has report.address (Ran quantity start) := by
  intro claimed
  obtain ⟨first, entry, rest, poll, response, place, polled, verb, selected, asked, delivered,
    listed, facts⟩ := pair_reads
  obtain ⟨reports, rfl, before, sampling, between, split, number, _, each⟩ :=
    claimed (fun _ => rfl) pair_made (rfl : ofRegistry? pairBridge.registry 3 = some pairBridge)
      pairEvents pair_initial place polled verb selected asked (by decide) delivered
  have member : sampling ∈ polls first := split ▸ List.mem_append_right _ List.mem_cons_self
  have told : (late, some 2) ∈ reports.map fun report => (report.address, report.channel) := by
    rw [show reports.map _ = _ from listed]
    exact List.mem_cons_of_mem _ List.mem_cons_self
  obtain ⟨report, inside, same⟩ := List.mem_map.mp told
  obtain ⟨address, channel⟩ := Prod.mk.inj same
  obtain ⟨id, start, known, _, _, there, found, device, here, ran⟩ := each report inside
  obtain rfl : 2 = id := Option.some.inj (channel.symm.trans known)
  rw [address] at here
  have idle := (facts sampling member number).2
  rw [found, Option.bind_some, here, Option.map_some] at idle
  obtain ⟨conversions, inputs⟩ := Prod.mk.inj (Option.some.inj idle)
  have counted := ran.conversions_lt (by decide) (Option.isSome_iff_ne_none.mp inputs)
  rw [conversions] at counted
  exact absurd counted (Nat.not_lt_zero _)

end Bridge

end WireBridge
