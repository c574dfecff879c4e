/-
**Which voltage a read tells.**

The phases of a read of a battery monitor are apart, and other commands run in between. A monitor
has one register for both of its voltages, so what the last phase of a read tells is what was
converted last, by whichever command.

* `Poll.Starts`: a poll that started a conversion of a voltage;
* `Sim.Site.Latest`: such a poll, with polls after it that did not convert the other voltage;
* `Bridge.run_shows`: what the monitor shows after a run is the voltage that was converted last;
* `Bridge.run_voltage`: so is what a read tells, under the name of the voltage that it asked for.
-/

import WireBridge.Proofs.Bridge.Converting
import WireBridge.Proofs.Bridge.Phases

namespace WireBridge

/-- Whether an answer tells a voltage of a monitor, true for the supply. -/
def Delivery.TellsVoltage (site : Sim.Site) (supply : Bool) (value : Float32) : Delivery → Prop
  | .result _ response => ∃ report ∈ response.reports, report.address = site.code ∧
      report.channel = some site.channel ∧ report.voltage? supply = some value
  | .error .. => False

instance (site : Sim.Site) (supply : Bool) (value : Float32) (delivery : Delivery) :
    Decidable (delivery.TellsVoltage site supply value) :=
  match delivery with
  | .result _ response => inferInstanceAs (Decidable (∃ report ∈ response.reports, _))
  | .error .. => instDecidableFalse

theorem DeviceReport.hasValue_of_voltage? (report : DeviceReport) {supply : Bool} {value : Float32}
    (told : report.voltage? supply = some value) : report.HasValue := by
  cases supply with
  | false => exact .inr (.inl fun none => absurd (none.symm.trans told) (by simp))
  | true => exact .inr (.inr fun none => absurd (none.symm.trans told) (by simp))

/-! ### Polls -/

namespace Bridge.Poll

variable {β ω : Type}

/-- A poll of a read that converts a voltage, whether or not it fails after that. -/
def Converts (poll : Poll β ω) (code : Address) (supply : Bool) : Prop :=
  poll.command.timer.expired poll.now = true ∧ poll.command.verb = .read ∧
    poll.command.Converts code supply

/-- A poll that started a conversion of a voltage. -/
def Starts (poll : Poll β ω) (code : Address) (supply : Bool) : Prop :=
  (∃ wait, poll.Samples wait) ∧ poll.command.Asks code supply

end Bridge.Poll

open Bridge (Poll)

/-- A poll that started a conversion of a voltage while the monitor was registered, and later polls
that did not convert the other voltage. -/
structure Sim.Site.Latest {ω : Type} (site : Sim.Site) (poll : Poll Sim.Line ω)
    (later : List (Poll Sim.Line ω)) (supply : Bool) : Prop where
  starts : poll.Starts site.code supply
  registered : site.Registered poll.before.1
  spared : ∀ other ∈ later, ¬ other.Converts site.code (!supply)

namespace Bridge

open Sim (Site)

variable {ω ε : Type} {lines : ChannelId → Master (Sim.Line × ω) ε} {site : Site}
  {shown : Option Bool}

section Taken

variable {now : Nat} {command : Command} {bridge reached : Bridge Sim.Line} {world after : ω}
  {turn : Turn} (drives : ∀ id, Sim.Drives (lines id) Prod.fst)

include drives

/-- A command that does not convert the other voltage leaves what the monitor shows. -/
theorem Taking.keeps_shows (monitor : site.code.family = Family.batteryMonitor)
    (taking : Taking lines now command bridge world (turn, reached, after))
    (spares : command.timer.expired now = true → command.verb = .read →
      ∀ wanted, command.Converts site.code wanted → shown = none ∨ shown = some wanted)
    (shows : site.Shows shown bridge.registry) : site.Shows shown reached.registry := by
  have advance : ∀ outcome registry reached, command.timer.expired now = true →
      command.verb = .read →
      (Command.advance lines command now).perform (bridge.registry, world) =
        (outcome, (registry, reached)) → site.Shows shown registry := by
    intro outcome registry reached due verb ran
    have keeps := Site.keeps_advance drives monitor now (spares due verb)
    have kept := Action.keeps_iff.mp keeps (bridge.registry, world) shows
    rw [ran] at kept
    exact kept
  cases taking with
  | scans due verb ran =>
    have kept := Action.keeps_iff.mp (Site.keeps_discover drives monitor command)
      (bridge.registry, world) shows
    rw [ran] at kept
    exact kept
  | goesOn due verb ran => exact advance _ _ _ due verb ran
  | reads due verb ran => exact advance _ _ _ due verb ran
  | fails due verb ran => exact advance _ _ _ due verb ran
  | _ => exact shows

/-- A command whose conversion was started shows its voltage. -/
theorem Taking.starts_shows {wait : Nat} {supply : Bool}
    (taking : Taking lines now command bridge world (turn, reached, after))
    (due : command.timer.expired now = true)
    (returned : turn.returned = some (command.awaiting wait now))
    (converts : command.Converts site.code supply) (shows : site.Shows none bridge.registry)
    (registered : site.Registered bridge.registry) :
    site.Shows (some supply) reached.registry := by
  cases taking with
  | waits early => exact absurd (due.symm.trans early) Bool.noConfusion
  | goesOn _ verb ran =>
    exact (Site.leads_advance drives now converts).of_perform ⟨shows, registered⟩ ran
  | _ => exact absurd returned (Option.some_ne_none _).symm

/-- What the last phase of a read tells. -/
theorem Taking.tells {sink : Sink} {response : Response}
    (monitor : site.code.family = Family.batteryMonitor)
    (taking : Taking lines now command bridge world (turn, reached, after))
    (measures : command.Measures) (phase : command.phase = .result)
    (delivered : .result sink response ∈ turn.deliveries)
    (shows : site.Shows shown bridge.registry) :
    ∀ report ∈ response.reports, site.Tells command shown report := by
  obtain ⟨read, quantity, asked, measured⟩ := measures
  cases taking with
  | reads due verb ran =>
    obtain ⟨_, rfl⟩ := Delivery.result.inj (List.mem_singleton.mp delivered)
    exact (Site.tells_advance drives monitor now phase asked measured).of_perform shows ran
      response rfl
  | waits early => exact absurd delivered List.not_mem_nil
  | goesOn due verb ran => exact absurd delivered List.not_mem_nil
  | fails due verb ran => exact absurd (List.mem_singleton.mp delivered) Delivery.noConfusion
  | restarts due verb => exact absurd (read.symm.trans verb) (by decide)
  | scans due verb ran => exact absurd (read.symm.trans verb) (by decide)
  | subscribes due verb changed => exact absurd (read.symm.trans verb) (by decide)
  | unsubscribes due verb changed => exact absurd (read.symm.trans verb) (by decide)

end Taken

/-! ### Polls and runs -/

section Runs

variable (drives : ∀ id, Sim.Drives (lines id) Prod.fst)
  (monitor : site.code.family = Family.batteryMonitor)

include drives

theorem Poll.Took.keeps_shows (monitor : site.code.family = Family.batteryMonitor)
    {poll : Poll Sim.Line ω} (took : poll.Took lines)
    (spares : ∀ wanted, poll.Converts site.code wanted → shown = none ∨ shown = some wanted)
    (shows : site.Shows shown poll.before.1) : site.Shows shown poll.after.1 := by
  obtain ⟨bridge, reached, found, left, taking⟩ := took
  rw [← found] at shows
  rw [← left]
  exact taking.keeps_shows drives monitor
    (fun due verb wanted converts => spares wanted ⟨due, verb, converts⟩) shows

theorem Poll.Took.starts_shows {poll : Poll Sim.Line ω} {supply : Bool} (took : poll.Took lines)
    (starts : poll.Starts site.code supply) (registered : site.Registered poll.before.1)
    (shows : site.Shows none poll.before.1) : site.Shows (some supply) poll.after.1 := by
  obtain ⟨bridge, reached, found, left, taking⟩ := took
  obtain ⟨⟨wait, samples⟩, asks⟩ := starts
  rw [← found] at shows registered
  rw [← left]
  have converts : poll.command.Converts site.code supply := ⟨samples.phase, asks⟩
  exact taking.starts_shows drives samples.due samples.returned converts shows registered

include monitor

/-- One event that does not convert the other voltage. -/
theorem step_keeps_shows {ledger : Ledger Sim.Line ω} (sound : ledger.Sound) (event : Event)
    (spares : ∀ poll, (step lines event ledger).1.poll? = some poll →
      ∀ wanted, poll.Converts site.code wanted → shown = none ∨ shown = some wanted)
    (shows : site.Shows shown ledger.bridge.registry) :
    site.Shows shown (step lines event ledger).2.bridge.registry := by
  cases found : (step lines event ledger).1.poll? with
  | none =>
    rw [step_idle lines sound event found]
    exact shows
  | some poll =>
    obtain ⟨took, before, after⟩ := step_took lines sound event found
    rw [← before] at shows
    rw [← after]
    exact took.keeps_shows drives monitor (spares poll found) shows

/-- Events none of which converts the other voltage. -/
theorem run_keeps_shows (events : List Event) {ledger : Ledger Sim.Line ω} (sound : ledger.Sound)
    (spares : ∀ poll ∈ polls (run lines events ledger).1,
      ∀ wanted, poll.Converts site.code wanted → shown = none ∨ shown = some wanted)
    (shows : site.Shows shown ledger.bridge.registry) :
    site.Shows shown (run lines events ledger).2.bridge.registry := by
  induction events generalizing ledger with
  | nil => exact shows
  | cons event rest ih =>
    rw [run_cons] at spares ⊢
    refine ih (step_sound lines sound event) (fun poll member => ?_)
      (step_keeps_shows drives monitor sound event (fun poll found => ?_) shows)
    · obtain ⟨entry, later, found⟩ := List.mem_filterMap.mp member
      exact spares poll (List.mem_filterMap.mpr ⟨entry, List.mem_cons_of_mem _ later, found⟩)
    · exact spares poll (List.mem_filterMap.mpr ⟨_, List.mem_cons_self, found⟩)

/-- **The monitor shows the voltage that was converted last.** -/
theorem run_shows (events : List Event) {ledger : Ledger Sim.Line ω} (sound : ledger.Sound)
    {earlier later : List (Poll Sim.Line ω)} {poll : Poll Sim.Line ω} {supply : Bool}
    (place : polls (run lines events ledger).1 = earlier ++ poll :: later)
    (latest : site.Latest poll later supply) (shows : site.Shows none ledger.bridge.registry) :
    site.Shows (some supply) (run lines events ledger).2.bridge.registry := by
  induction events generalizing ledger earlier with
  | nil => exact absurd place (by simp [run, polls])
  | cons event rest ih =>
    have next := step_sound lines sound event
    have kept := step_keeps_shows drives monitor sound event (fun _ _ _ _ => .inl rfl) shows
    rw [run_cons] at place ⊢
    unfold polls at place
    cases found : (step lines event ledger).1.poll? with
    | none =>
      rw [List.filterMap_cons_none found] at place
      exact ih next place kept
    | some first =>
      rw [List.filterMap_cons_some found] at place
      cases earlier with
      | nil =>
        obtain ⟨rfl, others⟩ := List.cons.inj place
        obtain ⟨took, before, after⟩ := step_took lines sound event found
        have started := took.starts_shows drives latest.starts latest.registered
          (by rw [before]; exact shows)
        rw [after] at started
        refine run_keeps_shows drives monitor rest next (fun other member wanted converts => ?_)
          started
        -- whichever voltage is converted later, it is not the other one
        have notOther := latest.spared other (others ▸ member)
        right
        congr 1
        by_cases same : wanted = supply
        · exact same.symm
        · rw [Bool.eq_not.mpr same] at converts
          exact absurd converts notOther
      | cons head tail =>
        obtain ⟨_, restPlace⟩ := List.cons.inj place
        exact ih next restPlace kept

/-- A report is told in a turn that fetches it, which tells the voltage that the monitor shows. -/
theorem step_tells {ledger : Ledger Sim.Line ω} (sound : ledger.Sound) (event : Event) {sink : Sink}
    {response : Response}
    (delivered : .result sink response ∈ (step lines event ledger).1.deliveries)
    {report : DeviceReport} (member : report ∈ response.reports) (value : report.HasValue) :
    ∃ poll, (step lines event ledger).1.poll? = some poll ∧ poll.command.Measures ∧
      poll.Fetches ∧ ∀ shown, site.Shows shown ledger.bridge.registry →
        site.Tells poll.command shown report := by
  obtain ⟨poll, found, measures, fetches⟩ := step_value lines sound event delivered
    ⟨report, member, value⟩
  obtain ⟨other, same, answer⟩ := step_result lines sound event delivered
  obtain rfl := Option.some.inj (found.symm.trans same)
  obtain ⟨⟨bridge, reached, here, _, taking⟩, before, _⟩ := step_took lines sound event found
  refine ⟨poll, found, measures, fetches, fun shown shows => ?_⟩
  rw [← before, ← here] at shows
  exact taking.tells drives monitor measures fetches.phase answer shows report member

end Runs

/-- A monitor on a channel. -/
def sole : Site := ⟨1, ⟨0x24000000000a0b26⟩, 1.25, 4.98⟩

/-- The channel as a bus master. -/
def soleLines (_ : ChannelId) : Master (Sim.Line × Unit) Empty := Sim.master.beside

/-- The line of the channel. -/
def soleLine : Sim.Line :=
  .attach .empty sole.code (.batteryMonitor 19.0 sole.vad sole.vdd Sim.monitorPowerOn)

/-- What a scan makes of a registry with that channel alone. -/
@[irreducible] def soleScan : Except (RegistryError Empty) Unit × Registry Sim.Line × Unit :=
  (Registry.scan soleLines none).perform (.ofChannels [⟨sole.channel, soleLine, []⟩], ())

/-- A bridge with this registry and a queue for two commands. -/
def soleBridge : Bridge Sim.Line := ⟨soleScan.2.1, ⟨[], 2⟩, .empty⟩

/-- A read of one of the voltages. -/
def soleRead (quantity : Quantity) : Command :=
  { verb := .read, device := some sole.code, quantity := some quantity, results := 1, errors := 2 }

theorem sole_made : Registry.Made soleLines (soleScan.2.1, ()) := by
  have scanned : Registry.Made soleLines soleScan.2 := by
    unfold soleScan
    exact .scan (.new _ ()) none
  generalize soleScan = scan at scanned ⊢
  exact scanned

theorem sole_attached : soleScan.2.1.Hosts sole.channel fun line =>
    line.Has sole.code (Sim.Shows sole.vad sole.vdd none) := by
  have drives : ∀ id, Sim.Drives (soleLines id) Prod.fst := fun _ => Sim.beside_drives
  have calm : Registry.Calm soleLines fun line =>
    line.Has sole.code (Sim.Shows sole.vad sole.vdd none) := Site.calm drives rfl none
  have start : (Registry.ofChannels [⟨sole.channel, soleLine, []⟩]).Hosts sole.channel fun line =>
      line.Has sole.code (Sim.Shows sole.vad sole.vdd none) :=
    ⟨_, rfl, _, rfl, 19.0, Sim.monitorPowerOn, rfl, fun _ named => absurd named (by simp)⟩
  have kept := Action.keeps_iff.mp (Registry.scan_hosts calm none)
    (.ofChannels [⟨sole.channel, soleLine, []⟩], ()) start
  unfold soleScan
  exact kept

theorem sole_simulated (id : ChannelId) : soleLines id = Sim.master.beside := rfl

theorem sole_queue : ofRegistry? soleScan.2.1 2 = some soleBridge := rfl

end Bridge

end WireBridge
