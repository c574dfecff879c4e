/-
**What commands make of a battery monitor.**

* `Sim.Site`: a channel with a battery monitor, and the voltages at its inputs;
* `Sim.Site.Shows`: the registry is sound and the monitor shows the voltage that was converted last;
* `Command.Converts`: a command that is about to convert a voltage of the monitor;
* `Sim.Site.keeping`: other commands leave what it shows;
* `Sim.Site.leads_advance`: the first phase of a read shows the voltage that was asked for;
* `Sim.Site.tells_advance`: the last phase tells what is shown, whatever was asked for.
-/

import WireBridge.Proofs.Bridge.Keeping
import WireBridge.Proofs.Sim.Looking

namespace WireBridge

open WireBridge.Action (Leads Keeps)

/-- Whether a command asks for a voltage of a device, true for the supply. -/
def Command.Asks (command : Command) (code : Address) (supply : Bool) : Prop :=
  command.About code ∧ ∃ quantity, command.quantity = some quantity ∧ quantity.supply? = some supply

/-- Whether a command that is run converts a voltage of a device, true for the supply. -/
def Command.Converts (command : Command) (code : Address) (supply : Bool) : Prop :=
  command.phase ≠ .result ∧ command.Asks code supply

/-- What a report tells of a voltage, true for the supply. -/
def DeviceReport.voltage? (report : DeviceReport) (supply : Bool) : Option Float32 :=
  if supply then report.vdd else report.vad

/-- A recorded voltage is told under its own name. -/
theorem DeviceReport.voltage?_record {address : Address} {channel : Option ChannelId}
    {quantity : Quantity} {value told : Float32} {supply : Bool}
    (recorded : (({ address, channel } : DeviceReport).record quantity value).voltage? supply =
      some told) : quantity.supply? = some supply ∧ value = told := by
  cases quantity <;> cases supply <;> first
    | exact ⟨rfl, Option.some.inj recorded⟩
    | exact absurd recorded (Option.some_ne_none told).symm

theorem DeviceReport.address_record (report : DeviceReport) (quantity : Quantity)
    (value : Float32) : (report.record quantity value).address = report.address := by
  cases quantity <;> rfl

theorem DeviceReport.channel_record (report : DeviceReport) (quantity : Quantity)
    (value : Float32) : (report.record quantity value).channel = report.channel := by
  cases quantity <;> rfl

/-- All reports of a response. -/
def Response.reports (response : Response) : List DeviceReport :=
  response.device.toList ++ response.devices.getD []

namespace Sim

/-- A channel with a battery monitor, and the voltages at its inputs. -/
structure Site where
  channel : ChannelId
  code : Address
  vad : Float32
  vdd : Float32

namespace Site

variable {ω ε : Type} {lines : ChannelId → Master (Line × ω) ε} {site : Site}
  {shown : Option Bool}

/-- The voltage at an input as the monitor tells it, true for the supply. -/
def volts (site : Site) (supply : Bool) : Float32 :=
  BatteryMonitor.volts (converted site.vad site.vdd supply)

/-- The registry is sound, and the monitor on the channel shows the voltage of an input, if one is
named. -/
def Shows (site : Site) (shown : Option Bool) (registry : Registry Line) : Prop :=
  registry.Sound ∧ registry.Hosts site.channel fun line =>
    line.Has site.code (Sim.Shows site.vad site.vdd shown)

/-- A report about the monitor tells the voltage that the command asked for by name, and the one
that is shown by value. -/
def Tells (site : Site) (command : Command) (shown : Option Bool) (report : DeviceReport) : Prop :=
  report.address = site.code → report.channel = some site.channel →
    ∀ input value, report.voltage? input = some value →
      command.Asks site.code input ∧ ∀ supply, shown = some supply → value = site.volts supply

theorem Shows.weaken {registry : Registry Line} (shows : site.Shows shown registry) :
    site.Shows none registry := by
  refine ⟨shows.1, shows.2.mono fun line has => has.mono fun device here => ?_⟩
  obtain ⟨celsius, registers, showing⟩ := here
  exact ⟨celsius, registers, showing.model, fun _ named => absurd named (by simp)⟩

/-! ### Looking for devices -/

variable (drives : ∀ id, Drives (lines id) Prod.fst)
  (monitor : site.code.family = Family.batteryMonitor)

include drives monitor

theorem calm (shown : Option Bool) :
    Registry.Calm lines fun line => line.Has site.code (Sim.Shows site.vad site.vdd shown) :=
  calm_of_drives drives monitor site.vad site.vdd shown

omit monitor

/-! ### The actions of a device -/

section Devices

variable {other : Address} {device : WireBridge.Device} {quantity : Quantity} {supply : Bool}

theorem keeps_sample (fits : device.driver.Fits other)
    (spares : other = site.code → quantity.Spares shown) :
    Keeps (fun state => site.Shows shown state.1)
      (Registry.onDevice lines other device fun master => Device.sample master quantity) :=
  (Registry.onDevice_sound fits ((Device.blind_fits _).keeps_sample quantity)).and
    (Registry.onDevice_hosts (((drives _).keeps_sample spares).of_imp
      fun _ start => ⟨start.1 ▸ fits, start.2⟩))

theorem keeps_read (monitor : site.code.family = Family.batteryMonitor)
    (fits : device.driver.Fits other) (quantity : Quantity) :
    Keeps (fun state => site.Shows shown state.1)
      (Registry.onDevice lines other device fun master => Device.read master quantity) :=
  (Registry.onDevice_sound fits ((Device.blind_fits _).keeps_read quantity)).and
    (Registry.onDevice_hosts (((drives _).keeps_deviceRead monitor quantity).of_imp
      fun _ start => ⟨start.1 ▸ fits, start.2⟩))

/-- The monitor converts a voltage. -/
theorem leads_sample (fits : device.driver.Fits site.code) (here : device.channel = site.channel)
    (voltage : quantity.supply? = some supply) :
    Leads (fun state => site.Shows shown state.1)
      (Registry.onDevice lines site.code device fun master => Device.sample master quantity)
      (fun _ state => site.Shows (some supply) state.1) fun state => site.Shows shown state.1 := by
  have sound : Keeps (fun state => state.1.Sound) (Registry.onDevice lines site.code device
      fun master => Device.sample master quantity) :=
    Registry.onDevice_sound fits ((Device.blind_fits _).keeps_sample quantity)
  exact sound.leads_and (Registry.onDevice_leads here (((drives _).leads_sample voltage).of_imp
    fun _ start => ⟨start.1 ▸ fits, start.2⟩))

/-- The monitor is read. -/
theorem tells_read (fits : device.driver.Fits site.code) (here : device.channel = site.channel)
    (measured : quantity.supply? ≠ none) :
    Leads (fun state => site.Shows (some supply) state.1)
      (Registry.onDevice lines site.code device fun master => Device.read master quantity)
      (fun value _ => value = site.volts supply) fun _ => True := by
  have reads : Leads
      (fun state : Registry Line × ω => state.1.Hosts site.channel fun line =>
        line.Has site.code (Sim.Shows site.vad site.vdd (some supply)))
      (Registry.onDevice lines site.code device fun master => Device.read master quantity)
      (fun value state => state.1.Hosts site.channel fun _ => value = site.volts supply)
      fun state => state.1.Hosts site.channel fun _ => True :=
    Registry.onDevice_leads here (((drives _).leads_deviceRead measured).of_imp
      fun _ start => ⟨start.1 ▸ fits, start.2⟩)
  refine (reads.mono ?_ fun _ _ => trivial).of_imp fun _ shows => shows.2
  rintro value state ⟨_, _, told⟩
  exact told

end Devices

/-! ### Reads -/

section Devices

variable {quantity : Quantity} {failed : CommandError}
  {devices : List (Address × WireBridge.Device)} {supply : Bool}

/-- The conversions of a family are those of the monitor too. -/
theorem leads_sampleDevices (fits : ∀ entry ∈ devices, entry.2.driver.Fits entry.1)
    {device : WireBridge.Device} (member : (site.code, device) ∈ devices)
    (here : device.channel = site.channel) (voltage : quantity.supply? = some supply)
    (longest : Nat) :
    Leads (fun state => site.Shows none state.1)
      (Command.sampleDevices lines quantity failed devices longest)
      (fun _ state => site.Shows (some supply) state.1) fun state => site.Shows none state.1 := by
  induction devices generalizing longest with
  | nil => exact absurd member List.not_mem_nil
  | cons entry rest ih =>
    have others : ∀ entry ∈ rest, entry.2.driver.Fits entry.1 :=
      fun entry member => fits entry (List.mem_cons_of_mem _ member)
    rcases List.mem_cons.mp member with rfl | later
    · refine Action.leads_bind _ (Action.leads_mapError
        (leads_sample drives (fits _ List.mem_cons_self) here voltage)) fun wait => ?_
      refine (Command.keeps_sampleDevices (fun entry member => keeps_sample drives
        (others entry member) fun _ wanted named => ?_) _).mono
          (fun _ _ kept => kept) fun _ kept => kept.weaken
      exact .inr (voltage.symm.trans named)
    · obtain ⟨other, first⟩ := entry
      refine Action.leads_bind _ (Action.leads_mapError
        (keeps_sample drives (fits _ List.mem_cons_self) fun _ _ _ => .inl rfl)) fun wait => ?_
      exact ih others later _

/-- A report of a device whose result was fetched. -/
theorem tells_report (monitor : site.code.family = Family.batteryMonitor) {command : Command}
    (asked : command.quantity = some quantity) {other : Address} {device : WireBridge.Device}
    (fits : device.driver.Fits other) (about : other = site.code → command.About site.code) :
    Leads (fun state => site.Shows shown state.1)
      (Registry.onDevice lines other device fun master => Device.read master quantity)
      (fun value state => site.Shows shown state.1 ∧ site.Tells command shown
        (({ address := other, channel := some device.channel } : DeviceReport).record quantity
          value))
      fun _ => True := by
  have keeps : Keeps (fun state => site.Shows shown state.1) (Registry.onDevice lines other
      device fun master => Device.read master quantity) :=
    keeps_read drives monitor fits quantity
  by_cases own : other = site.code ∧ device.channel = site.channel ∧ quantity.supply? ≠ none
  · obtain ⟨rfl, here, measured⟩ := own
    have read : Leads (fun state => site.Shows shown state.1)
        (Registry.onDevice lines site.code device fun master => Device.read master quantity)
        (fun value _ => ∀ supply, shown = some supply → value = site.volts supply)
        fun _ => True := by
      cases shown with
      | none => exact keeps.mono (fun _ _ _ _ named => absurd named (by simp)) fun _ _ => trivial
      | some supply =>
        refine (tells_read drives fits here measured).mono ?_ fun _ _ => trivial
        rintro value _ told _ named
        rw [told, Option.some.inj named]
    refine ((keeps.leads_and read).mono ?_ fun _ _ => trivial).of_imp
      fun _ shows => ⟨shows, shows⟩
    rintro value state ⟨kept, told⟩
    refine ⟨kept, fun _ _ input value recorded => ?_⟩
    obtain ⟨named, rfl⟩ := DeviceReport.voltage?_record recorded
    exact ⟨⟨about rfl, quantity, asked, named⟩, told⟩
  · refine keeps.mono (fun value state kept => ⟨kept, fun same there input value recorded => ?_⟩)
      fun _ _ => trivial
    have named := (DeviceReport.voltage?_record recorded).1
    rw [DeviceReport.address_record] at same
    rw [DeviceReport.channel_record] at there
    refine absurd ⟨same, Option.some.inj there, ?_⟩ own
    rw [named]
    exact Option.some_ne_none input

theorem tells_fetchDevices (monitor : site.code.family = Family.batteryMonitor) {command : Command}
    (asked : command.quantity = some quantity)
    (fits : ∀ entry ∈ devices, entry.2.driver.Fits entry.1)
    (about : (∃ device, (site.code, device) ∈ devices) → command.About site.code) :
    Leads (fun state => site.Shows shown state.1)
      (Command.fetchDevices lines quantity failed devices)
      (fun reports _ => ∀ report ∈ reports, site.Tells command shown report) fun _ => True := by
  induction devices with
  | nil => exact Action.leads_pure fun _ _ _ member => absurd member List.not_mem_nil
  | cons entry rest ih =>
    obtain ⟨other, device⟩ := entry
    have first := fits (other, device) List.mem_cons_self
    have others : ∀ entry ∈ rest, entry.2.driver.Fits entry.1 :=
      fun entry member => fits entry (List.mem_cons_of_mem _ member)
    have firstAbout : other = site.code → command.About site.code := by
      rintro rfl
      exact about ⟨device, List.mem_cons_self⟩
    refine Action.leads_bind _ (Action.leads_mapError
      (tells_report drives monitor asked first firstAbout)) fun value => ?_
    rintro state ⟨shows, told⟩
    have address : device.address = other := first.address_eq
    have later := ih others fun ⟨device, member⟩ => about ⟨device, List.mem_cons_of_mem _ member⟩
    refine (Action.leads_bind _ later fun reports => ?_) state shows
    refine Action.leads_pure fun _ later report member => ?_
    rcases List.mem_cons.mp member with rfl | after
    · rw [address]
      exact told
    · exact later report after

end Devices

/-! ### Both phases -/

omit drives

theorem Shows.fits {registry : Registry Line} (shows : site.Shows shown registry)
    {family : FamilyCode} :
    ∀ entry ∈ (registry.ofFamily family).entries, entry.2.driver.Fits entry.1 :=
  fun entry member => shows.1 entry.1 entry.2 (Registry.mem_ofFamily.mp member).1

include drives monitor

/-- Commands leave what the monitor shows, unless they convert its other voltage. -/
theorem keeping (shown : Option Bool) :
    Registry.Keeping lines (fun code device => device.driver.Fits code)
      (fun code quantity => code = site.code → quantity.Spares shown) (site.Shows shown) where
  known _ shows := shows.1
  scan family :=
    (Registry.scan_sound family).and (Registry.scan_hosts (calm drives monitor shown) family)
  locate code :=
    (Registry.locate_sound code).and (Registry.locate_hosts (calm drives monitor shown) code)
  sample _ _ _ fits spares := keeps_sample drives fits spares
  read _ _ quantity fits := keeps_read drives monitor fits quantity
  broadcast id family :=
    (Registry.onChannel_sound id _).and
      (Registry.onChannel_hosts ((drives id).keeps_sampleFamily family) id)

theorem keeps_discover (command : Command) :
    Keeps (fun state => site.Shows shown state.1) (Bridge.discover lines command) :=
  (keeping drives monitor shown).keeps_discover command

/-- **A read that does not convert the other voltage** of the monitor leaves what it shows. -/
theorem keeps_advance {command : Command} (now : Nat)
    (spares : ∀ wanted, command.Converts site.code wanted → shown = none ∨ shown = some wanted) :
    Keeps (fun state => site.Shows shown state.1) (Command.advance lines command now) := by
  refine (keeping drives monitor shown).keeps_advance now ?_
  rintro code quantity phase about asked rfl wanted voltage
  exact spares wanted ⟨phase, about, quantity, asked, voltage⟩

/-- The monitor is registered on its channel. -/
def Registered (site : Site) (registry : Registry Line) : Prop :=
  ∃ device, registry.find? site.code = some device ∧ device.channel = site.channel

omit monitor in
theorem leads_advanceDevice {command : Command} {quantity : Quantity} {supply : Bool} (now : Nat)
    (phase : command.phase ≠ .result) (voltage : quantity.supply? = some supply) :
    Leads (fun state => site.Shows none state.1 ∧ site.Registered state.1)
      (Command.advanceDevice lines command site.code quantity now)
      (fun _ state => site.Shows (some supply) state.1) fun _ => True := by
  have measured : quantity ≠ .presence := by
    rintro rfl
    exact absurd voltage (Option.some_ne_none supply).symm
  unfold Command.advanceDevice
  rw [if_neg measured]
  refine Action.leads_bind (fun _ state => site.Shows none state.1 ∧ site.Registered state.1)
    (Action.leads_ofExcept (fun _ _ _ kept => kept) fun _ _ => trivial) fun _ => ?_
  refine Command.leads_registry ?_
  rintro state ⟨shows, device, found, here⟩
  have fits := shows.1 site.code device found
  have same : ∀ other, other = state → site.Shows none other.1 := fun _ same => same ▸ shows
  rw [found]
  dsimp only
  split
  · next ended => exact absurd ended phase
  · refine Action.leads_bind (fun _ state => site.Shows (some supply) state.1)
      (((Action.leads_mapError (leads_sample drives fits here voltage)).of_imp same).mono
        (fun _ _ kept => kept) fun _ _ => trivial) fun _ => ?_
    exact Action.leads_pure fun _ kept => kept

omit monitor in
theorem leads_advanceFamily {command : Command} {quantity : Quantity} {supply : Bool} (now : Nat)
    (phase : command.phase ≠ .result) (voltage : quantity.supply? = some supply) :
    Leads (fun state => site.Shows none state.1 ∧ site.Registered state.1)
      (Command.advanceFamily lines command site.code.family quantity now)
      (fun _ state => site.Shows (some supply) state.1) fun _ => True := by
  have measured : quantity ≠ .presence := by
    rintro rfl
    exact absurd voltage (Option.some_ne_none supply).symm
  have warm : quantity ≠ .temperature := by
    rintro rfl
    exact absurd voltage (Option.some_ne_none supply).symm
  unfold Command.advanceFamily
  rw [if_neg measured]
  refine Action.leads_bind (fun _ state => site.Shows none state.1 ∧ site.Registered state.1)
    (Action.leads_ofExcept (fun _ _ _ kept => kept) fun _ _ => trivial) fun _ => ?_
  refine Command.leads_registry ?_
  rintro state ⟨shows, device, found, here⟩
  have same : ∀ other, other = state → site.Shows none other.1 := fun _ same => same ▸ shows
  have member : (site.code, device) ∈ (state.1.ofFamily site.code.family).entries :=
    Registry.mem_ofFamily.mpr ⟨found, rfl⟩
  split
  · exact Action.leads_fail fun _ _ => trivial
  · split
    · next ended => exact absurd ended phase
    · refine Command.leads_registry ?_
      rintro known rfl
      dsimp only
      rw [if_neg warm]
      refine Action.leads_bind (fun _ state => site.Shows (some supply) state.1) ?_ fun _ => ?_
      · exact ((leads_sampleDevices drives shows.fits member here voltage 0).of_imp same).mono
          (fun _ _ kept => kept) fun _ _ => trivial
      · exact Action.leads_pure fun _ kept => kept

omit monitor in
/-- **A read that converts a voltage** of the monitor, which then shows that one. -/
theorem leads_advance {command : Command} {supply : Bool} (now : Nat)
    (converts : command.Converts site.code supply) :
    Leads (fun state => site.Shows none state.1 ∧ site.Registered state.1)
      (Command.advance lines command now) (fun _ state => site.Shows (some supply) state.1)
      fun _ => True := by
  obtain ⟨phase, about, quantity, asked, voltage⟩ := converts
  unfold Command.advance
  rw [asked]
  dsimp only
  rcases about with selected | ⟨unselected, selected⟩
  · rw [selected]
    cases command.family with
    | none => exact leads_advanceDevice drives now phase voltage
    | some family => exact Action.leads_fail fun _ _ => trivial
  · rw [unselected, selected]
    exact leads_advanceFamily drives now phase voltage

theorem tells_advanceDevice {command : Command} {address : Address} {quantity : Quantity}
    (now : Nat) (phase : command.phase = .result) (selected : command.device = some address)
    (asked : command.quantity = some quantity) (measured : quantity ≠ .presence) :
    Leads (fun state => site.Shows shown state.1)
      (Command.advanceDevice lines command address quantity now)
      (fun outcome _ => ∀ response, outcome = .answer response →
        ∀ report ∈ response.reports, site.Tells command shown report)
      fun _ => True := by
  unfold Command.advanceDevice
  rw [if_neg measured]
  refine Action.leads_bind (fun _ state => site.Shows shown state.1)
    (Action.leads_ofExcept (fun _ _ _ kept => kept) fun _ _ => trivial) fun _ => ?_
  refine Command.leads_registry fun state shows => ?_
  split
  · exact Action.leads_fail fun _ _ => trivial
  · next device found =>
    have fits := shows.1 address device found
    have about : address = site.code → command.About site.code := by
      rintro rfl
      exact .inl selected
    rw [phase]
    dsimp only
    refine Action.leads_bind _ ((Action.leads_mapError
      (tells_report drives monitor asked fits about)).of_imp fun _ same => same ▸ shows)
      fun value => ?_
    refine Action.leads_pure fun _ told response answer report member => ?_
    obtain rfl := ReadOutcome.answer.inj answer
    obtain rfl := List.mem_singleton.mp member
    exact told.2

theorem tells_advanceFamily {command : Command} {family : FamilyCode} {quantity : Quantity}
    (now : Nat) (phase : command.phase = .result) (unselected : command.device = none)
    (selected : command.family = some family) (asked : command.quantity = some quantity)
    (measured : quantity ≠ .presence) :
    Leads (fun state => site.Shows shown state.1)
      (Command.advanceFamily lines command family quantity now)
      (fun outcome _ => ∀ response, outcome = .answer response →
        ∀ report ∈ response.reports, site.Tells command shown report)
      fun _ => True := by
  unfold Command.advanceFamily
  rw [if_neg measured]
  refine Action.leads_bind (fun _ state => site.Shows shown state.1)
    (Action.leads_ofExcept (fun _ _ _ kept => kept) fun _ _ => trivial) fun _ => ?_
  refine Command.leads_registry fun state shows => ?_
  split
  · exact Action.leads_fail fun _ _ => trivial
  · rw [phase]
    dsimp only
    refine Command.leads_registry ?_
    rintro known rfl
    have about : (∃ device, (site.code, device) ∈ (known.1.ofFamily family).entries) →
        command.About site.code := by
      rintro ⟨device, member⟩
      exact .inr ⟨unselected, by rw [(Registry.mem_ofFamily.mp member).2]; exact selected⟩
    refine Action.leads_bind _
      ((tells_fetchDevices drives monitor asked shows.fits about).of_imp
        fun _ same => same ▸ shows) fun reports => ?_
    refine Action.leads_pure fun _ told response answer report member => ?_
    obtain rfl := ReadOutcome.answer.inj answer
    exact told report member

/-- **The last phase of a read** tells what the monitor shows, whichever voltage was asked for. -/
theorem tells_advance {command : Command} {quantity : Quantity} (now : Nat)
    (phase : command.phase = .result) (asked : command.quantity = some quantity)
    (measured : quantity ≠ .presence) :
    Leads (fun state => site.Shows shown state.1) (Command.advance lines command now)
      (fun outcome _ => ∀ response, outcome = .answer response →
        ∀ report ∈ response.reports, site.Tells command shown report)
      fun _ => True := by
  unfold Command.advance
  rw [asked]
  dsimp only
  split
  · next address selected _ =>
    exact tells_advanceDevice drives monitor now phase selected asked measured
  · next family unselected selected =>
    exact tells_advanceFamily drives monitor now phase unselected selected asked measured
  · exact Action.leads_fail fun _ _ => trivial
  · exact Action.leads_fail fun _ _ => trivial

end Site

end Sim

end WireBridge
