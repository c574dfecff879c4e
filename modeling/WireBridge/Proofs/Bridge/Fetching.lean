/-
**Reads of a family are all or nothing.**

In its last phase a read of a family fetches the results of all registered devices of the family,
one after the other. Each line may do anything meanwhile.

* `Registry.Fetches`, `Registry.Breaks`: registered devices that are read in order, all of them or
  up to the first one that fails;
* `Command.fetchDevices_fetches`, `Command.fetchDevices_breaks`: what fetching them yields;
* `Command.Lists`: reports of all devices of a family, in the order of their codes;
* `Command.AllOrNothing`: the answer to a read of a family in its last phase;
* `Bridge.turn_fetches`: a turn that takes such a command gives this answer, once.
-/

import WireBridge.Proofs.Bridge.Converting
import WireBridge.Proofs.Bridge.Family
import WireBridge.Proofs.Bridge.Run
import WireBridge.Proofs.Registry.Hosting

namespace WireBridge

variable {β ω ε : Type} {lines : ChannelId → Master (β × ω) ε} {quantity : Quantity}
  {failed : CommandError}

/-! ### Devices that are read one after the other -/

namespace Registry

/-- Registered devices are read one after the other, and each read yields a value. -/
inductive Fetches (lines : ChannelId → Master (β × ω) ε) (quantity : Quantity) :
    List (Address × Device) → Registry β × ω → List Float32 → Registry β × ω → Prop
  | none {state : Registry β × ω} : Fetches lines quantity [] state [] state
  | read {code : Address} {device : Device} {rest : List (Address × Device)} {value : Float32}
      {values : List Float32} {state reached last : Registry β × ω}
      (performed : (Registry.onDevice lines code device fun master =>
        Device.read master quantity).perform state = (.ok value, reached))
      (others : Fetches lines quantity rest reached values last) :
      Fetches lines quantity ((code, device) :: rest) state (value :: values) last

/-- Registered devices are read one after the other up to one that cannot be read, which is the last
that is accessed. -/
inductive Breaks (lines : ChannelId → Master (β × ω) ε) (quantity : Quantity) :
    List (Address × Device) → Registry β × ω → Registry β × ω → Prop
  | here {code : Address} {device : Device} {rest : List (Address × Device)}
      {failure : RegistryError ε} {state reached : Registry β × ω}
      (performed : (Registry.onDevice lines code device fun master =>
        Device.read master quantity).perform state = (.error failure, reached)) :
      Breaks lines quantity ((code, device) :: rest) state reached
  | later {code : Address} {device : Device} {rest : List (Address × Device)} {value : Float32}
      {state reached last : Registry β × ω}
      (performed : (Registry.onDevice lines code device fun master =>
        Device.read master quantity).perform state = (.ok value, reached))
      (others : Breaks lines quantity rest reached last) :
      Breaks lines quantity ((code, device) :: rest) state last

theorem fetches_or_breaks (lines : ChannelId → Master (β × ω) ε) (quantity : Quantity)
    (devices : List (Address × Device)) (state : Registry β × ω) :
    (∃ values last, Fetches lines quantity devices state values last) ∨
      ∃ last, Breaks lines quantity devices state last := by
  induction devices generalizing state with
  | nil => exact .inl ⟨[], state, .none⟩
  | cons head rest ih =>
    obtain ⟨code, device⟩ := head
    rcases performed : (Registry.onDevice lines code device fun master =>
      Device.read master quantity).perform state with ⟨failure | value, reached⟩
    · exact .inr ⟨reached, .here performed⟩
    · rcases ih reached with ⟨values, last, others⟩ | ⟨last, others⟩
      · exact .inl ⟨value :: values, last, .read performed others⟩
      · exact .inr ⟨last, .later performed others⟩

theorem Fetches.length_eq {devices : List (Address × Device)} {state last : Registry β × ω}
    {values : List Float32} (fetches : Fetches lines quantity devices state values last) :
    values.length = devices.length := by
  induction fetches with
  | none => rfl
  | read _ _ ih => exact congrArg (· + 1) ih

theorem Sound.store {registry : Registry β} (sound : registry.Sound) {code : Address}
    {device : Device} (fits : device.driver.Fits code) : (registry.store code device).Sound := by
  intro other known found
  have stored : (registry.settle code (some device)).find? other = some known := found
  by_cases same : code = other
  · subst same
    rw [find?_settle] at stored
    exact Option.some.inj stored ▸ fits
  · rw [find?_settle_other same] at stored
    exact sound other known stored

/-- Devices are filed under their codes. -/
theorem Sound.filed {registry : Registry β} (sound : registry.Sound) (family : FamilyCode) :
    ∀ entry ∈ (registry.ofFamily family).entries, entry.2.address = entry.1 :=
  fun entry member => (sound entry.1 entry.2 (mem_ofFamily.mp member).1).address_eq

end Registry

open Registry (Fetches Breaks)
open Sim (Line)

namespace Command

/-- The report of a device with the value that was read from it. -/
def measurement (quantity : Quantity) (device : Device) (value : Float32) : DeviceReport :=
  DeviceReport.record { address := device.address, channel := some device.channel } quantity value

/-- **If all devices can be read**, fetching their results reports all values. -/
theorem fetchDevices_fetches (failed : CommandError) {devices : List (Address × Device)}
    {state last : Registry β × ω} {values : List Float32}
    (fetches : Fetches lines quantity devices state values last) :
    (fetchDevices lines quantity failed devices).perform state =
      (.ok (List.zipWith (fun entry => measurement quantity entry.2) devices values), last) := by
  induction fetches with
  | none => rfl
  | read performed _ ih =>
    unfold fetchDevices
    rw [Action.perform_bind, Action.perform_mapError, performed]
    dsimp only [Except.mapError]
    rw [Action.perform_bind, ih]
    rfl

/-- **If a device cannot be read**, nothing is reported, and no other device is accessed. -/
theorem fetchDevices_breaks (failed : CommandError) {devices : List (Address × Device)}
    {state last : Registry β × ω} (breaks : Breaks lines quantity devices state last) :
    (fetchDevices lines quantity failed devices).perform state = (.error failed, last) := by
  induction breaks with
  | here performed =>
    unfold fetchDevices
    rw [Action.perform_bind, Action.perform_mapError, performed]
    rfl
  | later performed _ ih =>
    unfold fetchDevices
    rw [Action.perform_bind, Action.perform_mapError, performed]
    dsimp only [Except.mapError]
    rw [Action.perform_bind, ih]

/-! ### Reads of a family -/

/-- The work of a read of a measured quantity on a registry that has devices of its family. -/
theorem advance_family_eq {command : Command} {family : FamilyCode}
    (unselected : command.device = none) (selected : command.family = some family)
    (asked : command.quantity = some quantity) (measured : quantity ≠ .presence)
    (supported : checkQuantity family quantity = .ok ()) (now : Nat) {state : Registry β × ω}
    (some : (state.1.ofFamily family).entries ≠ []) :
    (advance lines command now).perform state =
      (match command.phase with
        | .result => fetchFamily lines family quantity
        | _ => sampleFamily lines command family quantity now).perform state := by
  have known : (state.1.ofFamily family).isEmpty = false := by
    simpa only [KeyMap.isEmpty, List.isEmpty_eq_false_iff] using some
  unfold advance
  rw [asked, unselected, selected]
  dsimp only
  unfold advanceFamily
  rw [if_neg measured, supported, Action.perform_bind, Action.perform_ofExcept]
  dsimp only
  rw [registry_bind, known]
  exact congrArg (Action.perform · state) (if_neg Bool.false_ne_true)

/-- A read of a measured quantity of a family, in its last phase. -/
structure FetchesFamily (command : Command) (family : FamilyCode) (quantity : Quantity) : Prop where
  verb : command.verb = .read
  unselected : command.device = none
  selected : command.family = some family
  asked : command.quantity = some quantity
  measured : quantity ≠ .presence
  supported : checkQuantity family quantity = .ok ()
  phase : command.phase = .result

/-- The work of such a command on a registry that has devices of the family. -/
theorem FetchesFamily.advance_eq {command : Command} {family : FamilyCode}
    (fetching : command.FetchesFamily family quantity) (now : Nat) {state : Registry β × ω}
    (some : (state.1.ofFamily family).entries ≠ []) :
    (advance lines command now).perform state =
      (fetchFamily lines family quantity).perform state := by
  rw [advance_family_eq fetching.unselected fetching.selected fetching.asked fetching.measured
    fetching.supported now some, fetching.phase]

/-- Reports of all registered devices of a family in the order of their codes, each with its channel
and its value. -/
structure Lists (registry : Registry β) (family : FamilyCode) (quantity : Quantity)
    (values : List Float32) (reports : List DeviceReport) : Prop where
  each : reports = List.zipWith (fun entry => measurement quantity entry.2)
    (registry.ofFamily family).entries values
  ascending : (reports.map DeviceReport.address).Pairwise (· < ·)
  exactly : ∀ code, code ∈ reports.map DeviceReport.address ↔
    code.family = family ∧ ∃ device, registry.find? code = some device

theorem map_address_measurement {devices : List (Address × Device)}
    (filed : ∀ entry ∈ devices, entry.2.address = entry.1) {values : List Float32}
    (length : values.length = devices.length) :
    (List.zipWith (fun entry => measurement quantity entry.2) devices values).map
      DeviceReport.address = devices.map Prod.fst := by
  induction devices generalizing values with
  | nil => rfl
  | cons entry rest ih =>
    obtain ⟨value, others, rfl⟩ := List.exists_cons_of_length_eq_add_one length
    obtain ⟨here, later⟩ := List.forall_mem_cons.mp filed
    rw [List.zipWith_cons_cons, List.map_cons, List.map_cons, ih later (Nat.succ.inj length)]
    exact congrArg (· :: _) ((DeviceReport.address_record _ _ _).trans here)

/-- **All devices of a family** are listed if their entries have the drivers of their codes. -/
theorem lists_of_fetches {registry : Registry β} (sound : registry.Sound) {family : FamilyCode}
    {state last : Registry β × ω} {values : List Float32}
    (fetches : Fetches lines quantity (registry.ofFamily family).entries state values last) :
    Lists registry family quantity values
      (List.zipWith (fun entry => measurement quantity entry.2)
        (registry.ofFamily family).entries values) where
  each := rfl
  ascending := by
    rw [map_address_measurement (sound.filed family) fetches.length_eq]
    exact List.pairwise_map.mpr (registry.ofFamily family).ascending
  exactly code := by
    rw [map_address_measurement (sound.filed family) fetches.length_eq, List.mem_map]
    constructor
    · rintro ⟨⟨_, device⟩, member, rfl⟩
      obtain ⟨found, own⟩ := Registry.mem_ofFamily.mp member
      exact ⟨own, device, found⟩
    · rintro ⟨own, device, found⟩
      exact ⟨(code, device), Registry.mem_ofFamily.mpr ⟨found, own⟩, rfl⟩

/-- The answer to a read of a family in its last phase, and what it leaves: the reports of all
registered devices, or the one error and nothing done after the read that failed. -/
structure AllOrNothing (lines : ChannelId → Master (β × ω) ε) (command : Command)
    (family : FamilyCode) (quantity : Quantity) (before : Registry β × ω) (told : Delivery)
    (after : Registry β × ω) : Prop where
  all : ∀ values last,
    Fetches lines quantity (before.1.ofFamily family).entries before values last → after = last ∧
      ∃ reports, Lists before.1 family quantity values reports ∧
        told = .success command
          { verb := .read, family := some family, devices := some reports }
  nothing : ∀ last, Breaks lines quantity (before.1.ofFamily family).entries before last →
    after = last ∧ told = .failure command (.readFailed family quantity)
  either : (∃ values last,
      Fetches lines quantity (before.1.ofFamily family).entries before values last) ∨
    ∃ last, Breaks lines quantity (before.1.ofFamily family).entries before last

theorem fetchFamily_fetches {family : FamilyCode} {state last : Registry β × ω}
    {values : List Float32}
    (fetches : Fetches lines quantity (state.1.ofFamily family).entries state values last) :
    (fetchFamily lines family quantity).perform state =
      (.ok (.answer
        { verb := .read, family := some family,
          devices := some (List.zipWith (fun entry => measurement quantity entry.2)
            (state.1.ofFamily family).entries values) }), last) := by
  unfold fetchFamily
  rw [registry_bind, Action.perform_bind, fetchDevices_fetches _ fetches]
  rfl

theorem fetchFamily_breaks {family : FamilyCode} {state last : Registry β × ω}
    (breaks : Breaks lines quantity (state.1.ofFamily family).entries state last) :
    (fetchFamily lines family quantity).perform state =
      (.error (.readFailed family quantity), last) := by
  unfold fetchFamily
  rw [registry_bind, Action.perform_bind, fetchDevices_breaks _ breaks]

/-- Fetching the results of a family yields an answer or an error. -/
theorem exists_fetchFamily (lines : ChannelId → Master (β × ω) ε) (family : FamilyCode)
    (quantity : Quantity) (state : Registry β × ω) :
    ∃ outcome after, (fetchFamily lines family quantity).perform state =
      (Except.map ReadOutcome.answer outcome, after) := by
  rcases Registry.fetches_or_breaks lines quantity (state.1.ofFamily family).entries state with
    ⟨values, last, fetches⟩ | ⟨last, breaks⟩
  · exact ⟨.ok _, last, fetchFamily_fetches fetches⟩
  · exact ⟨.error _, last, fetchFamily_breaks breaks⟩

/-- **Fetching the results of a family** gives all of them or none. -/
theorem allOrNothing {command : Command} {family : FamilyCode} {state after : Registry β × ω}
    (sound : state.1.Sound) {outcome : Except CommandError Response}
    (ran : (fetchFamily lines family quantity).perform state =
      (Except.map ReadOutcome.answer outcome, after)) :
    AllOrNothing lines command family quantity state (.ofOutcome command outcome) after where
  all values last fetches := by
    obtain ⟨same, rfl⟩ := Prod.mk.inj (ran.symm.trans (fetchFamily_fetches fetches))
    refine ⟨rfl, _, lists_of_fetches sound fetches, ?_⟩
    cases outcome with
    | error error => exact nomatch same
    | ok response =>
      exact congrArg (Delivery.success command) (ReadOutcome.answer.inj (Except.ok.inj same))
  nothing last breaks := by
    obtain ⟨same, rfl⟩ := Prod.mk.inj (ran.symm.trans (fetchFamily_breaks breaks))
    refine ⟨rfl, ?_⟩
    cases outcome with
    | error error => exact congrArg (Delivery.failure command) (Except.error.inj same)
    | ok response => exact nomatch same
  either := Registry.fetches_or_breaks lines quantity _ state

end Command

namespace Bridge

/-- A turn of a read that is answered. -/
theorem runNext_answers {now : Nat} {bridge : Bridge β} {world reached : ω} {command : Command}
    {rest : List Command} (front : bridge.queue.items = command :: rest)
    (due : command.timer.expired now = true) (read : command.verb = .read)
    {outcome : Except CommandError Response} {registry : Registry β}
    (ran : (Command.advance lines command now).perform (bridge.registry, world) =
      (Except.map ReadOutcome.answer outcome, (registry, reached))) :
    runNext lines now (bridge, world) =
      (answered command (.ofOutcome command outcome),
        { bridge.queueing rest with registry := registry }, reached) := by
  have popped : bridge.queue.pop? = some (command, { bridge.queue with items := rest }) := by
    simp only [Queue.pop?, front]
  simp only [runNext, popped, if_pos due]
  unfold execute work
  rw [read]
  dsimp only
  rw [ran]
  cases outcome with
  | ok response => rfl
  | error error => rfl

/-- **Reads of a family are all or nothing.** The lines may do anything, and the registry may be any
that can be had, as all of them are sound (`Registry.Made.sound`). A turn that takes a read of a
measured quantity of a family in its last phase gives one answer to it: all registered devices of
the family, in the order of their codes, if every one of them can be read, and otherwise one error,
after which no other device is accessed. Other answers of the turn only tell that repeated reads
found no room. -/
theorem turn_fetches (lines : ChannelId → Master (β × ω) ε) {now : Nat} {bridge : Bridge β}
    (world : ω) {command : Command} {rest : List Command} {family : FamilyCode}
    {quantity : Quantity} (front : bridge.queue.items = command :: rest)
    (due : command.timer.expired now = true) (fetching : command.FetchesFamily family quantity)
    (some : (bridge.registry.ofFamily family).entries ≠ []) (sound : bridge.registry.Sound) :
    ∃ turned after reached told, ∃ refused : List Command,
      turn lines now (bridge, world) = (turned, (after, reached)) ∧
      turned.deliveries =
        told :: refused.map (fun copy => Delivery.failure copy .queueFull) ∧
      Command.AllOrNothing lines command family quantity (bridge.registry, world) told
        (after.registry, reached) := by
  obtain ⟨outcome, ⟨registry, reached⟩, ran⟩ :=
    Command.exists_fetchFamily lines family quantity (bridge.registry, world)
  have whole : Command.AllOrNothing lines command family quantity (bridge.registry, world)
    (.ofOutcome command outcome) (registry, reached) := Command.allOrNothing sound ran
  rw [← fetching.advance_eq now some] at ran
  have first := runNext_answers front due fetching.verb ran
  unfold turn
  rw [first]
  dsimp only
  rw [wake_eq]
  exact ⟨_, _, _, _, _, rfl, rfl, whole⟩

/-- A bridge that knows both of two monitors. The second one sends a scratchpad that does not fit
its check byte, and a read of both is in its last phase. -/
def halfBroken : Bridge Line where
  registry :=
    ((Registry.ofChannels
      [pairChannel 1 early 1.25,
        { pairChannel 2 late 2.5 with
          line := (pairChannel 2 late 2.5).line.change late fun device =>
            { device with corrupt := true } }]).store early (.ofAddress 1 early)).store late
      (.ofAddress 2 late)
  queue := ⟨[halfRead], 3⟩
  subscriptions := .empty
where
  /-- The read of both monitors. -/
  halfRead : Command :=
    { verb := .read, phase := .result, family := some Family.batteryMonitor, quantity := some .vad,
      results := 1, errors := 2 }

/-- One of two monitors cannot be read, and the answer is one error. -/
theorem turn_fetches_broken :
    let command := halfBroken.halfRead
    halfBroken.queue.items = [command] ∧ command.timer.expired 10 = true ∧
      command.FetchesFamily Family.batteryMonitor .vad ∧
      (halfBroken.registry.ofFamily Family.batteryMonitor).entries ≠ [] ∧
      halfBroken.registry.Sound ∧
      ∃ last, Breaks pairLines .vad (halfBroken.registry.ofFamily Family.batteryMonitor).entries
          (halfBroken.registry, ()) last ∧
        ∃ turned after, ∃ refused : List Command,
          turn pairLines 10 (halfBroken, ()) = (turned, (after, last.2)) ∧
          after.registry = last.1 ∧
          turned.deliveries = .failure command (.readFailed Family.batteryMonitor .vad) ::
            refused.map (fun copy => Delivery.failure copy .queueFull) := by
  intro command
  have fetching : command.FetchesFamily Family.batteryMonitor .vad :=
    ⟨rfl, rfl, rfl, rfl, by decide, by decide, rfl⟩
  have known : (halfBroken.registry.ofFamily Family.batteryMonitor).entries ≠ [] := by
    decide +kernel
  have sound : halfBroken.registry.Sound :=
    ((Registry.ofChannels_sound _).store (Driver.fits_ofAddress early)).store
      (Driver.fits_ofAddress late)
  obtain ⟨turned, after, reached, told, refused, turnEq, deliveries, whole⟩ :=
    turn_fetches pairLines () rfl (rfl : command.timer.expired 10 = true) fetching known sound
  have failed : ((Command.fetchFamily pairLines Family.batteryMonitor .vad).perform
      (halfBroken.registry, ())).1.toBool = false := by
    decide +kernel
  rcases whole.either with ⟨values, last, fetches⟩ | ⟨last, breaks⟩
  · rw [Command.fetchFamily_fetches fetches] at failed
    exact nomatch failed
  · obtain ⟨same, rfl⟩ := whole.nothing last breaks
    refine ⟨rfl, rfl, fetching, known, sound, last, breaks, turned, after, refused, ?_, ?_,
      deliveries⟩
    · rw [← same]
      exact turnEq
    · rw [← same]

end Bridge

end WireBridge
