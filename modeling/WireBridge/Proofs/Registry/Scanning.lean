/-
**What a scan makes of a registry.**

* `Registry.Wired`: channels whose devices can all be told apart and found;
* `Registry.searchAll_wired`: every search succeeds and finds what it looks for;
* `Registry.Surveyed`: what searches see on channels;
* `Registry.Placed`: what becomes of the entry of a device that is seen;
* `Registry.enroll_own`: a sighting places the device that was seen;
* `Registry.scan_perform`: a scan leaves out what it did not see and registers what it saw;
* `Registry.InStep`: what is registered is what is attached;
* `Registry.scan_inStep`: a scan succeeds and leads there, whatever was registered before.
-/

import WireBridge.Proofs.Device.Own
import WireBridge.Proofs.Registry.Reports
import WireBridge.Proofs.Registry.Roster
import WireBridge.Proofs.Sim.FamilyDiscovery

namespace WireBridge

open WireBridge.Action (Leads Keeps)
open Sim (Line Drives)

variable {ω ε : Type} {lines : ChannelId → Master (Line × ω) ε}

namespace Channel

/-- The devices on a line can be told apart and found, and are of the kinds that their families
say. -/
structure Wired (channel : Channel Line) : Prop where
  few : channel.line.devices.length ≤ Search.maxPasses
  distinct : channel.line.codes.Nodup
  nonzero : ∀ code ∈ channel.line.codes, code ≠ Address.zero
  valid : ∀ code ∈ channel.line.codes, code.valid = true
  suits : ∀ device ∈ channel.line.devices, device.Suits

/-- A channel after a search. -/
structure Searched (family : Option FamilyCode) (before after : Channel Line) : Prop where
  berth : after.berth = before.berth
  distinct : after.found.Nodup
  mem_found : ∀ code, code ∈ after.found ↔ code ∈ before.line.codes ∧ Search.Seeks family code

/-- **The search of a line** succeeds and finds what it looks for. -/
theorem discover_wired {master : Master (Line × ω) ε} (drives : Drives master Prod.fst)
    {channel : Channel Line} (wired : channel.Wired) (family : Option FamilyCode) (world : ω) :
    ∃ searched reached,
      (discover master family).perform (channel, world) = (.ok (), (searched, reached)) ∧
        Searched family channel searched := by
  obtain ⟨order, perm, ordered, mem_order⟩ := Sim.exists_sought wired.distinct family
  have yields : Sim.Yields master Prod.fst order
      (Search.start .normal family, (channel.line, world)) :=
    drives.yields_start wired.nonzero wired.valid ordered mem_order rfl
  have distinct : order.Nodup := perm.nodup_iff.mpr (wired.distinct.filter _)
  have few : order.length ≤ Search.maxPasses := by
    rw [perm.length_eq]
    refine Nat.le_trans (List.length_filter_le _ _) ?_
    rw [Line.codes, List.length_map]
    exact wired.few
  have apart : (([] : List Address) ++ order).Nodup := distinct
  obtain ⟨⟨line, reached⟩, passesEq, kept⟩ := yields.passes few apart
  refine ⟨{ channel with line := line, found := order }, reached, ?_,
    berth_of_evolves rfl (.of_devices kept.devices), distinct, mem_order⟩
  unfold discover
  rw [Action.perform_ofStep]
  dsimp only
  rw [passesEq]
  rfl

end Channel

namespace Registry

/-- Every line is wired, and no code is on two lines. -/
structure Wired (registry : Registry Line) : Prop where
  each : ∀ channel ∈ registry.channels, channel.Wired
  distinct : (registry.channels.flatMap fun channel => channel.line.codes).Nodup

/-! ### Searching every channel -/

/-- **Every search succeeds** and finds what it looks for. -/
theorem searchAll_wired (drives : ∀ id, Drives (lines id) Prod.fst) (family : Option FamilyCode)
    {channels : List (Channel Line)} (wired : ∀ channel ∈ channels, channel.Wired) (world : ω) :
    ∃ searched reached,
      searchAll lines family channels world =
          (List.replicate searched.length (.ok ()), searched, reached) ∧
        List.Forall₂ (Channel.Searched family) channels searched := by
  induction channels generalizing world with
  | nil => exact ⟨[], world, rfl, .nil⟩
  | cons channel rest ih =>
    obtain ⟨first, reached, discoverEq, here⟩ :=
      Channel.discover_wired (drives channel.id) (wired channel List.mem_cons_self) family world
    obtain ⟨others, last, searchEq, there⟩ :=
      ih (fun other member => wired other (List.mem_cons_of_mem _ member)) reached
    refine ⟨first :: others, last, ?_, .cons here there⟩
    unfold searchAll
    rw [discoverEq]
    dsimp only
    rw [searchEq]
    rfl

theorem firstFailure_replicate (channels : List (Channel Line)) :
    firstFailure (List.replicate channels.length (.ok () : Except (BusError ε) Unit)) channels =
      none := by
  induction channels with
  | nil => rfl
  | cons channel rest ih => exact ih

theorem failedChannels_replicate (channels : List (Channel Line)) :
    failedChannels (List.replicate channels.length (.ok () : Except (BusError ε) Unit)) channels =
      [] := by
  induction channels with
  | nil => rfl
  | cons channel rest ih => exact ih

/-- The codes that searches found, in order. -/
theorem map_fst_sightings (place : Nat) (channels : List (Channel Line)) :
    (sightings place (List.replicate channels.length (.ok () : Except (BusError ε) Unit))
      channels).map Prod.fst = channels.flatMap Channel.found := by
  induction channels generalizing place with
  | nil => rfl
  | cons channel rest ih =>
    have later := ih (place + 1)
    rw [List.flatMap_cons, ← later]
    show (channel.found.map (·, place) ++ sightings (place + 1) _ rest).map Prod.fst = _
    rw [List.map_append, List.map_map]
    congr 1
    exact List.map_id _

/-- What was found on wired channels, without repetition. -/
theorem nodup_flatMap_found {family : Option FamilyCode} {channels searched : List (Channel Line)}
    (each : List.Forall₂ (Channel.Searched family) channels searched)
    (distinct : (channels.flatMap fun channel => channel.line.codes).Nodup) :
    (searched.flatMap Channel.found).Nodup ∧
      ∀ code ∈ searched.flatMap Channel.found,
        code ∈ channels.flatMap fun channel => channel.line.codes := by
  induction each with
  | nil => exact ⟨List.nodup_nil, fun _ none => none⟩
  | @cons channel after _ _ here _ ih =>
    rw [List.flatMap_cons, List.nodup_append] at distinct
    obtain ⟨ownDistinct, restDistinct, apart⟩ := distinct
    obtain ⟨restFound, restMem⟩ := ih restDistinct
    have own (code : Address) (found : code ∈ after.found) : code ∈ channel.line.codes :=
      ((here.mem_found code).mp found).1
    rw [List.flatMap_cons, List.flatMap_cons, List.nodup_append]
    refine ⟨⟨here.distinct, restFound, fun code found other later => ?_⟩, fun code found => ?_⟩
    · exact apart code (own code found) other (restMem other later)
    · exact List.mem_append.mpr ((List.mem_append.mp found).imp (own code) (restMem code))

/-- What was seen on channels is what is looked for and attached there, each code once. -/
structure Surveyed (family : Option FamilyCode) (channels : List (Channel Line))
    (seen : List (Address × Nat)) : Prop where
  distinct : (seen.map Prod.fst).Nodup
  mem_iff : ∀ code place, (code, place) ∈ seen ↔
    Search.Seeks family code ∧
      ∃ channel, channels[place]? = some channel ∧ code ∈ channel.line.codes

theorem Surveyed.mem_codes {family : Option FamilyCode} {channels : List (Channel Line)}
    {seen : List (Address × Nat)} (surveyed : Surveyed family channels seen) {code : Address} :
    code ∈ seen.map Prod.fst ↔
      Search.Seeks family code ∧ ∃ channel ∈ channels, code ∈ channel.line.codes := by
  constructor
  · intro inside
    obtain ⟨⟨_, place⟩, member, rfl⟩ := List.mem_map.mp inside
    obtain ⟨seeks, channel, there, onLine⟩ := (surveyed.mem_iff _ place).mp member
    exact ⟨seeks, channel, List.mem_of_getElem? there, onLine⟩
  · rintro ⟨seeks, channel, member, onLine⟩
    obtain ⟨place, there⟩ := List.mem_iff_getElem?.mp member
    exact List.mem_map.mpr
      ⟨(code, place), (surveyed.mem_iff code place).mpr ⟨seeks, channel, there, onLine⟩, rfl⟩

/-- Searches of wired channels see what they look for. -/
theorem surveyed_sightings {family : Option FamilyCode} {channels searched : List (Channel Line)}
    (each : List.Forall₂ (Channel.Searched family) channels searched)
    (distinct : (channels.flatMap fun channel => channel.line.codes).Nodup) :
    Surveyed family channels
      (sightings 0 (List.replicate searched.length (.ok () : Except (BusError ε) Unit))
        searched) := by
  refine ⟨?_, fun code place => mem_sightings.trans ⟨?_, ?_⟩⟩
  · rw [map_fst_sightings]
    exact (nodup_flatMap_found each distinct).1
  · rintro ⟨index, after, _, there, rfl, found⟩
    obtain ⟨inside, rfl⟩ := List.getElem?_eq_some_iff.mp there
    have before : index < channels.length := each.length_eq ▸ inside
    have here := (List.forall₂_iff_get.mp each).2 index before inside
    obtain ⟨onLine, seeks⟩ := (here.mem_found code).mp found
    rw [Nat.zero_add]
    exact ⟨seeks, channels[index], List.getElem?_eq_getElem before, onLine⟩
  · rintro ⟨seeks, channel, there, onLine⟩
    obtain ⟨before, rfl⟩ := List.getElem?_eq_some_iff.mp there
    have inside : place < searched.length := each.length_eq ▸ before
    have here := (List.forall₂_iff_get.mp each).2 place before inside
    refine ⟨place, searched[place], ?_, List.getElem?_eq_getElem inside, (Nat.zero_add place).symm,
      (here.mem_found code).mpr ⟨onLine, seeks⟩⟩
    rw [List.getElem?_replicate, if_pos inside]

theorem roster_searched {family : Option FamilyCode} {channels searched : List (Channel Line)}
    (each : List.Forall₂ (Channel.Searched family) channels searched) :
    searched.map Channel.berth = channels.map Channel.berth := by
  induction each with
  | nil => rfl
  | cons here _ ih => rw [List.map_cons, List.map_cons, here.berth, ih]

/-! ### Registering what was seen -/

/-- What becomes of the entry of a device that is seen on a channel. -/
inductive Placed (id : ChannelId) (readable : Bool) : Option Device → Option Device → Prop
  | stays {entry : Device} (here : entry.channel = id) :
    Placed id readable (some entry) (some entry)
  | made {before : Option Device} {entry : Device}
    (elsewhere : ∀ known, before = some known → known.channel ≠ id)
    (answers : readable = true) (here : entry.channel = id) : Placed id readable before (some entry)
  | left {before : Option Device} (elsewhere : ∀ known, before = some known → known.channel ≠ id)
    (silent : readable = false) : Placed id readable before none

namespace Placed

variable {id : ChannelId} {readable : Bool} {before after : Option Device}

theorem isSome_iff (placed : Placed id readable before after) :
    after.isSome = true ↔
      (∃ entry, before = some entry ∧ entry.channel = id) ∨ readable = true := by
  cases placed with
  | @stays entry here => exact ⟨fun _ => .inl ⟨entry, rfl, here⟩, fun _ => rfl⟩
  | made elsewhere answers here => exact ⟨fun _ => .inr answers, fun _ => rfl⟩
  | left elsewhere silent =>
    refine ⟨fun none => absurd none (by decide), ?_⟩
    rintro (⟨entry, known, here⟩ | answers)
    · exact absurd here (elsewhere entry known)
    · exact absurd (silent.symm.trans answers) (by decide)

theorem channel_eq (placed : Placed id readable before after) {entry : Device}
    (registered : after = some entry) : entry.channel = id := by
  cases placed with
  | stays here => exact Option.some.inj registered ▸ here
  | made elsewhere answers here => exact Option.some.inj registered ▸ here
  | left elsewhere silent => exact absurd registered (Option.some_ne_none _).symm

theorem kept (placed : Placed id readable before after) {entry : Device}
    (known : before = some entry) (here : entry.channel = id) : after = some entry := by
  cases placed with
  | stays _ => exact known
  | made elsewhere _ _ => exact absurd here (elsewhere entry known)
  | left elsewhere _ => exact absurd here (elsewhere entry known)

end Placed

/-- **Adding a device** that is on the line succeeds if and only if it can be read. -/
theorem addDevice_found {master : Master (Line × ω) ε} (drives : Drives master Prod.fst)
    {channel : Channel Line} {code : Address} {device : Sim.Device}
    (found : channel.line.find? code = some device) (suits : device.Suits) (world : ω) :
    match (Channel.addDevice master code (channel, world)).1 with
    | some entry => entry.channel = channel.id ∧ device.readable = true
    | none => device.readable = false := by
  have outcome := drives.leads_setUpNew suits
    (.ofAddress channel.id code, (channel.line, world)) ⟨rfl, device, found, rfl⟩
  have unread := Device.unread_setUp master (.ofAddress channel.id code, (channel.line, world))
  rw [Device.unread_ofAddress] at unread
  unfold Channel.addDevice
  dsimp only
  generalize (Device.setUp master).perform
    (Device.ofAddress channel.id code, (channel.line, world)) = performed at outcome unread ⊢
  rcases performed with ⟨error | done, entry, reached⟩
  · exact outcome
  · exact ⟨congrArg Device.channel unread, outcome⟩

/-- **A device that is seen on a channel** is registered there afterwards, unless it is registered
elsewhere or not at all and cannot be read. -/
theorem enroll_own (drives : ∀ id, Drives (lines id) Prod.fst) {state : Registry Line × ω}
    {code : Address} {place : Nat} {id : ChannelId} {population : List Sim.Device}
    {device : Sim.Device} (there : state.1.roster[place]? = some (id, population))
    (found : population.find? (·.address == code) = some device) (suits : device.Suits) :
    Placed id device.readable (state.1.find? code)
      ((enroll lines state (code, place)).1.find? code) := by
  obtain ⟨channel, atPlaceEq, berthEq⟩ : ∃ channel, state.1.channels[place]? = some channel ∧
      channel.berth = (id, population) := by
    rw [roster, List.getElem?_map] at there
    exact Option.map_eq_some_iff.mp there
  obtain ⟨rfl, rfl⟩ := Prod.mk.inj berthEq
  obtain ⟨now, foundNow, rfl⟩ : ∃ now, channel.line.find? code = some now ∧
      now.asAttached = device := by
    rw [Line.population, List.find?_map] at found
    exact Option.map_eq_some_iff.mp found
  unfold enroll
  dsimp only
  rw [atPlaceEq]
  dsimp only
  split
  · next registered =>
    cases known : state.1.find? code with
    | none =>
      rw [known] at registered
      exact absurd registered (by simp)
    | some entry =>
      rw [known] at registered
      exact .stays (beq_iff_eq.mp registered)
  · next elsewhere =>
    have away (known : Device) (registered : state.1.find? code = some known) :
        known.channel ≠ channel.id := by
      intro here
      rw [registered] at elsewhere
      exact elsewhere (beq_iff_eq.mpr here)
    have added := addDevice_found (drives channel.id) foundNow
      ((Sim.Device.suits_asAttached now).mp suits) state.2
    simp only [atPlace, atPlaceEq]
    rw [find?_settle]
    generalize (Channel.addDevice (lines channel.id) code (channel, state.2)).1 = entry? at added ⊢
    cases entry? with
    | none => exact .left away added
    | some entry => exact .made away added.2 added.1

/-- A code that is seen once. -/
theorem foldl_enroll_seen (drives : ∀ id, Drives (lines id) Prod.fst)
    {seen : List (Address × Nat)} (distinct : (seen.map Prod.fst).Nodup) {code : Address}
    {place : Nat} (member : (code, place) ∈ seen) (state : Registry Line × ω) {id : ChannelId}
    {population : List Sim.Device} {device : Sim.Device}
    (there : state.1.roster[place]? = some (id, population))
    (found : population.find? (·.address == code) = some device) (suits : device.Suits) :
    Placed id device.readable (state.1.find? code)
      ((seen.foldl (enroll lines) state).1.find? code) := by
  induction seen generalizing state with
  | nil => exact absurd member List.not_mem_nil
  | cons sighting rest ih =>
    obtain ⟨fresh, restDistinct⟩ := List.nodup_cons.mp distinct
    rw [List.foldl_cons]
    rcases List.mem_cons.mp member with same | later
    · subst same
      rw [foldl_enroll_unseen fresh]
      exact enroll_own drives there found suits
    · have different : sighting.1 ≠ code := fun same =>
        fresh (List.mem_map.mpr ⟨(code, place), later, same.symm⟩)
      rw [← enroll_other different state]
      exact ih restDistinct later _ (by rw [roster_enroll drives]; exact there)

/-! ### Scans -/

/-- Entries that were looked for and not seen. -/
theorem find?_leaving {family : Option FamilyCode} {seen : List (Address × Nat)} {code : Address}
    {registry : Registry Line} {channels : List (Channel Line)}
    (seeks : Search.Seeks family code) (unseen : code ∉ seen.map Prod.fst) :
    (Registry.mk channels (registry.devices.filter (stays family [] seen))).find? code = none :=
  find?_dropping seeks unseen fun _ _ => List.not_mem_nil

/-- **What a scan of wired lines does**: entries of devices that were looked for and not seen are
left out, and each device that was seen is registered. -/
theorem scan_perform (drives : ∀ id, Drives (lines id) Prod.fst) {registry : Registry Line}
    (wired : registry.Wired) (family : Option FamilyCode) (world : ω) :
    ∃ channels seen reached, channels.map Channel.berth = registry.roster ∧
      Surveyed family registry.channels seen ∧
      (scan lines family).perform (registry, world) =
        (.ok (), seen.foldl (enroll lines)
          (⟨channels, registry.devices.filter (stays family [] seen)⟩, reached)) := by
  obtain ⟨searched, reached, searchEq, each⟩ := searchAll_wired drives family wired.each world
  refine ⟨searched, _, reached, roster_searched each,
    surveyed_sightings (ε := ε) each wired.distinct, ?_⟩
  unfold scan
  rw [Action.perform_ofStep]
  dsimp only
  rw [searchEq]
  dsimp only
  rw [firstFailure_replicate, failedChannels_replicate]

/-- A registry is in step with its lines after looking for all devices, or for those of one family:
a device that was looked for is registered if and only if it is on a line, and was registered there
already or can be read. -/
structure InStep (family : Option FamilyCode) (before after : Registry Line) : Prop where
  registered : ∀ code, Search.Seeks family code →
    ((after.find? code).isSome = true ↔
      ∃ channel ∈ before.channels, ∃ device ∈ channel.line.devices, device.address = code ∧
        ((∃ entry, before.find? code = some entry ∧ entry.channel = channel.id) ∨
          device.readable = true))
  located : ∀ code entry, Search.Seeks family code → after.find? code = some entry →
    ∀ channel ∈ before.channels, code ∈ channel.line.codes → entry.channel = channel.id
  kept : ∀ channel ∈ before.channels, ∀ code ∈ channel.line.codes, ∀ entry,
    before.find? code = some entry → entry.channel = channel.id → after.find? code = some entry
  others : ∀ code, ¬ Search.Seeks family code → after.find? code = before.find? code

/-- A registry is in step when each device that was looked for is placed, those that are on no line
are not registered, and no other entry has changed. -/
theorem InStep.of_placed {family : Option FamilyCode} {before after : Registry Line}
    (placed : ∀ channel ∈ before.channels, ∀ device ∈ channel.line.devices,
      Search.Seeks family device.address →
        Placed channel.id device.readable (before.find? device.address)
          (after.find? device.address))
    (absent : ∀ code, Search.Seeks family code →
      (∀ channel ∈ before.channels, code ∉ channel.line.codes) → after.find? code = none)
    (others : ∀ code, ¬ Search.Seeks family code → after.find? code = before.find? code) :
    InStep family before after := by
  refine ⟨fun code seeks => ⟨fun registered => ?_, ?_⟩, ?_, ?_, others⟩
  · by_cases attached : ∃ channel ∈ before.channels, code ∈ channel.line.codes
    · obtain ⟨channel, member, onLine⟩ := attached
      obtain ⟨device, there, rfl⟩ := List.mem_map.mp onLine
      exact ⟨channel, member, device, there, rfl,
        (placed channel member device there seeks).isSome_iff.mp registered⟩
    · rw [absent code seeks fun channel member onLine => attached ⟨channel, member, onLine⟩]
        at registered
      exact absurd registered (by decide)
  · rintro ⟨channel, member, device, there, rfl, outcome⟩
    exact (placed channel member device there seeks).isSome_iff.mpr outcome
  · intro code entry seeks registered channel member onLine
    obtain ⟨device, there, rfl⟩ := List.mem_map.mp onLine
    exact (placed channel member device there seeks).channel_eq registered
  · intro channel member code onLine entry known here
    by_cases seeks : Search.Seeks family code
    · obtain ⟨device, there, rfl⟩ := List.mem_map.mp onLine
      exact (placed channel member device there seeks).kept known here
    · rw [others code seeks]
      exact known

/-- **A scan brings the registry in step with its lines.** Whatever was registered before, a scan of
wired lines succeeds, for all devices as well as for those of one family. -/
theorem scan_inStep (simulated : ∀ id, lines id = Sim.master.beside) {registry : Registry Line}
    (wired : registry.Wired) (family : Option FamilyCode) (world : ω) :
    ∃ after reached, (scan lines family).perform (registry, world) = (.ok (), (after, reached)) ∧
      after.roster = registry.roster ∧ InStep family registry after := by
  have drives (id : ChannelId) : Drives (lines id) Prod.fst := by
    rw [simulated id]
    exact Sim.beside_drives
  obtain ⟨channels, seen, reached, berths, surveyed, performed⟩ :=
    scan_perform drives wired family world
  have rosterEq := roster_scan drives family (registry, world)
  rw [performed] at rosterEq
  refine ⟨_, _, performed, rosterEq, .of_placed ?_ ?_ ?_⟩
  · intro channel member device there seeks
    obtain ⟨place, placeEq⟩ := List.mem_iff_getElem?.mp member
    have onLine : device.address ∈ channel.line.codes := List.mem_map.mpr ⟨device, there, rfl⟩
    have found : (device.address, place) ∈ seen :=
      (surveyed.mem_iff _ place).mpr ⟨seeks, channel, placeEq, onLine⟩
    have berth : (channels.map Channel.berth)[place]? =
        some (channel.id, channel.line.population) := by
      rw [berths, roster, List.getElem?_map, placeEq]
      rfl
    have wiredHere := wired.each channel member
    have placed := foldl_enroll_seen drives surveyed.distinct found
      (⟨channels, registry.devices.filter (stays family [] seen)⟩, reached) berth
      (Line.find?_population wiredHere.distinct there)
      ((Sim.Device.suits_asAttached device).mpr (wiredHere.suits device there))
    rwa [find?_staying (.inr (List.mem_map.mpr ⟨_, found, rfl⟩)),
      Sim.Device.readable_asAttached] at placed
  · intro code seeks nowhere
    have unseen : code ∉ seen.map Prod.fst := fun inside => by
      obtain ⟨channel, member, onLine⟩ := (surveyed.mem_codes.mp inside).2
      exact nowhere channel member onLine
    exact (foldl_enroll_unseen unseen _).trans (find?_leaving seeks unseen)
  · intro code unsought
    have unseen : code ∉ seen.map Prod.fst := fun inside =>
      unsought (surveyed.mem_codes.mp inside).1
    exact (foldl_enroll_unseen unseen _).trans (find?_staying (.inl unsought))

/-- A thermometer has moved to the first channel, another one on the second channel has come to send
flipped bits, as does a monitor that is new, and a device is gone. -/
theorem scan_inStep_moved :
    let moved : Address := ⟨0x2900000000000128⟩
    let worn : Address := ⟨0x7000000000000228⟩
    let flawed : Address := ⟨0x3800000000000326⟩
    let gone : Address := ⟨0x7400000000000708⟩
    let first : Line :=
      { Line.empty with
        devices := [.fresh moved (.thermometer 21.0 Sim.thermometerPowerOn),
          ⟨flawed, .batteryMonitor 20.0 1.0 5.0 Sim.monitorPowerOn, true, 0⟩] }
    let second : Line :=
      { Line.empty with
        devices := [⟨worn, .thermometer 20.0 Sim.thermometerPowerOn, true, 0⟩] }
    let known : KeyMap Address Device :=
      ((KeyMap.empty.insert moved (.ofAddress 2 moved)).insert worn (.ofAddress 2 worn)).insert gone
        (.ofAddress 1 gone)
    let registry : Registry Line := ⟨[⟨1, first, []⟩, ⟨2, second, []⟩], known⟩
    registry.Wired ∧ ∃ after,
      (scan (fun _ => (Sim.master.beside : Master (Line × Unit) Empty)) none).perform
            (registry, ()) =
          (.ok (), (after, ())) ∧
        (∃ entry, after.find? moved = some entry ∧ entry.channel = 1) ∧
        after.find? worn = some (.ofAddress 2 worn) ∧
        after.find? flawed = none ∧ after.find? gone = none := by
  intro moved worn flawed gone first second known registry
  have wired : registry.Wired := by
    refine ⟨?_, by decide⟩
    intro channel member
    simp only [registry, List.mem_cons, List.not_mem_nil, or_false] at member
    rcases member with rfl | rfl
    · refine ⟨by decide, by decide, by decide, by decide +kernel, ?_⟩
      simp [first, Sim.Device.Suits, Sim.Device.fresh]
      decide
    · refine ⟨by decide, by decide, by decide, by decide +kernel, ?_⟩
      simp [second, Sim.Device.Suits]
      decide
  refine ⟨wired, ?_⟩
  have simulated (id : ChannelId) :
      (fun _ : ChannelId => (Sim.master.beside : Master (Line × Unit) Empty)) id =
        Sim.master.beside := rfl
  obtain ⟨after, reached, performed, _, step⟩ := scan_inStep simulated wired none ()
  have seeks : ∀ code, Search.Seeks none code := Search.seeks_none
  have firstMem : ⟨1, first, []⟩ ∈ registry.channels := List.mem_cons_self
  have secondMem : ⟨2, second, []⟩ ∈ registry.channels := List.mem_cons_of_mem _ List.mem_cons_self
  refine ⟨after, performed, ?_, ?_, ?_, ?_⟩
  · have found := (step.registered moved (seeks _)).mpr
      ⟨_, firstMem, _, List.mem_cons_self, rfl, .inr (by decide)⟩
    obtain ⟨entry, registered⟩ := Option.isSome_iff_exists.mp found
    exact ⟨entry, registered, step.located moved entry (seeks _) registered _ firstMem (by decide)⟩
  · exact step.kept _ secondMem worn (by decide) _ (by decide +kernel) rfl
  · refine Option.not_isSome_iff_eq_none.mp fun found => ?_
    obtain ⟨channel, member, device, there, same, outcome⟩ :=
      (step.registered flawed (seeks _)).mp found
    have unknown : registry.find? flawed = none := by decide +kernel
    have silent : ∀ channel ∈ registry.channels, ∀ device ∈ channel.line.devices,
        device.address = flawed → device.readable = false := by decide
    rcases outcome with ⟨entry, known, _⟩ | answers
    · exact absurd (unknown.symm.trans known) (Option.some_ne_none _).symm
    · exact absurd ((silent channel member device there same).symm.trans answers) (by decide)
  · refine Option.not_isSome_iff_eq_none.mp fun found => ?_
    obtain ⟨channel, member, device, there, same, _⟩ := (step.registered gone (seeks _)).mp found
    have nowhere : ∀ channel ∈ registry.channels, ∀ device ∈ channel.line.devices,
        device.address ≠ gone := by decide
    exact nowhere channel member device there same

end Registry

end WireBridge
