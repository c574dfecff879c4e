/-
**Scans when searches fail.**

* `Registry.Addition`, `Registry.Adds`: new drivers that read their devices one after the other;
* `Registry.Enrolls`: sightings that are worked off in order, with the new drivers;
* `Registry.Recorded`: what becomes of the entry of a device that was seen at one place;
* `Registry.Settles`: what a scan makes of a registry, given the reports of its searches;
* `Registry.scan_settles`: every scan settles the registry like this, whatever the lines do.
-/

import WireBridge.Proofs.Device.Drivers
import WireBridge.Proofs.Registry.Marking
import WireBridge.Proofs.Registry.Reports

namespace WireBridge.Registry

variable {β ω ε : Type} {lines : ChannelId → Master (β × ω) ε} {family : Option FamilyCode}

/-! ### New drivers -/

/-- A new driver for a device that was seen, once it has read the device or failed to. -/
structure Addition (ε : Type) where
  /-- The code of the device. -/
  code : Address
  /-- The place of its channel. -/
  place : Nat
  /-- Whether reading failed. -/
  outcome : Except (BusError ε) Unit
  /-- The device afterwards. -/
  device : Device

/-- The device is registered if its driver could read it. -/
def Addition.entry (addition : Addition ε) : Option Device :=
  match addition.outcome with
  | .ok _ => some addition.device
  | .error _ => none

/-- New drivers read their devices in order, each on the line of its channel. -/
inductive Adds (lines : ChannelId → Master (β × ω) ε) :
    List (Channel β) → ω → List (Addition ε) → List (Channel β) → ω → Prop
  | none {channels : List (Channel β)} {world : ω} : Adds lines channels world [] channels world
  | add {channels last : List (Channel β)} {channel : Channel β} {code : Address} {place : Nat}
      {outcome : Except (BusError ε) Unit} {device : Device} {line : β} {world reached final : ω}
      {additions : List (Addition ε)} (there : channels[place]? = some channel)
      (performed : (Device.setUp (lines channel.id)).perform
        (.ofAddress channel.id code, (channel.line, world)) = (outcome, (device, (line, reached))))
      (others : Adds lines (channels.set place { channel with line := line }) reached additions last
        final) :
    Adds lines channels world (⟨code, place, outcome, device⟩ :: additions) last final

/-- Sightings are worked off in order: nothing is done for a device that is registered where it was
seen, and any other one gets a new driver. -/
inductive Enrolls (lines : ChannelId → Master (β × ω) ε) :
    Registry β × ω → List (Address × Nat) → List (Addition ε) → Registry β × ω → Prop
  | none {state : Registry β × ω} : Enrolls lines state [] [] state
  | known {state after : Registry β × ω} {code : Address} {place : Nat}
      {rest : List (Address × Nat)} {additions : List (Addition ε)}
      (registered : ∀ channel, state.1.channels[place]? = some channel →
        ∃ entry, state.1.find? code = some entry ∧ entry.channel = channel.id)
      (others : Enrolls lines state rest additions after) :
    Enrolls lines state ((code, place) :: rest) additions after
  | unknown {registry : Registry β} {world reached : ω} {after : Registry β × ω}
      {channel : Channel β} {code : Address} {place : Nat} {outcome : Except (BusError ε) Unit}
      {device : Device} {line : β} {rest : List (Address × Nat)} {additions : List (Addition ε)}
      (there : registry.channels[place]? = some channel)
      (elsewhere : ∀ entry, registry.find? code = some entry → entry.channel ≠ channel.id)
      (performed : (Device.setUp (lines channel.id)).perform
        (.ofAddress channel.id code, (channel.line, world)) = (outcome, (device, (line, reached))))
      (others : Enrolls lines
        (Registry.settle
          { registry with channels := registry.channels.set place { channel with line := line } }
          code (Addition.entry ⟨code, place, outcome, device⟩), reached)
        rest additions after) :
    Enrolls lines (registry, world) ((code, place) :: rest)
      (⟨code, place, outcome, device⟩ :: additions) after

theorem exists_enrolls (lines : ChannelId → Master (β × ω) ε) (seen : List (Address × Nat))
    (state : Registry β × ω) :
    ∃ additions, Enrolls lines state seen additions (seen.foldl (enroll lines) state) := by
  induction seen generalizing state with
  | nil => exact ⟨[], .none⟩
  | cons sighting rest ih =>
    obtain ⟨additions, others⟩ := ih (enroll lines state sighting)
    rw [List.foldl_cons]
    generalize rest.foldl (enroll lines) (enroll lines state sighting) = after at others ⊢
    obtain ⟨code, place⟩ := sighting
    obtain ⟨registry, world⟩ := state
    unfold enroll at others
    dsimp only at others
    split at others
    · next nowhere =>
      exact ⟨additions, .known (fun channel there =>
        absurd (nowhere.symm.trans there) (Option.some_ne_none _).symm) others⟩
    · next channel there =>
      split at others
      · next registered =>
        refine ⟨additions, .known (fun other same => ?_) others⟩
        obtain rfl := Option.some.inj (there.symm.trans same)
        cases known : registry.find? code with
        | none => simp [known] at registered
        | some entry => exact ⟨entry, rfl, by simpa [known] using registered⟩
      · next missing =>
        have elsewhere (entry : Device) (known : registry.find? code = some entry) :
            entry.channel ≠ channel.id := by simpa [known] using missing
        cases performed : (Device.setUp (lines channel.id)).perform
            (.ofAddress channel.id code, (channel.line, world)) with
        | mk outcome reached =>
          obtain ⟨device, line, last⟩ := reached
          simp only [atPlace, there, Channel.addDevice, performed] at others
          exact ⟨_, .unknown there elsewhere performed others⟩

/-- What becomes of the entry of a code that was seen at one place, on a channel with a number: the
entry stays if it names that channel, and otherwise a new driver is tried, once. -/
inductive Recorded (code : Address) (place : Nat) (id : ChannelId) :
    Option Device → List (Addition ε) → Option Device → Prop
  | stays {entry : Device} (here : entry.channel = id) :
    Recorded code place id (some entry) [] (some entry)
  | renewed {before : Option Device} {outcome : Except (BusError ε) Unit} {device : Device}
      (elsewhere : ∀ entry, before = some entry → entry.channel ≠ id)
      (here : device.channel = id) (same : device.address = code) :
    Recorded code place id before [⟨code, place, outcome, device⟩]
      (Addition.entry ⟨code, place, outcome, device⟩)

theorem exists_of_marks {γ : Type} {mark : Channel β → γ} {registry : Registry β} {place : Nat}
    {value : γ} (there : (registry.marks mark)[place]? = some value) :
    ∃ channel, registry.channels[place]? = some channel ∧ mark channel = value := by
  rw [marks, List.getElem?_map] at there
  exact Option.map_eq_some_iff.mp there

namespace Enrolls

variable {before after : Registry β × ω} {seen : List (Address × Nat)}
  {additions : List (Addition ε)} {code : Address}

theorem adds (enrolls : Enrolls lines before seen additions after) :
    Adds lines before.1.channels before.2 additions after.1.channels after.2 := by
  induction enrolls with
  | none => exact .none
  | known _ _ ih => exact ih
  | unknown there _ performed _ ih =>
    rw [settle_channels] at ih
    exact .add there performed ih

/-- New drivers are made for devices that were seen. -/
theorem mem_seen (enrolls : Enrolls lines before seen additions after) :
    ∀ addition ∈ additions, (addition.code, addition.place) ∈ seen := by
  induction enrolls with
  | none => exact fun _ none => absurd none List.not_mem_nil
  | known _ _ ih => exact fun addition member => List.mem_cons_of_mem _ (ih addition member)
  | unknown _ _ _ _ ih =>
    intro addition member
    rcases List.mem_cons.mp member with rfl | later
    · exact List.mem_cons_self
    · exact List.mem_cons_of_mem _ (ih addition later)

/-- A code that is not seen. -/
theorem unseen (enrolls : Enrolls lines before seen additions after)
    (absent : seen.filter (·.1 == code) = []) :
    additions.filter (·.code == code) = [] ∧ after.1.find? code = before.1.find? code := by
  induction enrolls with
  | none => exact ⟨rfl, rfl⟩
  | @known _ _ other _ _ _ _ _ ih =>
    rw [List.filter_cons] at absent
    split at absent
    · exact absurd absent (List.cons_ne_nil _ _)
    · exact ih absent
  | @unknown _ _ _ _ _ other _ _ _ _ _ _ _ _ _ _ ih =>
    rw [List.filter_cons] at absent
    split at absent
    · exact absurd absent (List.cons_ne_nil _ _)
    · next different =>
      have apart : other ≠ code := by simpa using different
      obtain ⟨none, same⟩ := ih absent
      rw [List.filter_cons, if_neg different]
      exact ⟨none, same.trans (find?_settle_other apart _)⟩

/-- What is not seen is as it was. -/
theorem find?_unseen (enrolls : Enrolls lines before seen additions after)
    (absent : code ∉ seen.map Prod.fst) : after.1.find? code = before.1.find? code := by
  refine (enrolls.unseen (List.filter_eq_nil_iff.mpr fun sighting member same => absent ?_)).2
  exact List.mem_map.mpr ⟨sighting, member, by simpa using same⟩

/-- A code that is seen once. -/
theorem recorded (enrolls : Enrolls lines before seen additions after) {place : Nat}
    {id : ChannelId} (once : seen.filter (·.1 == code) = [(code, place)])
    (there : (before.1.marks Channel.id)[place]? = some id) :
    Recorded code place id (before.1.find? code) (additions.filter (·.code == code))
      (after.1.find? code) := by
  induction enrolls with
  | none => exact absurd once (List.cons_ne_nil _ _).symm
  | @known before after other spot rest additions registered others ih =>
    rw [List.filter_cons] at once
    split at once
    · -- The one sighting of the code: what follows does not touch its entry.
      obtain ⟨head, absent⟩ := List.cons.inj once
      obtain ⟨rfl, rfl⟩ := Prod.mk.inj head
      obtain ⟨none, same⟩ := others.unseen absent
      obtain ⟨channel, inside, rfl⟩ := exists_of_marks there
      obtain ⟨entry, known, here⟩ := registered channel inside
      rw [none, same, known]
      exact .stays here
    · exact ih once there
  | @unknown registry world reached after channel other spot outcome device line rest additions
      inside elsewhere performed others ih =>
    rw [List.filter_cons] at once
    split at once
    · obtain ⟨head, absent⟩ := List.cons.inj once
      obtain ⟨rfl, rfl⟩ := Prod.mk.inj head
      obtain ⟨none, same⟩ := others.unseen absent
      obtain ⟨channel, again, rfl⟩ := exists_of_marks there
      obtain rfl := Option.some.inj (inside.symm.trans again)
      have unread := Device.unread_setUp_ofAddress (lines channel.id) channel.id other
        (channel.line, world)
      rw [performed] at unread
      have made : device.driver.forget = .ofAddress other := congrArg Device.driver unread
      rw [same, find?_settle, List.filter_cons, if_pos (beq_self_eq_true other), none]
      exact .renewed elsewhere (congrArg Device.channel unread)
        (Driver.fits_of_forget made).address_eq
    · next different =>
      -- A driver for another code changes a line, but neither numbers nor the entry.
      have apart : other ≠ code := by simpa using different
      have numbers : (registry.channels.set spot { channel with line := line }).map Channel.id =
          registry.channels.map Channel.id := Channel.map_mark_set inside rfl
      have later := ih once (by rw [marks_settle, marks, numbers]; exact there)
      rw [find?_settle_other apart] at later
      rw [List.filter_cons, if_neg different]
      exact later

end Enrolls

/-! ### Scans -/

/-- What a scan makes of a registry, given the reports of its searches and the new drivers. -/
structure Settles (family : Option FamilyCode) (before : Registry β) (reports : List (Report β ε))
    (additions : List (Addition ε)) (outcome : Except (RegistryError ε) Unit)
    (after : Registry β) : Prop where
  /-- The scan succeeds if and only if every search did. -/
  succeeds : outcome = .ok () ↔ ∀ report ∈ reports, report.outcome = .ok ()
  /-- It fails with the first failure of a search, and the number of that channel. -/
  fails : ∀ earlier report later error, reports = earlier ++ report :: later →
    (∀ other ∈ earlier, other.outcome = .ok ()) → report.outcome = .error error →
    outcome = .error (.channel report.channel.id error)
  /-- Devices that were not looked for. -/
  others : ∀ code, ¬ Search.Seeks family code → after.find? code = before.find? code
  /-- Devices that no successful search found are kept where the search failed. -/
  kept : ∀ code entry, (∀ report ∈ reports, ¬ report.Found code) →
    before.find? code = some entry →
    (∃ report ∈ reports, report.channel.id = entry.channel ∧ report.outcome ≠ .ok ()) →
    after.find? code = some entry
  /-- They are dropped where it did not fail. -/
  dropped : ∀ code, Search.Seeks family code → (∀ report ∈ reports, ¬ report.Found code) →
    (∀ entry, before.find? code = some entry →
      ∀ report ∈ reports, report.channel.id = entry.channel → report.outcome = .ok ()) →
    after.find? code = none
  /-- New drivers are made for devices that were found. -/
  added : ∀ addition ∈ additions, ∃ report, reports[addition.place]? = some report ∧
    report.Found addition.code
  /-- Devices that were found on one channel. -/
  recorded : ∀ code place report, SeenOnly reports code place report →
    Recorded code place report.channel.id (before.find? code)
      (additions.filter (·.code == code)) (after.find? code)

/-- The registry after its searches, with the entries that stay. -/
def surviving (family : Option FamilyCode) (registry : Registry β) (reports : List (Report β ε)) :
    Registry β where
  channels := reports.map Report.searched
  devices := registry.devices.filter
    (stays family (failedChannels (reports.map Report.outcome) (reports.map Report.searched))
      (sighted reports))

theorem settles_of_enrolls {registry : Registry β} {reports : List (Report β ε)} {world : ω}
    {additions : List (Addition ε)} {after : Registry β × ω}
    (genuine : ∀ report ∈ reports, report.searched.id = report.channel.id ∧
      report.searched.found.Nodup ∧
        ∀ code ∈ report.searched.found, Search.Genuine family code)
    (enrolls : Enrolls lines (surviving family registry reports, world) (sighted reports) additions
      after) :
    Settles family registry reports additions
      (match firstFailure (reports.map Report.outcome) (reports.map Report.searched) with
        | some failure => .error failure
        | none => .ok ()) after.1 where
  succeeds := by
    rw [← firstFailure_eq_none]
    cases firstFailure (reports.map Report.outcome) (reports.map Report.searched) with
    | none => simp
    | some failure => simp
  fails earlier report later error reportsEq before failed := by
    have same := (genuine report (by rw [reportsEq]; simp)).1
    rw [reportsEq, firstFailure_split before failed, same]
  others code unsought := by
    have nowhere (report : Report β ε) (member : report ∈ reports) : ¬ report.Found code :=
      fun found => unsought ((genuine report member).2.2 code found.2).sought
    exact (enrolls.find?_unseen (unsighted nowhere)).trans (find?_staying (.inl unsought))
  kept code entry nowhere known failed := by
    obtain ⟨report, member, here, silent⟩ := failed
    have unseen := unsighted nowhere
    refine (enrolls.find?_unseen unseen).trans (find?_sparing known (mem_failedChannels.mpr ?_))
    exact ⟨report, member, (genuine report member).1.trans here, silent⟩
  dropped code seeks nowhere answered := by
    have unseen := unsighted nowhere
    refine (enrolls.find?_unseen unseen).trans (find?_dropping seeks unseen ?_)
    intro entry known failed
    obtain ⟨report, member, here, silent⟩ := mem_failedChannels.mp failed
    exact silent (answered entry known report member ((genuine report member).1.symm.trans here))
  added addition member := mem_sighted.mp (enrolls.mem_seen addition member)
  recorded code place report seen := by
    have member := List.mem_of_getElem? seen.there
    have inside : code ∈ (sighted reports).map Prod.fst :=
      mem_codes_sighted.mpr ⟨report, member, seen.found⟩
    have there : ((surviving family registry reports).marks Channel.id)[place]? =
        some report.channel.id := by
      rw [marks, surviving, List.map_map, List.getElem?_map, seen.there]
      exact congrArg some (genuine report member).1
    have settled := enrolls.recorded
      (seen.filter_sighted fun other among => (genuine other among).2.1) there
    rwa [surviving, find?_staying (.inr inside)] at settled

/-- **A scan** searches every channel, whatever comes of the searches, and settles the registry by
their reports. -/
theorem scan_settles (lines : ChannelId → Master (β × ω) ε) (family : Option FamilyCode)
    (registry : Registry β) (world : ω) :
    ∃ reports searched additions outcome after reached,
      Searches lines family registry.channels world reports searched ∧
      Adds lines (reports.map Report.searched) searched additions after.channels reached ∧
      (scan lines family).perform (registry, world) = (outcome, (after, reached)) ∧
      Settles family registry reports additions outcome after := by
  obtain ⟨reports, searched, searches, allEq⟩ :=
    exists_searches lines family registry.channels world
  obtain ⟨additions, enrolls⟩ :=
    exists_enrolls lines (sighted reports) (surviving family registry reports, searched)
  refine ⟨reports, searched, additions, _, _, _, searches, enrolls.adds, ?_,
    settles_of_enrolls searches.report enrolls⟩
  unfold scan
  rw [Action.perform_ofStep]
  dsimp only
  rw [allEq]
  rfl

end WireBridge.Registry
