/-
**Reports of searches.**

A line may do anything while it is searched, and any search may fail. What a scan makes of the
registered devices depends on the reports of the searches.

* `Registry.Report`, `Registry.Searches`: the reports of searching channels, each of which is
  searched whatever came of the others;
* `Searches.report`: every report lists genuine codes, each once;
* `Registry.mem_sightings`, `Registry.sighted`: the codes that were found, with the places of their
  channels;
* `Registry.find?_staying`, `Registry.find?_sparing`, `Registry.find?_dropping`: the entries that
  stay, and those that do not.
-/

import WireBridge.Proofs.Bus.Genuine
import WireBridge.Registry.Scan

namespace WireBridge.Registry

variable {β ω ε : Type} {lines : ChannelId → Master (β × ω) ε} {family : Option FamilyCode}

/-! ### Reports of searches -/

/-- What the search of a channel came to. -/
structure Report (β ε : Type) where
  /-- The channel before. -/
  channel : Channel β
  /-- Whether the search failed. -/
  outcome : Except (BusError ε) Unit
  /-- The channel afterwards, with the codes that were found. -/
  searched : Channel β

/-- A search that did not fail found a code. -/
def Report.Found (report : Report β ε) (code : Address) : Prop :=
  report.outcome = .ok () ∧ code ∈ report.searched.found

/-- Channels are searched in order, each of them whatever came of those before. -/
inductive Searches (lines : ChannelId → Master (β × ω) ε) (family : Option FamilyCode) :
    List (Channel β) → ω → List (Report β ε) → ω → Prop
  | none {world : ω} : Searches lines family [] world [] world
  | search {channel searched : Channel β} {outcome : Except (BusError ε) Unit}
      {rest : List (Channel β)} {reports : List (Report β ε)} {world reached last : ω}
      (performed : (Channel.discover (lines channel.id) family).perform (channel, world) =
        (outcome, (searched, reached)))
      (others : Searches lines family rest reached reports last) :
    Searches lines family (channel :: rest) world (⟨channel, outcome, searched⟩ :: reports) last

theorem exists_searches (lines : ChannelId → Master (β × ω) ε) (family : Option FamilyCode)
    (channels : List (Channel β)) (world : ω) :
    ∃ reports last, Searches lines family channels world reports last ∧
      searchAll lines family channels world =
        (reports.map Report.outcome, reports.map Report.searched, last) := by
  induction channels generalizing world with
  | nil => exact ⟨[], world, .none, rfl⟩
  | cons channel rest ih =>
    cases performed : (Channel.discover (lines channel.id) family).perform (channel, world) with
    | mk outcome state =>
      obtain ⟨searched, reached⟩ := state
      obtain ⟨reports, last, searches, allEq⟩ := ih reached
      refine ⟨_, last, .search performed searches, ?_⟩
      unfold searchAll
      rw [performed]
      dsimp only
      rw [allEq]
      rfl

/-- What every search leaves: the number of its channel, and a list of genuine codes. -/
theorem Searches.report {channels : List (Channel β)} {world last : ω}
    {reports : List (Report β ε)} (searches : Searches lines family channels world reports last) :
    ∀ report ∈ reports, report.searched.id = report.channel.id ∧ report.searched.found.Nodup ∧
      ∀ code ∈ report.searched.found, Search.Genuine family code := by
  induction searches with
  | none => exact fun _ member => absurd member List.not_mem_nil
  | @search channel searched outcome _ _ world reached _ performed _ ih =>
    intro report member
    rcases List.mem_cons.mp member with rfl | later
    · have restricted : (Search.start .normal family, (channel.line, world)).1.family = family :=
        Search.start_family .normal family
      obtain ⟨distinct, genuine⟩ := Search.passes_genuine (lines channel.id) Search.maxPasses
        restricted List.nodup_nil fun _ none => absurd none List.not_mem_nil
      have searchedEq : searched = ((Channel.discover (lines channel.id) family).perform
        (channel, world)).2.1 := by rw [performed]
      rw [searchedEq]
      exact ⟨rfl, distinct, genuine⟩
    · exact ih report later

/-! ### What the reports say -/

/-- A code is seen at the places of the searches that found it. -/
theorem mem_sightings {place seenAt : Nat} {code : Address}
    {outcomes : List (Except (BusError ε) Unit)} {channels : List (Channel β)} :
    (code, seenAt) ∈ sightings place outcomes channels ↔
      ∃ index channel, outcomes[index]? = some (.ok ()) ∧ channels[index]? = some channel ∧
        seenAt = place + index ∧ code ∈ channel.found := by
  induction channels generalizing place outcomes with
  | nil => simp [sightings]
  | cons channel rest ih =>
    cases outcomes with
    | nil => simp [sightings]
    | cons outcome outcomes =>
      have later (index : Nat) : place + 1 + index = place + (index + 1) := by omega
      have here : (code, seenAt) ∈ channel.found.map (·, place) ↔
          seenAt = place ∧ code ∈ channel.found := by
        rw [List.mem_map]
        constructor
        · rintro ⟨found, inside, same⟩
          obtain ⟨rfl, rfl⟩ := Prod.mk.inj same
          exact ⟨rfl, inside⟩
        · rintro ⟨rfl, inside⟩
          exact ⟨code, inside, rfl⟩
      constructor
      · intro member
        have cases : (outcome = .ok () ∧ (code, seenAt) ∈ channel.found.map (·, place)) ∨
            (code, seenAt) ∈ sightings (place + 1) outcomes rest := by
          cases outcome with
          | ok done => exact (List.mem_append.mp member).imp (And.intro rfl) id
          | error error => exact .inr member
        rcases cases with ⟨rfl, first⟩ | others
        · obtain ⟨seen, found⟩ := here.mp first
          exact ⟨0, channel, rfl, rfl, seen, found⟩
        · obtain ⟨index, other, succeeded, there, seen, found⟩ := ih.mp others
          exact ⟨index + 1, other, succeeded, there, seen.trans (later index), found⟩
      · rintro ⟨_ | index, other, succeeded, there, seen, found⟩
        · obtain rfl := Option.some.inj succeeded
          obtain rfl := Option.some.inj there
          exact List.mem_append_left _ (here.mpr ⟨seen, found⟩)
        · have others : (code, seenAt) ∈ sightings (place + 1) outcomes rest :=
            ih.mpr ⟨index, other, succeeded, there, seen.trans (later index).symm, found⟩
          cases outcome with
          | ok done => exact List.mem_append_right _ others
          | error error => exact others

section Reports

variable {reports : List (Report β ε)}

theorem firstFailure_eq_none :
    firstFailure (reports.map Report.outcome) (reports.map Report.searched) = none ↔
      ∀ report ∈ reports, report.outcome = .ok () := by
  induction reports with
  | nil => simp [firstFailure]
  | cons report rest ih =>
    obtain ⟨channel, outcome, searched⟩ := report
    cases outcome with
    | ok done => simpa [firstFailure] using ih
    | error error => simp [firstFailure]

theorem firstFailure_split {earlier later : List (Report β ε)} {report : Report β ε}
    {error : BusError ε} (before : ∀ other ∈ earlier, other.outcome = .ok ())
    (failed : report.outcome = .error error) :
    firstFailure ((earlier ++ report :: later).map Report.outcome)
        ((earlier ++ report :: later).map Report.searched) =
      some (.channel report.searched.id error) := by
  induction earlier with
  | nil => simp [firstFailure, failed]
  | cons first rest ih =>
    have here := before first List.mem_cons_self
    have there := ih fun other member => before other (List.mem_cons_of_mem _ member)
    simpa [firstFailure, here] using there

theorem mem_failedChannels {id : ChannelId} :
    id ∈ failedChannels (reports.map Report.outcome) (reports.map Report.searched) ↔
      ∃ report ∈ reports, report.searched.id = id ∧ report.outcome ≠ .ok () := by
  induction reports with
  | nil => simp [failedChannels]
  | cons report rest ih =>
    obtain ⟨channel, outcome, searched⟩ := report
    cases outcome with
    | ok done => simpa [failedChannels] using ih
    | error error => simp [failedChannels, ih, eq_comm]

/-- The codes that were found, with the places of their channels. -/
def sighted (reports : List (Report β ε)) : List (Address × Nat) :=
  sightings 0 (reports.map Report.outcome) (reports.map Report.searched)

theorem mem_sighted {code : Address} {place : Nat} :
    (code, place) ∈ sighted reports ↔
      ∃ report, reports[place]? = some report ∧ report.Found code := by
  unfold sighted
  rw [mem_sightings]
  constructor
  · rintro ⟨index, searched, succeeded, there, seen, found⟩
    obtain rfl : place = index := seen.trans (Nat.zero_add index)
    rw [List.getElem?_map] at succeeded there
    obtain ⟨report, here, rfl⟩ := Option.map_eq_some_iff.mp there
    rw [here] at succeeded
    exact ⟨report, here, Option.some.inj succeeded, found⟩
  · rintro ⟨report, here, succeeded, found⟩
    refine ⟨place, report.searched, ?_, ?_, (Nat.zero_add place).symm, found⟩
    · rw [List.getElem?_map, here, ← succeeded]
      rfl
    · rw [List.getElem?_map, here]
      rfl

theorem mem_codes_sighted {code : Address} :
    code ∈ (sighted reports).map Prod.fst ↔ ∃ report ∈ reports, report.Found code := by
  constructor
  · intro inside
    obtain ⟨⟨_, place⟩, member, rfl⟩ := List.mem_map.mp inside
    obtain ⟨report, there, found⟩ := mem_sighted.mp member
    exact ⟨report, List.mem_of_getElem? there, found⟩
  · rintro ⟨report, member, found⟩
    obtain ⟨place, there⟩ := List.mem_iff_getElem?.mp member
    exact List.mem_map.mpr ⟨(code, place), mem_sighted.mpr ⟨report, there, found⟩, rfl⟩

theorem unsighted {code : Address} (nowhere : ∀ report ∈ reports, ¬ report.Found code) :
    code ∉ (sighted reports).map Prod.fst := fun inside => by
  obtain ⟨report, member, found⟩ := mem_codes_sighted.mp inside
  exact nowhere report member found

/-- Where no search lists a code twice, no sighting comes twice. -/
theorem nodup_sightings (distinct : ∀ report ∈ reports, report.searched.found.Nodup) (place : Nat) :
    (sightings place (reports.map Report.outcome) (reports.map Report.searched)).Nodup := by
  induction reports generalizing place with
  | nil => exact List.nodup_nil
  | cons report rest ih =>
    have later := ih (fun other member => distinct other (List.mem_cons_of_mem _ member))
      (place + 1)
    have own := distinct report List.mem_cons_self
    obtain ⟨channel, outcome, searched⟩ := report
    cases outcome with
    | error error => exact later
    | ok done =>
      have apart : (searched.found.map (·, place)).Nodup :=
        List.pairwise_map.mpr (own.imp fun different same => different (congrArg Prod.fst same))
      -- The places of later channels are later ones.
      refine List.nodup_append.mpr ⟨apart, later, fun sighting here twin there same => ?_⟩
      obtain ⟨code, _, rfl⟩ := List.mem_map.mp here
      obtain ⟨index, _, _, _, seen, _⟩ := mem_sightings.mp (same ▸ there)
      omega

/-- A code was found by the search at one place only. -/
structure SeenOnly (reports : List (Report β ε)) (code : Address) (place : Nat)
    (report : Report β ε) : Prop where
  there : reports[place]? = some report
  found : report.Found code
  only : ∀ other twin, reports[other]? = some twin → twin.Found code → other = place

/-- Then it is sighted once. -/
theorem SeenOnly.filter_sighted {code : Address} {place : Nat} {report : Report β ε}
    (seen : SeenOnly reports code place report)
    (distinct : ∀ report ∈ reports, report.searched.found.Nodup) :
    (sighted reports).filter (·.1 == code) = [(code, place)] := by
  refine List.perm_singleton.mp ((List.perm_ext_iff_of_nodup
    ((nodup_sightings distinct 0).filter _) (List.pairwise_singleton _ _)).mpr ?_)
  rintro ⟨other, spot⟩
  rw [List.mem_filter, List.mem_singleton, Prod.mk.injEq]
  constructor
  · rintro ⟨member, same⟩
    obtain rfl : other = code := by simpa using same
    obtain ⟨twin, there, found⟩ := mem_sighted.mp member
    exact ⟨rfl, seen.only spot twin there found⟩
  · rintro ⟨rfl, rfl⟩
    exact ⟨mem_sighted.mpr ⟨report, seen.there, seen.found⟩, by simp⟩

end Reports

/-! ### Entries that stay -/

section Stays

variable {failed : List ChannelId} {seen : List (Address × Nat)} {code : Address}
  {registry : Registry β} {channels : List (Channel β)}

theorem stays_iff {device : Device} :
    stays family failed seen code device = true ↔
      ¬ Search.Seeks family code ∨ device.channel ∈ failed ∨ code ∈ seen.map Prod.fst := by
  rw [Search.seeks_iff]
  simp [stays, or_assoc]

theorem find?_filter_stays :
    (Registry.mk channels (registry.devices.filter (stays family failed seen))).find? code =
      (registry.find? code).filter (stays family failed seen code) :=
  KeyMap.find?_filter _ _ _

/-- Entries that were not looked for or were seen. -/
theorem find?_staying (stay : ¬ Search.Seeks family code ∨ code ∈ seen.map Prod.fst) :
    (Registry.mk channels (registry.devices.filter (stays family failed seen))).find? code =
      registry.find? code := by
  rw [find?_filter_stays]
  cases registry.find? code with
  | none => rfl
  | some device => exact Option.filter_some_pos (stays_iff.mpr (stay.imp id .inr))

/-- Entries whose channel failed. -/
theorem find?_sparing {entry : Device} (known : registry.find? code = some entry)
    (unknown : entry.channel ∈ failed) :
    (Registry.mk channels (registry.devices.filter (stays family failed seen))).find? code =
      some entry := by
  rw [find?_filter_stays, known]
  exact Option.filter_some_pos (stays_iff.mpr (.inr (.inl unknown)))

/-- Entries that were looked for and not seen, while their channel did not fail. -/
theorem find?_dropping (seeks : Search.Seeks family code) (unseen : code ∉ seen.map Prod.fst)
    (answered : ∀ entry, registry.find? code = some entry → entry.channel ∉ failed) :
    (Registry.mk channels (registry.devices.filter (stays family failed seen))).find? code =
      none := by
  rw [find?_filter_stays, Option.filter_eq_none_iff]
  intro entry known stay
  rcases stays_iff.mp stay with unsought | unknown | inside
  · exact unsought seeks
  · exact answered entry known unknown
  · exact unseen inside

end Stays

end WireBridge.Registry
