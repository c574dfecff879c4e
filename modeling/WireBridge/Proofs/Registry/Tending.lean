/-
**Registries whose entries are of one kind.**

* `Registry.Tended`: the channels have given marks, and all entries are of some kind;
* `Registry.Admits`: new entries are of that kind, as far as their codes are genuine;
* `Registry.Admits.scan`, `Registry.Admits.locate`: then looking for devices keeps a registry
  tended;
* `Registry.tended_onChannel`, `Registry.tended_onDevice`: so do actions on lines.
-/

import WireBridge.Proofs.Device.Drivers
import WireBridge.Proofs.Registry.Marking
import WireBridge.Proofs.Registry.Reports

namespace WireBridge

open WireBridge.Action (Keeps)

/-- A device that was added has a driver that was made for its code. -/
theorem Channel.unread_addDevice {β ω ε : Type} {master : Master (β × ω) ε} {code : Address}
    {state : Channel β × ω} {entry : Device}
    (added : (addDevice master code state).1 = some entry) :
    entry.unread = .ofAddress state.1.id code := by
  obtain ⟨channel, world⟩ := state
  have unread := Device.unread_setUp_ofAddress master channel.id code (channel.line, world)
  unfold addDevice at added
  dsimp only at added
  generalize (Device.setUp master).perform
    (Device.ofAddress channel.id code, (channel.line, world)) = performed at unread added
  obtain ⟨error | done, reached, after⟩ := performed
  · exact absurd added (Option.some_ne_none _).symm
  · exact Option.some.inj added ▸ unread

namespace Registry

variable {β ω ε α γ : Type} {lines : ChannelId → Master (β × ω) ε} {mark : Channel β → γ}
  {values : List γ} {good : Address → Device → Prop}

/-- The channels have some marks, and all entries are of some kind. -/
structure Tended (mark : Channel β → γ) (values : List γ) (good : Address → Device → Prop)
    (registry : Registry β) : Prop where
  marks : registry.marks mark = values
  good : ∀ code entry, registry.find? code = some entry → good code entry

theorem tended_ofChannels (channels : List (Channel β)) :
    Tended mark (channels.map mark) good (ofChannels channels) :=
  ⟨rfl, fun _ _ found => absurd found (by simp [find?, ofChannels])⟩

namespace Tended

variable {registry : Registry β} (tended : registry.Tended mark values good)

include tended

theorem settle {code : Address} {added : Option Device}
    (fits : ∀ entry, added = some entry → good code entry) :
    (registry.settle code added).Tended mark values good := by
  refine ⟨(marks_settle registry code added).trans tended.marks, fun other known found => ?_⟩
  by_cases same : code = other
  · subst same
    rw [find?_settle] at found
    exact fits known found
  · rw [find?_settle_other same] at found
    exact tended.good other known found

theorem store {code : Address} {entry : Device} (fits : good code entry) :
    (registry.store code entry).Tended mark values good := by
  show (registry.settle code (some entry)).Tended mark values good
  exact tended.settle fun other same => Option.some.inj same ▸ fits

theorem drop (code : Address) : (registry.drop code).Tended mark values good := by
  show (registry.settle code none).Tended mark values good
  exact tended.settle fun _ none => absurd none (Option.some_ne_none _).symm

/-- The lines change, and entries are left out. -/
theorem of_channels {channels : List (Channel β)} (same : channels.map mark = values)
    {devices : KeyMap Address Device}
    (fewer : ∀ code entry, devices.find? code = some entry → registry.find? code = some entry) :
    (⟨channels, devices⟩ : Registry β).Tended mark values good :=
  ⟨same, fun code entry found => tended.good code entry (fewer code entry found)⟩

theorem mem_marks {place : Nat} {channel : Channel β}
    (there : registry.channels[place]? = some channel) : mark channel ∈ values := by
  rw [← tended.marks]
  exact List.mem_map.mpr ⟨channel, List.mem_of_getElem? there, rfl⟩

end Tended

/-! ### Actions on lines -/

/-- An action that leaves the mark of a channel whatever its line is like. -/
theorem tended_onChannel {action : Action (β × ω) (BusError ε) α}
    (same : ∀ (channel : Channel β) world,
      mark { channel with line := (action.perform (channel.line, world)).2.1 } = mark channel)
    (id : ChannelId) :
    Keeps (fun state : Registry β × ω => state.1.Tended mark values good)
      (onChannel id action) := by
  refine Action.keeps_iff.mpr ?_
  rintro ⟨registry, world⟩ tended
  have marks := (marks_onChannel same id (registry, world)).trans tended.marks
  cases found : registry.place? id with
  | none =>
    rw [onChannel_unknown found]
    exact tended
  | some place =>
    obtain ⟨channel, there, _⟩ := exists_of_place found
    rw [onChannel_perform found there] at marks ⊢
    exact tended.of_channels marks fun _ _ found => found

/-- **The actions of a device** that stays of its kind. -/
theorem tended_onDevice {code : Address} {device : Device}
    {action : Master (β × ω) ε → Action (Device × (β × ω)) (BusError ε) α}
    (same : ∀ (channel : Channel β) world,
      mark { channel with
        line := ((action (lines device.channel)).perform (device, (channel.line, world))).2.2.1 } =
          mark channel)
    (stored : ∀ line,
      good code ((action (lines device.channel)).perform (device, line)).2.1) :
    Keeps (fun state : Registry β × ω => state.1.Tended mark values good)
      (onDevice lines code device action) := by
  refine Action.keeps_iff.mpr ?_
  rintro ⟨registry, world⟩ tended
  have marks : ((onDevice lines code device action).perform (registry, world)).2.1.marks mark =
      values := (marks_onDevice same (registry, world)).trans tended.marks
  cases found : registry.place? device.channel with
  | none =>
    rw [onDevice_unknown found]
    exact tended
  | some place =>
    obtain ⟨channel, there, _⟩ := exists_of_place found
    rw [onDevice_perform found there] at marks ⊢
    exact (tended.of_channels marks fun _ _ found => found).store (stored (channel.line, world))

/-! ### Looking for devices -/

/-- What is added for a genuine code, on a channel with one of the marks, is of the kind. -/
structure Admits (lines : ChannelId → Master (β × ω) ε) (mark : Channel β → γ) (values : List γ)
    (good : Address → Device → Prop) : Prop where
  marked : Channel.Marked lines mark
  added : ∀ id code entry (state : Channel β × ω), Search.Genuine none code →
    mark state.1 ∈ values → (Channel.addDevice (lines id) code state).1 = some entry →
    good code entry

namespace Admits

variable (admits : Admits lines mark values good)

include admits

theorem enroll {state : Registry β × ω} (tended : state.1.Tended mark values good)
    {sighting : Address × Nat} (genuine : Search.Genuine none sighting.1) :
    (Registry.enroll lines state sighting).1.Tended mark values good := by
  have marks := (marks_enroll admits.marked state sighting).trans tended.marks
  obtain ⟨registry, world⟩ := state
  unfold Registry.enroll at marks ⊢
  dsimp only at marks ⊢
  split at marks
  · exact tended
  · next channel there =>
    split at marks
    · next registered =>
      rw [if_pos registered]
      exact tended
    · next elsewhere =>
      rw [if_neg elsewhere]
      simp only [atPlace, there] at marks ⊢
      rw [marks_settle] at marks
      refine (tended.of_channels marks fun _ _ found => found).settle fun entry added => ?_
      exact admits.added _ _ entry (channel, world) genuine (tended.mem_marks there) added

theorem foldl_enroll {seen : List (Address × Nat)} {state : Registry β × ω}
    (tended : state.1.Tended mark values good)
    (genuine : ∀ sighting ∈ seen, Search.Genuine none sighting.1) :
    (seen.foldl (Registry.enroll lines) state).1.Tended mark values good := by
  induction seen generalizing state with
  | nil => exact tended
  | cons sighting rest ih =>
    exact ih (admits.enroll tended (genuine sighting List.mem_cons_self))
      fun other member => genuine other (List.mem_cons_of_mem _ member)

/-- **A scan** keeps a registry tended. -/
theorem scan (family : Option FamilyCode) :
    Keeps (fun state => state.1.Tended mark values good) (Registry.scan lines family) := by
  refine Action.keeps_iff.mpr ?_
  rintro ⟨registry, world⟩ tended
  have marks := map_mark_searchAll admits.marked family registry.channels world
  obtain ⟨reports, last, searches, allEq⟩ := exists_searches lines family registry.channels world
  unfold Registry.scan
  rw [Action.perform_ofStep]
  dsimp only
  rw [allEq] at marks ⊢
  refine admits.foldl_enroll (tended.of_channels (marks.trans tended.marks) ?_) ?_
  · intro code entry found
    rw [KeyMap.find?_filter, Option.filter_eq_some_iff] at found
    exact found.1
  · rintro ⟨code, place⟩ member
    obtain ⟨report, there, _, found⟩ := mem_sighted.mp member
    exact ((searches.report report (List.mem_of_getElem? there)).2.2 code found).weaken

theorem inquire {code : Address} {channels : List (Channel β)} {world : ω}
    (members : ∀ channel ∈ channels, mark channel ∈ values) {id : ChannelId} {entry : Device}
    (answer : (Registry.inquire lines code channels world).1.answer = some (id, some entry)) :
    good code entry := by
  induction channels generalizing world with
  | nil => exact absurd answer (Option.some_ne_none _).symm
  | cons channel rest ih =>
    have asked := admits.marked.present channel.id code (channel, world)
    have later := fun other member => members other (List.mem_cons_of_mem _ member)
    unfold Registry.inquire at answer
    dsimp only at answer
    split at answer
    · next present performed =>
      -- This channel has the device, and it answered with a code that passed every check.
      have answered := congrArg Prod.fst performed
      rw [performed] at asked
      have genuine : Search.Genuine none code := Search.present_genuine (Prod.ext answered rfl)
      have within : mark present.1 ∈ values := by
        rw [asked]
        exact members channel List.mem_cons_self
      exact admits.added _ code entry present genuine within
        (Prod.mk.inj (Option.some.inj answer)).2
    · exact ih later answer
    · exact ih later answer

/-- **Looking for one device** keeps a registry tended. -/
theorem locate (code : Address) :
    Keeps (fun state => state.1.Tended mark values good) (Registry.locate lines code) := by
  refine Action.keeps_iff.mpr ?_
  rintro ⟨registry, world⟩ tended
  have members (channel : Channel β) (there : channel ∈ registry.channels) :
      mark channel ∈ values := by
    rw [← tended.marks]
    exact List.mem_map.mpr ⟨channel, there, rfl⟩
  have marks := (map_mark_inquire admits.marked code registry.channels world).trans tended.marks
  have asked := tended.of_channels marks fun _ _ found => found
  unfold Registry.locate
  rw [Action.perform_ofStep]
  dsimp only
  split
  · next other added answer =>
    refine asked.settle fun entry found => ?_
    rw [found] at answer
    exact admits.inquire members answer
  · exact asked.drop code
  · exact asked.drop code

end Admits

end Registry

end WireBridge
