/-
**What looking for devices leaves of a registry.**

* `Registry.find?_settle`, `Registry.enroll_other`: settling a device concerns its code only, and so
  does a sighting;
* `Channel.Marked`: a mark of channels that looking for devices does not change, such as their
  numbers (`Channel.marked_id`);
* `Registry.marks`: the marks of the channels, in order. Looking for devices does not change them
  (`Registry.marks_scan`, `Registry.marks_locate`), nor do actions on lines that leave each mark
  (`Registry.marks_onChannel`, `Registry.marks_onDevice`).
-/

import WireBridge.Proofs.Registry.Lines
import WireBridge.Registry.Scan

namespace WireBridge

variable {β ω ε α γ : Type} {lines : ChannelId → Master (β × ω) ε}

/-! ### Marks of channels -/

namespace Channel

/-- Looking for devices does not change the mark of a channel. -/
structure Marked (lines : ChannelId → Master (β × ω) ε) (mark : Channel β → γ) : Prop where
  addDevice : ∀ id code (state : Channel β × ω),
    mark (Channel.addDevice (lines id) code state).2.1 = mark state.1
  discover : ∀ id family (state : Channel β × ω),
    mark ((Channel.discover (lines id) family).perform state).2.1 = mark state.1
  present : ∀ id code (state : Channel β × ω),
    mark ((onLine (Search.present (lines id) code)).perform state).2.1 = mark state.1

/-- Channels keep their numbers. -/
theorem marked_id : Marked lines Channel.id :=
  ⟨fun _ _ _ => rfl, fun _ _ _ => rfl, fun _ _ _ => rfl⟩

/-- A changed channel at its place. -/
theorem map_mark_set {mark : Channel β → γ} {channels : List (Channel β)} {place : Nat}
    {channel changed : Channel β} (there : channels[place]? = some channel)
    (same : mark changed = mark channel) :
    (channels.set place changed).map mark = channels.map mark := by
  refine List.ext_getElem? fun index => ?_
  rw [List.getElem?_map, List.getElem?_map, List.getElem?_set]
  by_cases here : place = index
  · have inside : place < channels.length := (List.getElem?_eq_some_iff.mp there).1
    rw [← here, there]
    simp [inside, same]
  · rw [if_neg here]

end Channel

open Channel (Marked)

namespace Registry

/-! ### One entry -/

theorem settle_channels (registry : Registry β) (code : Address) (added : Option Device) :
    (registry.settle code added).channels = registry.channels := by
  cases added <;> rfl

theorem find?_settle (registry : Registry β) (code : Address) (added : Option Device) :
    (registry.settle code added).find? code = added := by
  cases added with
  | none => exact (KeyMap.find?_erase _ _ _).trans (if_pos rfl)
  | some device => exact (KeyMap.find?_insert _ _ _ _).trans (if_pos rfl)

theorem find?_settle_other {registry : Registry β} {code other : Address}
    (different : code ≠ other) (added : Option Device) :
    (registry.settle code added).find? other = registry.find? other := by
  cases added with
  | none => exact (KeyMap.find?_erase _ _ _).trans (if_neg different)
  | some device => exact (KeyMap.find?_insert _ _ _ _).trans (if_neg different)

/-- A sighting concerns one code only. -/
theorem enroll_other {sighting : Address × Nat} {other : Address} (different : sighting.1 ≠ other)
    (state : Registry β × ω) :
    (enroll lines state sighting).1.find? other = state.1.find? other := by
  unfold enroll
  dsimp only
  split
  · rfl
  · next channel there =>
    split
    · rfl
    · simp only [atPlace, there]
      exact find?_settle_other different _

/-- A code that is not seen. -/
theorem foldl_enroll_unseen {seen : List (Address × Nat)} {code : Address}
    (unseen : code ∉ seen.map Prod.fst) (state : Registry β × ω) :
    (seen.foldl (enroll lines) state).1.find? code = state.1.find? code := by
  induction seen generalizing state with
  | nil => rfl
  | cons sighting rest ih =>
    rw [List.map_cons, List.mem_cons, not_or] at unseen
    rw [List.foldl_cons, ih unseen.2]
    exact enroll_other (Ne.symm unseen.1) state

/-! ### The marks of a registry -/

/-- The marks of the channels, in order. -/
def marks (mark : Channel β → γ) (registry : Registry β) : List γ := registry.channels.map mark

variable {mark : Channel β → γ}

theorem marks_settle (registry : Registry β) (code : Address) (added : Option Device) :
    (registry.settle code added).marks mark = registry.marks mark := by
  rw [marks, settle_channels, marks]

/-- An action that leaves the mark of a channel whatever its line is like. -/
theorem marks_onChannel {action : Action (β × ω) (BusError ε) α}
    (same : ∀ (channel : Channel β) world,
      mark { channel with line := (action.perform (channel.line, world)).2.1 } = mark channel)
    (id : ChannelId) (state : Registry β × ω) :
    ((onChannel id action).perform state).2.1.marks mark = state.1.marks mark := by
  obtain ⟨registry, world⟩ := state
  cases found : registry.place? id with
  | none => rw [onChannel_unknown found]
  | some place =>
    obtain ⟨channel, there, _⟩ := exists_of_place found
    rw [onChannel_perform found there]
    exact Channel.map_mark_set there (same channel world)

theorem marks_onDevice {code : Address} {device : Device}
    {action : Master (β × ω) ε → Action (Device × (β × ω)) (BusError ε) α}
    (same : ∀ (channel : Channel β) world,
      mark { channel with
        line := ((action (lines device.channel)).perform (device, (channel.line, world))).2.2.1 } =
          mark channel) (state : Registry β × ω) :
    ((onDevice lines code device action).perform state).2.1.marks mark = state.1.marks mark := by
  obtain ⟨registry, world⟩ := state
  cases found : registry.place? device.channel with
  | none => rw [onDevice_unknown found]
  | some place =>
    obtain ⟨channel, there, _⟩ := exists_of_place found
    rw [onDevice_perform found there]
    exact Channel.map_mark_set there (same channel world)

/-! ### Looking for devices -/

variable (marked : Marked lines mark)

include marked

theorem map_mark_searchAll (family : Option FamilyCode) (channels : List (Channel β)) (world : ω) :
    (searchAll lines family channels world).2.1.map mark = channels.map mark := by
  induction channels generalizing world with
  | nil => rfl
  | cons channel rest ih =>
    have first := marked.discover channel.id family (channel, world)
    unfold searchAll
    dsimp only
    rw [List.map_cons, List.map_cons, first, ih]

theorem marks_enroll (state : Registry β × ω) (sighting : Address × Nat) :
    (enroll lines state sighting).1.marks mark = state.1.marks mark := by
  unfold enroll
  dsimp only
  split
  · rfl
  · next channel there =>
    split
    · rfl
    · rw [marks_settle]
      simp only [atPlace, there]
      exact Channel.map_mark_set there (marked.addDevice _ sighting.1 (channel, state.2))

theorem marks_foldl_enroll (seen : List (Address × Nat)) (state : Registry β × ω) :
    (seen.foldl (enroll lines) state).1.marks mark = state.1.marks mark := by
  induction seen generalizing state with
  | nil => rfl
  | cons sighting rest ih => rw [List.foldl_cons, ih, marks_enroll marked]

/-- **A scan** leaves the marks. -/
theorem marks_scan (family : Option FamilyCode) (state : Registry β × ω) :
    ((scan lines family).perform state).2.1.marks mark = state.1.marks mark := by
  unfold scan
  rw [Action.perform_ofStep]
  exact (marks_foldl_enroll marked _ _).trans
    (map_mark_searchAll marked family state.1.channels state.2)

theorem map_mark_inquire (code : Address) (channels : List (Channel β)) (world : ω) :
    (inquire lines code channels world).1.channels.map mark = channels.map mark := by
  induction channels generalizing world with
  | nil => rfl
  | cons channel rest ih =>
    have asked := marked.present channel.id code (channel, world)
    unfold inquire
    dsimp only
    generalize (Channel.onLine (Search.present (lines channel.id) code)).perform (channel, world) =
      performed at asked ⊢
    obtain ⟨error | found, here, reached⟩ := performed
    · exact List.cons_eq_cons.mpr ⟨asked, ih reached⟩
    · cases found with
      | false => exact List.cons_eq_cons.mpr ⟨asked, ih reached⟩
      | true =>
        have added := marked.addDevice channel.id code (here, reached)
        exact List.cons_eq_cons.mpr ⟨added.trans asked, rfl⟩

/-- **Looking for one device** leaves the marks. -/
theorem marks_locate (code : Address) (state : Registry β × ω) :
    ((locate lines code).perform state).2.1.marks mark = state.1.marks mark := by
  have asked := map_mark_inquire marked code state.1.channels state.2
  unfold locate
  rw [Action.perform_ofStep]
  dsimp only
  split
  · rw [marks_settle]
    exact asked
  · exact asked
  · exact asked

end Registry

end WireBridge
