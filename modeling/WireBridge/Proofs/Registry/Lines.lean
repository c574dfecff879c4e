/-
**Actions on the lines of a registry.**

* `Registry.exists_of_place`: the first channel with a number is there and has it;
* `Registry.onChannel_perform`, `Registry.onDevice_perform`: an action changes the line of that
  channel, and the driver of its device; without such a channel nothing changes
  (`Registry.onChannel_unknown`, `Registry.onDevice_unknown`);
* `Registry.onChannel_ok`, `Registry.onDevice_ok`: what is yielded comes from the line;
* `Registry.mem_ofFamily`: the registered devices of a family;
* `Registry.mem_hosting`, `Registry.hosting_ascending`: the channels of these devices, in ascending
  order and each of them once.
-/

import WireBridge.Registry.Basic
import WireBridge.Proofs.Action

namespace WireBridge.Registry

variable {β ω ε α : Type} {lines : ChannelId → Master (β × ω) ε}

/-- The registered devices of a family. -/
theorem mem_ofFamily {registry : Registry β} {family : FamilyCode} {code : Address}
    {device : Device} :
    (code, device) ∈ (registry.ofFamily family).entries ↔
      registry.find? code = some device ∧ code.family = family := by
  rw [KeyMap.mem_entries_iff, ofFamily, KeyMap.find?_filter, Option.filter_eq_some_iff,
    beq_iff_eq]
  rfl

/-! ### Channels of a family -/

/-- What is left after repetitions are left out is what was there before. -/
theorem mem_eraseReps_loop {id kept : ChannelId} {rest done : List ChannelId} :
    id ∈ List.eraseRepsBy.loop (· == ·) kept rest done ↔ id ∈ done ∨ id ∈ kept :: rest := by
  induction rest generalizing kept done with
  | nil => simp [List.eraseRepsBy.loop, or_comm]
  | cons next rest ih =>
    unfold List.eraseRepsBy.loop
    split
    · next same =>
      obtain rfl := eq_of_beq same
      simp [ih]
    · rw [ih, List.mem_cons, or_assoc, or_left_comm, ← List.mem_cons]

/-- Numbers that do not descend ascend once repetitions are left out. -/
theorem pairwise_eraseReps_loop {kept : ChannelId} {rest done : List ChannelId}
    (above : (kept :: done).Pairwise (· > ·)) (ordered : (kept :: rest).Pairwise (· ≤ ·)) :
    (List.eraseRepsBy.loop (· == ·) kept rest done).Pairwise (· < ·) := by
  induction rest generalizing kept done with
  | nil =>
    unfold List.eraseRepsBy.loop
    exact List.pairwise_reverse.mpr above
  | cons next rest ih =>
    obtain ⟨least, later⟩ := List.pairwise_cons.mp ordered
    unfold List.eraseRepsBy.loop
    split
    · next same =>
      obtain rfl := eq_of_beq same
      exact ih above later
    · next different =>
      have here : kept < next := by
        have below := least next List.mem_cons_self
        refine UInt8.lt_of_le_of_ne below fun same => ?_
        exact absurd (beq_iff_eq.mpr same) (by simpa using different)
      refine ih (List.pairwise_cons.mpr ⟨fun before member => ?_, above⟩) later
      rcases List.mem_cons.mp member with rfl | earlier
      · exact here
      · exact UInt8.lt_trans ((List.pairwise_cons.mp above).1 before earlier) here

section Hosting

variable {registry : Registry β} {family : FamilyCode}

/-- The channels of the registered devices of a family. -/
theorem mem_hosting {id : ChannelId} :
    id ∈ registry.hosting family ↔
      ∃ code device, registry.find? code = some device ∧ code.family = family ∧
        device.channel = id := by
  have listed : id ∈ registry.hosting family ↔
      id ∈ (registry.ofFamily family).entries.map fun entry => entry.2.channel := by
    unfold hosting
    dsimp only
    rw [← (List.mergeSort_perm
      ((registry.ofFamily family).entries.map fun entry => entry.2.channel)
      fun first second => decide (first.toNat ≤ second.toNat)).mem_iff]
    generalize List.mergeSort _ _ = ids
    cases ids with
    | nil => rfl
    | cons first rest => exact mem_eraseReps_loop.trans (or_iff_right List.not_mem_nil)
  rw [listed, List.mem_map]
  constructor
  · rintro ⟨⟨code, device⟩, member, rfl⟩
    obtain ⟨found, own⟩ := mem_ofFamily.mp member
    exact ⟨code, device, found, own, rfl⟩
  · rintro ⟨code, device, found, own, rfl⟩
    exact ⟨(code, device), mem_ofFamily.mpr ⟨found, own⟩, rfl⟩

/-- They ascend, so each of them comes once. -/
theorem hosting_ascending : (registry.hosting family).Pairwise (· < ·) := by
  have transitive (first second third : ChannelId)
      (one : decide (first.toNat ≤ second.toNat) = true)
      (other : decide (second.toNat ≤ third.toNat) = true) :
      decide (first.toNat ≤ third.toNat) = true :=
    decide_eq_true (Nat.le_trans (of_decide_eq_true one) (of_decide_eq_true other))
  have total (first second : ChannelId) :
      (decide (first.toNat ≤ second.toNat) || decide (second.toNat ≤ first.toNat)) = true := by
    simpa using Nat.le_total first.toNat second.toNat
  have sorted := List.pairwise_mergeSort transitive total
    ((registry.ofFamily family).entries.map fun entry => entry.2.channel)
  unfold hosting
  dsimp only
  generalize List.mergeSort _ _ = ids at sorted ⊢
  cases ids with
  | nil => exact .nil
  | cons first rest =>
    refine pairwise_eraseReps_loop (List.pairwise_singleton _ _) (sorted.imp ?_)
    exact fun below => UInt8.le_iff_toNat_le.mpr (of_decide_eq_true below)

end Hosting

/-! ### Actions -/

theorem exists_of_place {registry : Registry β} {id : ChannelId} {place : Nat}
    (found : registry.place? id = some place) :
    ∃ channel, registry.channels[place]? = some channel ∧ channel.id = id := by
  obtain ⟨inside, same, _⟩ := List.findIdx?_eq_some_iff_getElem.mp found
  exact ⟨registry.channels[place], List.getElem?_eq_getElem inside, by simpa using same⟩

theorem onChannel_unknown {registry : Registry β} {id : ChannelId}
    (unknown : registry.place? id = none) (world : ω) (action : Action (β × ω) (BusError ε) α) :
    (onChannel id action).perform (registry, world) =
      (.error (.unknownChannel id), (registry, world)) := by
  simp only [onChannel, Action.perform_ofStep, unknown]

/-- An action on a channel changes its line. -/
theorem onChannel_perform {registry : Registry β} {id : ChannelId} {place : Nat}
    {channel : Channel β} (found : registry.place? id = some place)
    (there : registry.channels[place]? = some channel) (world : ω)
    (action : Action (β × ω) (BusError ε) α) :
    (onChannel id action).perform (registry, world) =
      ((action.perform (channel.line, world)).1.mapError (.channel id),
        ({ registry with
            channels := registry.channels.set place
              { channel with line := (action.perform (channel.line, world)).2.1 } },
          (action.perform (channel.line, world)).2.2)) := by
  simp only [onChannel, Action.perform_ofStep, found, atPlace, there, Channel.onLine,
    Action.perform_mapError]

theorem onDevice_unknown {registry : Registry β} {device : Device}
    (unknown : registry.place? device.channel = none) (world : ω) (code : Address)
    (action : Master (β × ω) ε → Action (Device × (β × ω)) (BusError ε) α) :
    (onDevice lines code device action).perform (registry, world) =
      (.error (.unknownChannel device.channel), (registry, world)) := by
  unfold onDevice
  rw [Action.perform_bind, onChannel_unknown unknown]

/-- An action of a device changes the line of its channel and its driver. -/
theorem onDevice_perform {registry : Registry β} {device : Device} {place : Nat}
    {channel : Channel β} (found : registry.place? device.channel = some place)
    (there : registry.channels[place]? = some channel) (world : ω) (code : Address)
    (action : Master (β × ω) ε → Action (Device × (β × ω)) (BusError ε) α) :
    (onDevice lines code device action).perform (registry, world) =
      let result := (action (lines device.channel)).perform (device, (channel.line, world))
      (result.1.mapError (.channel device.channel),
        (({ registry with
            channels := registry.channels.set place { channel with line := result.2.2.1 } } :
            Registry β).store code result.2.1,
          result.2.2.2)) := by
  unfold onDevice
  rw [Action.perform_bind, onChannel_perform found there]
  simp only [Action.perform_ofStep, Action.perform_bind, Action.perform_update,
    Action.perform_ofExcept]
  rfl

theorem onChannel_ok {id : ChannelId} {action : Action (β × ω) (BusError ε) α}
    {state after : Registry β × ω} {value : α}
    (ran : (onChannel id action).perform state = (.ok value, after)) :
    ∃ line reached, action.perform line = (.ok value, reached) := by
  obtain ⟨registry, world⟩ := state
  cases found : registry.place? id with
  | none =>
    rw [onChannel_unknown found] at ran
    exact absurd (congrArg Prod.fst ran) (by simp)
  | some place =>
    obtain ⟨channel, there, _⟩ := exists_of_place found
    rw [onChannel_perform found there] at ran
    exact ⟨(channel.line, world), (action.perform (channel.line, world)).2,
      Prod.ext (Action.ok_of_mapError (congrArg Prod.fst ran)) rfl⟩

theorem onDevice_ok {code : Address} {device : Device}
    {action : Master (β × ω) ε → Action (Device × (β × ω)) (BusError ε) α}
    {state after : Registry β × ω} {value : α}
    (ran : (onDevice lines code device action).perform state = (.ok value, after)) :
    ∃ line reached, (action (lines device.channel)).perform (device, line) =
      (.ok value, reached) := by
  obtain ⟨registry, world⟩ := state
  cases found : registry.place? device.channel with
  | none =>
    rw [onDevice_unknown found] at ran
    exact absurd (congrArg Prod.fst ran) (by simp)
  | some place =>
    obtain ⟨channel, there, _⟩ := exists_of_place found
    rw [onDevice_perform found there] at ran
    exact ⟨(channel.line, world), _,
      Prod.ext (Action.ok_of_mapError (congrArg Prod.fst ran)) rfl⟩

end WireBridge.Registry
