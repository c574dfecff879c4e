/-
**Subscriptions as one table.**

A subscription is for a device or for a family, each with a quantity. By such keys the subscriptions
of a bridge are one table, in which the last write wins.

* `SubscriptionKey`, `Command.key?`: the keys, and the key that a command names;
* `Subscriptions.find?`, `Subscriptions.insert`, `Subscriptions.erase`: the table, with
  `Subscriptions.find?_insert` and `Subscriptions.find?_erase` as its laws;
* `Subscriptions.subscribe_eq`, `Subscriptions.unsubscribe_eq`: what the two verbs do to the table;
* `Subscriptions.find?_advance`, `Subscriptions.mem_due`: what a turn makes of it.
-/

import WireBridge.Schedule.Subscription

namespace WireBridge

/-! ### Keys -/

/-- What a subscription is for: a quantity of a device or of a family. -/
abbrev SubscriptionKey := (Address × Quantity) ⊕ (FamilyCode × Quantity)

namespace Command

variable {command : Command} {key : SubscriptionKey}

/-- The key that a command names. -/
def key? (command : Command) : Option SubscriptionKey :=
  match command.quantity, command.device, command.family with
  | some quantity, some address, none => some (.inl (address, quantity))
  | some quantity, none, some family => some (.inr (family, quantity))
  | _, _, _ => none

/-- A command that names a key names either a device or a family. -/
theorem key_cases (named : command.key? = some key) :
    (∃ address quantity, key = .inl (address, quantity) ∧ command.quantity = some quantity ∧
      command.device = some address ∧ command.family = none) ∨
    ∃ family quantity, key = .inr (family, quantity) ∧ command.quantity = some quantity ∧
      command.device = none ∧ command.family = some family := by
  unfold key? at named
  split at named
  · next quantity address measured device family =>
    exact .inl ⟨address, quantity, (Option.some.inj named).symm, measured, device, family⟩
  · next quantity code measured device family =>
    exact .inr ⟨code, quantity, (Option.some.inj named).symm, measured, device, family⟩
  · exact absurd named (Option.some_ne_none _).symm

theorem exists_key {quantity : Quantity} (measured : command.quantity = some quantity)
    (selects : command.selects = true)
    (one : (command.device.isSome && command.family.isSome) = false) :
    ∃ key, command.key? = some key := by
  unfold key?
  rw [measured]
  cases device : command.device with
  | some address =>
    cases family : command.family with
    | none => exact ⟨_, rfl⟩
    | some code => simp [device, family] at one
  | none =>
    cases family : command.family with
    | none => simp [Command.selects, device, family] at selects
    | some code => exact ⟨_, rfl⟩

/-- **What a checked command has.** -/
theorem check_eq_ok_iff : command.check = .ok () ↔
    (command.device.isSome && command.family.isSome) = false ∧
      (command.verb ≠ .restart → command.verb ≠ .scan →
        command.quantity.isSome = true ∧ command.selects = true) ∧
      (command.verb = .subscribe → command.interval.isSome = true) := by
  have measured (absent : CommandError) (complete : Bool) :
      check.measured command absent complete = .ok () ↔
        complete = true ∧ command.selects = true := by
    unfold check.measured
    cases complete <;> cases command.selects <;> simp
  unfold check
  cases both : command.device.isSome && command.family.isSome with
  | true => simp
  | false => cases verb : command.verb <;> simp [measured, and_right_comm]

/-- A checked command about a quantity names a key. -/
theorem key_of_check (checked : command.check = .ok ()) (running : command.verb ≠ .restart)
    (measuring : command.verb ≠ .scan) : ∃ key, command.key? = some key := by
  obtain ⟨one, measured, _⟩ := check_eq_ok_iff.mp checked
  obtain ⟨given, selects⟩ := measured running measuring
  obtain ⟨quantity, quantityEq⟩ := Option.isSome_iff_exists.mp given
  exact exists_key quantityEq selects one

/-- A checked command about a subscription names a key, and a new one has a period. -/
theorem of_check (checked : command.check = .ok ()) :
    (command.verb = .subscribe ∨ command.verb = .unsubscribe →
      ∃ key, command.key? = some key) ∧
    (command.verb = .subscribe → ∃ interval, command.interval = some interval) := by
  refine ⟨fun about => key_of_check checked ?_ ?_, fun subscribes => ?_⟩
  · rcases about with verb | verb <;> rw [verb] <;> exact Verb.noConfusion
  · rcases about with verb | verb <;> rw [verb] <;> exact Verb.noConfusion
  · exact Option.isSome_iff_exists.mp ((check_eq_ok_iff.mp checked).2.2 subscribes)

end Command

namespace Subscriptions

variable {subscriptions : Subscriptions} {command : Command} {key : SubscriptionKey}

/-! ### The table -/

/-- What is stored under a key. -/
def find? (subscriptions : Subscriptions) : SubscriptionKey → Option Subscription
  | .inl key => subscriptions.byDevice.find? key
  | .inr key => subscriptions.byFamily.find? key

/-- Store a subscription under a key. -/
def insert (subscriptions : Subscriptions) (entry : Subscription) :
    SubscriptionKey → Subscriptions
  | .inl key => { subscriptions with byDevice := subscriptions.byDevice.insert key entry }
  | .inr key => { subscriptions with byFamily := subscriptions.byFamily.insert key entry }

/-- Remove a key. -/
def erase (subscriptions : Subscriptions) : SubscriptionKey → Subscriptions
  | .inl key => { subscriptions with byDevice := subscriptions.byDevice.erase key }
  | .inr key => { subscriptions with byFamily := subscriptions.byFamily.erase key }

@[simp] theorem find?_empty (key : SubscriptionKey) : empty.find? key = none := by
  cases key <;> rfl

/-- The last write wins, and no other key is touched. -/
theorem find?_insert (subscriptions : Subscriptions) (entry : Subscription)
    (key other : SubscriptionKey) :
    (subscriptions.insert entry key).find? other =
      if key = other then some entry else subscriptions.find? other := by
  cases key <;> cases other <;> simp [insert, find?, KeyMap.find?_insert]

theorem find?_erase (subscriptions : Subscriptions) (key other : SubscriptionKey) :
    (subscriptions.erase key).find? other =
      if key = other then none else subscriptions.find? other := by
  cases key <;> cases other <;> simp [erase, find?, KeyMap.find?_erase]

/-- A key under which nothing is stored is removed in vain. -/
theorem erase_of_none (absent : subscriptions.find? key = none) :
    subscriptions.erase key = subscriptions := by
  have kept {κ : Type} [Ranked κ] {map : KeyMap κ Subscription} {stored : κ}
      (absent : map.find? stored = none) : map.erase stored = map := by
    obtain ⟨entries, ascending⟩ := map
    have none := List.find?_eq_none.mp (Option.map_eq_none_iff.mp absent)
    simp only [KeyMap.erase, KeyMap.filter, KeyMap.mk.injEq]
    exact List.filter_eq_self.mpr fun entry member => by simpa using none entry member
  cases key with
  | inl stored =>
    change subscriptions.byDevice.find? stored = none at absent
    simp only [erase, kept absent]
  | inr stored =>
    change subscriptions.byFamily.find? stored = none at absent
    simp only [erase, kept absent]

/-! ### The verbs -/

/-- **A subscription** is stored under its key. -/
theorem subscribe_eq (named : command.key? = some key) {interval : Nat}
    (period : command.interval = some interval) (now : Nat) :
    subscriptions.subscribe command now =
      stored (subscriptions.insert ⟨⟨interval, now⟩, command.plainRead⟩ key) command
        command.plainRead (subscriptions.find? key).isNone key.isRight := by
  obtain ⟨address, quantity, rfl, measured, device, family⟩ |
    ⟨code, quantity, rfl, measured, device, family⟩ := command.key_cases named
  · simp only [subscribe, measured, period, device, family, KeyMap.contains, Option.not_isSome]
    rfl
  · simp only [subscribe, measured, period, device, family, KeyMap.contains, Option.not_isSome]
    rfl

/-- **The end of a subscription** removes its key. -/
theorem unsubscribe_eq (named : command.key? = some key) :
    subscriptions.unsubscribe command =
      removed (subscriptions.erase key) command (subscriptions.find? key).isSome key.isRight := by
  obtain ⟨address, quantity, rfl, measured, device, family⟩ |
    ⟨code, quantity, rfl, measured, device, family⟩ := command.key_cases named
  · simp only [unsubscribe, measured, device, family, KeyMap.contains]
    rfl
  · simp only [unsubscribe, measured, device, family, KeyMap.contains]
    rfl

/-! ### Turns -/

/-- Periods that start again are those of the same table. -/
theorem find?_advance (subscriptions : Subscriptions) (now : Nat) (key : SubscriptionKey) :
    (subscriptions.advance now).find? key =
      (subscriptions.find? key).map (Subscription.advance · now) := by
  cases key with
  | inl stored => exact KeyMap.find?_mapValues _ _ _
  | inr stored => exact KeyMap.find?_mapValues _ _ _

/-- The reads that are due are those of subscriptions whose period has passed. -/
theorem mem_due {now : Nat} {copy : Command} :
    copy ∈ subscriptions.due now ↔ ∃ key entry, subscriptions.find? key = some entry ∧
      entry.timer.expired now = true ∧ copy = entry.template := by
  have listed {κ : Type} [Ranked κ] {map : KeyMap κ Subscription} :
      copy ∈ dueOf map now ↔ ∃ key entry, map.find? key = some entry ∧
        entry.timer.expired now = true ∧ copy = entry.template := by
    simp only [dueOf, List.mem_map, List.mem_filter, Prod.exists, KeyMap.mem_entries_iff, and_assoc,
      eq_comm]
  rw [due, List.mem_append, listed, listed, Sum.exists]
  rfl

end Subscriptions

end WireBridge
