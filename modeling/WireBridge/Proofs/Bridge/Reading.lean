/-
**The phases of a read.**

* `Command.advance_waiting`: a read goes on waiting only after its conversion was started, for the
  time that the conversion takes (`Command.TakesTime`), which is never zero;
* `Command.advance_answer`: a read of a measured quantity has an answer only in its last phase.
-/

import WireBridge.Bridge.Reading
import WireBridge.Proofs.Registry.Lines

namespace WireBridge

variable {β ω ε : Type}

/-! ### The time of a conversion -/

/-- The time of a conversion on a device in milliseconds. -/
def Device.conversionTime (device : Device) : Nat :=
  match device.driver with
  | .thermometer driver => driver.resolution.conversionTime
  | _ => Family.conversionTime Family.batteryMonitor

theorem Device.conversionTime_pos (device : Device) : 0 < device.conversionTime := by
  unfold conversionTime
  split
  · next driver _ => cases driver.resolution <;> decide
  · decide

/-- The time that a read of a measured quantity waits: the time of a conversion on its device, or
the longest time of its family. -/
def Command.TakesTime (registry : Registry β) (command : Command) (wait : Nat) : Prop :=
  match command.device, command.family with
  | some address, _ => ∃ device, registry.find? address = some device ∧ wait = device.conversionTime
  | none, some family => wait = Family.conversionTime family
  | none, none => False

/-- A conversion that was started takes the time of its device. -/
theorem Device.sample_ok {σ : Type} {master : Master σ ε} {quantity : Quantity} {device : Device}
    {line : σ} {wait : Nat} {after : Device × σ}
    (ran : (Device.sample master quantity).perform (device, line) = (.ok wait, after)) :
    wait = device.conversionTime := by
  rw [sample, Action.perform_current_bind] at ran
  dsimp only at ran
  unfold conversionTime
  split at ran
  · next driver driverEq =>
    rw [driverEq]
    exact Action.bind_pure_ok ran
  · next driver driverEq =>
    rw [driverEq]
    exact Action.bind_pure_ok ran
  · next driver driverEq =>
    rw [driverEq]
    exact Action.bind_pure_ok ran
  · next driver driverEq =>
    rw [driverEq]
    exact Action.bind_pure_ok ran
  · exact absurd ran Action.not_fail_ok

/-- Voltages are converted by battery monitors only. -/
theorem Device.sample_voltage_ok {σ : Type} {master : Master σ ε} {quantity : Quantity}
    {device : Device} {line : σ} {wait : Nat} {after : Device × σ}
    (voltage : quantity ≠ .temperature)
    (ran : (Device.sample master quantity).perform (device, line) = (.ok wait, after)) :
    wait = Family.conversionTime Family.batteryMonitor := by
  rw [sample, Action.perform_current_bind] at ran
  dsimp only at ran
  split at ran
  · exact absurd rfl voltage
  · exact absurd rfl voltage
  · exact Action.bind_pure_ok ran
  · exact Action.bind_pure_ok ran
  · exact absurd ran Action.not_fail_ok

theorem Device.sampleFamily_ok {σ : Type} {master : Master σ ε} {family : FamilyCode}
    {line after : σ} {wait : Nat}
    (ran : (Device.sampleFamily master family).perform line = (.ok wait, after)) :
    wait = Family.conversionTime family ∧ 0 < wait := by
  unfold sampleFamily at ran
  split at ran
  · next thermometer =>
    have waits := Action.bind_pure_ok ran
    refine ⟨waits, ?_⟩
    rw [waits, thermometer]
    decide
  · split at ran
    · next monitor =>
      have waits := Action.bind_pure_ok ran
      refine ⟨waits, ?_⟩
      rw [waits, monitor]
      decide
    · exact absurd ran Action.not_fail_ok

namespace Command

variable {lines : ChannelId → Master (β × ω) ε}

/-! ### The first phase -/

/-- The conversions of a family on channels take the longest time of the family. -/
theorem sampleChannels_ok {family : FamilyCode} {failed : CommandError} {ids : List ChannelId}
    {longest wait : Nat} {state after : Registry β × ω}
    (ran : (sampleChannels lines family failed ids longest).perform state = (.ok wait, after)) :
    (ids = [] ∧ wait = longest) ∨ (wait = Family.conversionTime family ∧ 0 < wait) := by
  induction ids generalizing longest state with
  | nil => exact .inl ⟨rfl, (Action.pure_ok ran).1⟩
  | cons id rest ih =>
    obtain ⟨first, reached, sampled, others⟩ := Action.bind_ok ran
    rcases ih others with ⟨_, rfl⟩ | waits
    · obtain ⟨_, _, onLine⟩ := Registry.onChannel_ok (Action.mapError_ok sampled)
      exact .inr (Device.sampleFamily_ok onLine)
    · exact .inr waits

/-- Voltage conversions take as long as those of a battery monitor. -/
theorem sampleDevices_ok {quantity : Quantity} (voltage : quantity ≠ .temperature)
    {failed : CommandError} {devices : List (Address × Device)} {longest wait : Nat}
    (short : longest ≤ Family.conversionTime Family.batteryMonitor)
    {state after : Registry β × ω}
    (ran : (sampleDevices lines quantity failed devices longest).perform state =
      (.ok wait, after)) :
    (devices = [] ∧ wait = longest) ∨ wait = Family.conversionTime Family.batteryMonitor := by
  induction devices generalizing longest state with
  | nil => exact .inl ⟨rfl, (Action.pure_ok ran).1⟩
  | cons entry rest ih =>
    obtain ⟨code, device⟩ := entry
    obtain ⟨first, reached, sampled, others⟩ := Action.bind_ok ran
    obtain ⟨_, _, onLine⟩ := Registry.onDevice_ok (Action.mapError_ok sampled)
    have firstEq := Device.sample_voltage_ok voltage onLine
    have longestEq : max longest first = Family.conversionTime Family.batteryMonitor := by
      rw [firstEq]
      exact Nat.max_eq_right short
    rcases ih (Nat.le_of_eq longestEq) others with ⟨_, rfl⟩ | waits
    · exact .inr longestEq
    · exact .inr waits

/-- Some channel has a registered device of a family if there is one. -/
theorem hosting_ne_nil {registry : Registry β} {family : FamilyCode}
    (present : (registry.ofFamily family).isEmpty = false) : registry.hosting family ≠ [] := by
  have entries : (registry.ofFamily family).entries ≠ [] := by
    simpa [KeyMap.isEmpty] using present
  obtain ⟨⟨code, device⟩, member⟩ := List.exists_mem_of_ne_nil _ entries
  obtain ⟨found, own⟩ := Registry.mem_ofFamily.mp member
  exact List.ne_nil_of_mem (Registry.mem_hosting.mpr ⟨code, device, found, own, rfl⟩)

/-- Only battery monitors measure anything but temperatures. -/
theorem checkQuantity_ok {family : FamilyCode} {quantity : Quantity}
    (checked : checkQuantity family quantity = .ok ()) :
    quantity = .temperature ∨ family = Family.batteryMonitor := by
  unfold checkQuantity at checked
  dsimp only at checked
  split at checked
  · exact absurd checked (by simp)
  · split at checked
    · next _ supported =>
      unfold Family.quantities at supported
      split at supported
      · exact .inl (by simpa using supported)
      · split at supported
        · next monitor => exact .inr monitor
        · exact absurd supported (by simp)
    · exact absurd checked (by simp)

/-! ### Both phases -/

/-- What a read of a measured quantity comes to if nothing fails: in its first phase it starts its
conversion, and in its last phase it has an answer. -/
inductive Advanced (registry : Registry β) (command : Command) (now : Nat) : ReadOutcome → Prop
  | sampled {wait : Nat} (phase : command.phase ≠ .result)
      (time : command.TakesTime registry wait) (positive : 0 < wait) :
    Advanced registry command now (.waiting (command.awaiting wait now))
  | fetched {response : Response} (phase : command.phase = .result) :
    Advanced registry command now (.answer response)

theorem registry_bind {α : Type} (next : Registry β → Work β ω α) (state : Registry β × ω) :
    (Work.registry >>= next).perform state = (next state.1).perform state := rfl

/-- Work that looks at the registry first. -/
theorem leads_registry {α : Type} {before failed : Registry β × ω → Prop}
    {after : α → Registry β × ω → Prop} {next : Registry β → Work β ω α}
    (rest : ∀ state, before state → Action.Leads (· = state) (next state.1) after failed) :
    Action.Leads before (Work.registry >>= next) after failed := by
  intro state holds
  rw [registry_bind]
  exact rest state holds state rfl

theorem advanceDevice_ok {command : Command} {address : Address} {quantity : Quantity} {now : Nat}
    {state after : Registry β × ω} {outcome : ReadOutcome}
    (selected : command.device = some address)
    (measured : quantity ≠ .presence)
    (ran : (advanceDevice lines command address quantity now).perform state =
      (.ok outcome, after)) :
    Advanced state.1 command now outcome := by
  unfold advanceDevice at ran
  rw [if_neg measured] at ran
  obtain ⟨_, _, checked⟩ := Action.ofExcept_bind_ok ran
  rw [registry_bind] at checked
  split at checked
  · exact absurd checked Action.not_fail_ok
  · next device found =>
    split at checked
    · next phase =>
      obtain ⟨_, _, _, last⟩ := Action.bind_ok checked
      rw [(Action.pure_ok last).1]
      exact .fetched phase
    · next phase =>
      obtain ⟨wait, _, sampled, last⟩ := Action.bind_ok checked
      obtain ⟨_, _, onLine⟩ := Registry.onDevice_ok (Action.mapError_ok sampled)
      have waits := Device.sample_ok onLine
      have time : command.TakesTime state.1 wait := by
        unfold TakesTime
        rw [selected]
        exact ⟨device, found, waits⟩
      rw [(Action.pure_ok last).1]
      exact .sampled phase time (waits ▸ device.conversionTime_pos)

theorem sampleFamily_ok {command : Command} {family : FamilyCode} {quantity : Quantity} {now : Nat}
    {state after : Registry β × ω} {outcome : ReadOutcome}
    (checked : checkQuantity family quantity = .ok ())
    (present : (state.1.ofFamily family).isEmpty = false)
    (ran : (sampleFamily lines command family quantity now).perform state = (.ok outcome, after)) :
    outcome = .waiting (command.awaiting (Family.conversionTime family) now) ∧
      0 < Family.conversionTime family := by
  unfold sampleFamily at ran
  rw [registry_bind] at ran
  dsimp only at ran
  split at ran
  · obtain ⟨wait, _, sampled, last⟩ := Action.bind_ok ran
    rw [(Action.pure_ok last).1]
    rcases sampleChannels_ok sampled with ⟨none, _⟩ | ⟨rfl, positive⟩
    · exact absurd none (hosting_ne_nil present)
    · exact ⟨rfl, positive⟩
  · next voltage =>
    obtain ⟨wait, _, sampled, last⟩ := Action.bind_ok ran
    rw [(Action.pure_ok last).1]
    rcases sampleDevices_ok voltage (Nat.zero_le _) sampled with ⟨none, _⟩ | rfl
    · have entries : (state.1.ofFamily family).entries ≠ [] := by
        simpa [KeyMap.isEmpty] using present
      exact absurd none entries
    · rw [(checkQuantity_ok checked).resolve_left voltage]
      exact ⟨rfl, by decide⟩

theorem advanceFamily_ok {command : Command} {family : FamilyCode} {quantity : Quantity} {now : Nat}
    {state after : Registry β × ω} {outcome : ReadOutcome} (unselected : command.device = none)
    (selected : command.family = some family) (measured : quantity ≠ .presence)
    (ran : (advanceFamily lines command family quantity now).perform state = (.ok outcome, after)) :
    Advanced state.1 command now outcome := by
  unfold advanceFamily at ran
  rw [if_neg measured] at ran
  obtain ⟨_, quantityChecked, checked⟩ := Action.ofExcept_bind_ok ran
  rw [registry_bind] at checked
  split at checked
  · exact absurd checked Action.not_fail_ok
  · next present =>
    split at checked
    · next phase =>
      unfold fetchFamily at checked
      rw [registry_bind] at checked
      obtain ⟨_, _, _, last⟩ := Action.bind_ok checked
      rw [(Action.pure_ok last).1]
      exact .fetched phase
    · next phase =>
      obtain ⟨rfl, positive⟩ :=
        sampleFamily_ok quantityChecked (Bool.eq_false_iff.mpr present) checked
      refine .sampled phase ?_ positive
      unfold TakesTime
      rw [unselected, selected]

/-- Presence is told at once. -/
theorem advance_presence_ok {command : Command} {now : Nat} {state after : Registry β × ω}
    {outcome : ReadOutcome} (presence : command.quantity = some .presence)
    (ran : (advance lines command now).perform state = (.ok outcome, after)) :
    ∃ response, outcome = .answer response := by
  unfold advance at ran
  rw [presence] at ran
  dsimp only at ran
  split at ran
  · unfold advanceDevice seekDevice at ran
    rw [if_pos rfl] at ran
    obtain ⟨_, _, _, last⟩ := Action.bind_ok ran
    exact ⟨_, (Action.pure_ok last).1⟩
  · unfold advanceFamily seekFamily at ran
    rw [if_pos rfl] at ran
    obtain ⟨_, _, _, found⟩ := Action.bind_ok ran
    rw [registry_bind] at found
    exact ⟨_, (Action.pure_ok found).1⟩
  · exact absurd ran Action.not_fail_ok
  · exact absurd ran Action.not_fail_ok

/-- **A read of a measured quantity** starts its conversion or has an answer, as its phase says. -/
theorem advance_ok {command : Command} {quantity : Quantity} {now : Nat}
    {state after : Registry β × ω} {outcome : ReadOutcome}
    (asked : command.quantity = some quantity) (measured : quantity ≠ .presence)
    (ran : (advance lines command now).perform state = (.ok outcome, after)) :
    Advanced state.1 command now outcome := by
  unfold advance at ran
  rw [asked] at ran
  dsimp only at ran
  split at ran
  · next address selected _ => exact advanceDevice_ok selected measured ran
  · next family unselected selected => exact advanceFamily_ok unselected selected measured ran
  · exact absurd ran Action.not_fail_ok
  · exact absurd ran Action.not_fail_ok

/-- **A read goes on waiting only after its conversion was started**, and waits for the time of the
conversion. -/
theorem advance_waiting {command next : Command} {now : Nat} {state after : Registry β × ω}
    (ran : (advance lines command now).perform state = (.ok (.waiting next), after)) :
    ∃ quantity wait, command.quantity = some quantity ∧ quantity ≠ .presence ∧
      command.phase ≠ .result ∧ command.TakesTime state.1 wait ∧ 0 < wait ∧
      next = command.awaiting wait now := by
  cases asked : command.quantity with
  | none =>
    unfold advance at ran
    rw [asked] at ran
    exact absurd ran Action.not_fail_ok
  | some quantity =>
    by_cases measured : quantity = .presence
    · obtain ⟨response, other⟩ := advance_presence_ok (measured ▸ asked) ran
      exact ReadOutcome.noConfusion other
    · generalize outcomeEq : ReadOutcome.waiting next = outcome at ran
      cases advance_ok asked measured ran with
      | @sampled wait phase time positive =>
        exact ⟨quantity, wait, rfl, measured, phase, time, positive,
          ReadOutcome.waiting.inj outcomeEq⟩
      | fetched phase => exact ReadOutcome.noConfusion outcomeEq

/-- A measured quantity is told only in the last phase. -/
theorem advance_answer {command : Command} {quantity : Quantity} {now : Nat} {response : Response}
    {state after : Registry β × ω} (asked : command.quantity = some quantity)
    (measured : quantity ≠ .presence)
    (ran : (advance lines command now).perform state = (.ok (.answer response), after)) :
    command.phase = .result := by
  cases advance_ok asked measured ran with
  | fetched phase => exact phase

end Command

end WireBridge
