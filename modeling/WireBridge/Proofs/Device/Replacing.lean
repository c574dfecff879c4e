/-
**One device of a line, and all others.**

* `Sim.Line.Replaces`: the device with a code became another one, and the others are as they were;
* `Sim.Line.Replaces.devices_eq`: then the devices are those that were attached, but for that one;
* `Sim.Line.performs_replaces`: an action on one device;
* `Sim.Line.Tells`: what a driver of the device reads, whatever it knew before;
* `Sim.watched`: a simulated line with a log of its calls.
-/

import WireBridge.Proofs.Device.Dialogue
import WireBridge.Proofs.Device.Sparing

namespace WireBridge.Sim

open WireBridge.Action (Leads)
open BusCall (Dialogue)
open Master.Notes (Says)

variable {ε α δ : Type}

/-- A simulated line with a log of its calls, the latest first. -/
abbrev watched : Master (Line × List BusCall) ε := master.traced id

theorem watched_drives : Drives (watched : Master (Line × List BusCall) ε) Prod.fst :=
  ⟨fun _ => ⟨_, rfl, rfl⟩, fun _ _ => ⟨_, rfl, rfl⟩, fun _ => ⟨_, rfl, rfl⟩,
    fun _ _ => ⟨_, rfl, rfl⟩, fun _ => ⟨_, rfl, rfl⟩, fun _ _ => ⟨_, rfl, rfl⟩⟩

namespace Line

/-- The device with a code became another one. All other devices are as they were. -/
structure Replaces (before : Line) (code : Address) (changed : Device) (after : Line) : Prop where
  codes : after.codes = before.codes
  own : after.find? code = some changed
  others : ∀ other, other ≠ code → after.find? other = before.find? other

variable {before after : Line} {code : Address} {changed : Device}

/-- **All devices but one** are the same, if each has a code of its own. -/
theorem Replaces.devices_eq (replaces : before.Replaces code changed after)
    (distinct : before.codes.Nodup) :
    after.devices =
      before.devices.map fun device => if device.address = code then changed else device := by
  have still : after.codes.Nodup := replaces.codes ▸ distinct
  have length : after.devices.length = before.devices.length := by
    rw [← List.length_map Device.address, ← List.length_map Device.address]
    exact congrArg List.length replaces.codes
  refine List.ext_getElem (by rw [List.length_map, length]) fun place inside _ => ?_
  have within : place < before.devices.length := length ▸ inside
  have same : after.devices[place].address = before.devices[place].address := by
    have codes := congrArg (·[place]?) replaces.codes
    simpa [Line.codes, inside, within] using codes
  have now := find?_of_mem still (List.getElem_mem inside)
  have earlier := find?_of_mem distinct (List.getElem_mem within)
  rw [List.getElem_map, ← same]
  split
  · next own =>
    rw [own, replaces.own] at now
    exact (Option.some.inj now).symm
  · next other =>
    rw [same] at now other
    rw [replaces.others _ other, earlier] at now
    exact (Option.some.inj now).symm

/-- Nothing was done to any other device. -/
theorem Replaces.of_has (evolves : before.Evolves after) (own : after.Has code (· = changed))
    (others : ∀ other device, code ≠ other → before.Has other (· = device) →
      after.Has other (· = device)) :
    before.Replaces code changed after := by
  have codes : after.codes = before.codes := by
    rw [codes_eq_map, codes_eq_map, evolves.population_eq]
  refine ⟨codes, ?_, fun other different => ?_⟩
  · obtain ⟨_, found, rfl⟩ := own
    exact found
  cases found : before.find? other with
  | some device =>
    obtain ⟨_, still, rfl⟩ := others other device different.symm ⟨device, found, rfl⟩
    exact still
  | none =>
    have related := evolves.find? other
    rw [found] at related
    cases now : after.find? other with
    | none => rfl
    | some device =>
      rw [now] at related
      cases related

section Performing

variable {τ : Type} {action : Action τ ε α} (view : τ → Line × List BusCall) (start : τ)
  {said : List Exchange} {after unsaid lost : τ → Prop} {spoiled : Address → Device → τ → Prop}

/-- **An action on one device**, from a state of the line and its log. It cannot fail, and what it
says and does to the device is known. It leaves all other devices alone. -/
theorem performs_replaces
    (own : Leads (· = start) action (fun _ state => (view state).1.Has code (· = changed))
      fun _ => False)
    (spoken : Leads (· = start) action
      (fun _ state => after state ∧ Says Prod.snd id (view start).2 code said (view state)) unsaid)
    (spares : Leads (· = start) action (fun _ state => (view start).1.Evolves (view state).1) lost)
    (others : ∀ other device, code ≠ other → (view start).1.Has other (· = device) →
      Leads (· = start) action (fun _ state => (view state).1.Has other (· = device))
        (spoiled other device)) :
    ∃ value reached calls, action.perform start = (.ok value, reached) ∧ after reached ∧
      (view reached).2 = calls.reverse ++ (view start).2 ∧ Dialogue code said calls ∧
      (view start).1.Replaces code changed (view reached).1 := by
  obtain ⟨value, reached, ran, has⟩ := own.performs (fun _ => id) rfl
  obtain ⟨kept, calls, dialogue, noted⟩ := spoken.of_perform rfl ran
  refine ⟨value, reached, calls.reverse, ran, kept, ?_, dialogue, ?_⟩
  · rw [List.reverse_reverse]
    exact noted.trans (by rw [List.map_id])
  · exact .of_has (spares.of_perform rfl ran) has fun other device different there =>
      (others other device different there).of_perform rfl ran

end Performing

/-- A driver at a line with its device. -/
theorem starts {line : Line} {device : Device} (found : line.find? code = some device)
    (driver : δ) (earlier : List BusCall) (state : δ × (Line × List BusCall))
    (same : state = (driver, (line, earlier))) :
    state.1 = driver ∧ state.2.1.Has code (· = device) := by
  subst same
  exact ⟨rfl, device, found, rfl⟩

/-- Nothing was said to the device yet. -/
theorem starts_silent {line : Line} {device : Device} (found : line.find? code = some device)
    (driver : δ) (earlier : List BusCall) (state : δ × (Line × List BusCall))
    (same : state = (driver, (line, earlier))) :
    (state.1 = driver ∧ state.2.1.Has code (· = device)) ∧
      state.1 = driver ∧ Says Prod.snd id earlier code [] state.2 := by
  refine ⟨starts found driver earlier state same, ?_⟩
  subst same
  exact ⟨rfl, [], .silent, rfl⟩

/-- A driver reads a value, whatever it knew before. -/
def Tells (line : Line) (read : Action (δ × (Line × List BusCall)) ε α) (knows : δ → Prop)
    (value : α) : Prop :=
  ∀ driver earlier, knows driver → (read.perform (driver, (line, earlier))).1 = .ok value

theorem tells_of_leads {line : Line} {device : Device} (found : line.find? code = some device)
    (intact : device.corrupt = false) {read : Action (δ × (Line × List BusCall)) ε α}
    {knows : δ → Prop} {value : α}
    (leads : ∀ driver, knows driver →
      Leads (fun state => state.1 = driver ∧ state.2.1.Has code (· = device)) read
        (fun told _ => told = value) fun _ => device.corrupt = true) :
    line.Tells read knows value := by
  intro driver earlier known
  obtain ⟨_, reached, ran, rfl⟩ :=
    ((leads driver known).of_imp (starts found driver earlier)).performs
      (fun _ => Bool.eq_false_iff.mp intact) rfl
  rw [ran]

end Line

end WireBridge.Sim
