/-
**Looking for devices on a simulated line.**

* `Sim.Drives.next_devices`, `Sim.Drives.passes_devices`, `Sim.Drives.present_devices`: searches do
  not change any device;
* `Sim.Drives.calm`: looking for devices, and letting new drivers read them, leaves the voltage that
  a battery monitor shows.
-/

import WireBridge.Proofs.Bus.Ending
import WireBridge.Proofs.Registry.Hosting

namespace WireBridge

open WireBridge.Action (Leads Keeps)

variable {σ β ω ε : Type}

theorem Search.conclude_kind (search : Search) (last : Nat) :
    (search.conclude last : Except (BusError ε) (Option Address) × Search).2.kind =
      search.kind := by
  unfold Search.conclude
  dsimp only
  split
  · rfl
  · split
    · rfl
    · split <;> rfl

theorem Search.start_kind (kind : SearchKind) (family : Option FamilyCode) :
    (Search.start kind family).kind = kind := by
  cases family <;> rfl

namespace Sim

variable {master : Master σ ε} {line : σ → Line}

/-- **A pass** changes no device, wherever its search is. -/
theorem Drives.next_devices (drives : Drives master line) {search : Search} (state : σ)
    (normal : search.kind = .normal) :
    (line ((Search.next master).perform (search, state)).2.2).devices = (line state).devices ∧
      ((Search.next master).perform (search, state)).2.1.kind = .normal := by
  cases going : search.finished with
  | true =>
    rw [Search.next_finished master going state]
    exact ⟨rfl, normal⟩
  | false =>
    by_cases empty : (line state).devices = []
    · obtain ⟨reached, nextEq, devices, _⟩ := drives.next_empty going empty
      rw [nextEq]
      exact ⟨devices, normal⟩
    · obtain ⟨target, last, reached, _, _, nextEq, devices, _⟩ :=
        drives.next_perform normal going empty
      rw [nextEq]
      exact ⟨devices, (Search.conclude_kind _ last).trans normal⟩

/-- **A search** of any number of passes changes no device. -/
theorem Drives.passes_devices (drives : Drives master line) (left : Nat) {search : Search}
    (state : σ) (normal : search.kind = .normal) (found : List Address) :
    (line (Search.passes master left (search, state) found).2.2).devices =
      (line state).devices := by
  induction left generalizing search state found with
  | zero => rfl
  | succ left ih =>
    obtain ⟨devices, still⟩ := drives.next_devices state normal
    unfold Search.passes
    generalize (Search.next master).perform (search, state) = performed at devices still ⊢
    obtain ⟨outcome, after, reached⟩ := performed
    rw [← devices]
    dsimp only
    split
    · next done =>
      obtain ⟨_, reachedEq⟩ := Prod.mk.inj done
      rw [(Prod.mk.inj reachedEq).2]
    · next code both done =>
      obtain ⟨_, rfl⟩ := Prod.mk.inj done
      exact ih reached still _
    · next both done =>
      obtain ⟨_, rfl⟩ := Prod.mk.inj done
      exact ih reached still _
    · next done =>
      obtain ⟨_, reachedEq⟩ := Prod.mk.inj done
      rw [(Prod.mk.inj reachedEq).2]

/-- Asking for one device changes none. -/
theorem Drives.present_devices (drives : Drives master line) (code : Address) (state : σ) :
    (line ((Search.present master code).perform state).2).devices = (line state).devices := by
  have aimed : ((Search.start .normal none).aim code).kind = .normal := rfl
  obtain ⟨devices, _⟩ := drives.next_devices state aimed
  unfold Search.present Search.confirm
  simp only [Action.perform_ofStep, Action.perform_bind, Action.perform_current,
    Action.perform_update, Action.perform_attempt]
  generalize (Search.next master).perform ((Search.start .normal none).aim code, state) = performed
    at devices ⊢
  obtain ⟨outcome, after, reached⟩ := performed
  rw [← devices]
  dsimp only
  split <;> rfl

theorem Line.Has.of_devices {here other : Line} {code : Address} {holds : Device → Prop}
    (has : here.Has code holds) (same : other.devices = here.devices) : other.Has code holds := by
  obtain ⟨device, found, known⟩ := has
  exact ⟨device, by rw [Line.find?, same]; exact found, known⟩

/-- **Looking for devices** leaves the voltage that a battery monitor shows. -/
theorem calm_of_drives {lines : ChannelId → Master (β × ω) ε} {line : β → Line}
    (drives : ∀ id, Drives (lines id) fun state => line state.1) {code : Address}
    (monitor : code.family = Family.batteryMonitor) (vad vdd : Float32) (shown : Option Bool) :
    Registry.Calm lines fun here => (line here).Has code (Shows vad vdd shown) := by
  refine ⟨fun id family found here world has => ?_, fun id other => ?_, fun id channel other => ?_⟩
  · exact has.of_devices
      ((drives id).passes_devices _ (here, world) (Search.start_kind .normal family) found)
  · exact Action.keeps_iff.mpr fun state has =>
      has.of_devices ((drives id).present_devices other state)
  · rintro ⟨device, state⟩ ⟨rfl, has⟩
    exact (drives id).keeps_setUp monitor _ ⟨Driver.fits_ofAddress other, has⟩

end Sim

end WireBridge
