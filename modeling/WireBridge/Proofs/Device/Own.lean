/-
**Drivers and the devices that suit them.**

* `Sim.Device.Suits`: a device is of the kind that its family code says;
* `Sim.Device.readable`: whether the driver of a device can read it;
* `Sim.Drives.leads_setUpNew`: the driver for a code that is attached can be made if and only if the
  device is readable.
-/

import WireBridge.Proofs.Device.Registers

namespace WireBridge

open WireBridge.Action (Leads Keeps)

variable {σ ε α : Type} {master : Master σ ε} {id : ChannelId}

namespace Sim

variable {line : σ → Line} {code : Address} {device : Device}

/-- The device is of the kind that its family code says. -/
def Device.Suits (device : Device) : Prop :=
  match device.model with
  | .presenceOnly => device.address.family ≠ Family.thermometer ∧
      device.address.family ≠ Family.batteryMonitor
  | .thermometer .. => device.address.family = Family.thermometer
  | .batteryMonitor .. => device.address.family = Family.batteryMonitor

/-- Whether a driver can read the device. Only thermometers and battery monitors are read. -/
def Device.readable (device : Device) : Bool :=
  !(device.corrupt && (device.address.family == Family.thermometer ||
    device.address.family == Family.batteryMonitor))

/-- The kind of a device does not change. -/
theorem Device.suits_asAttached (device : Device) : device.asAttached.Suits ↔ device.Suits := by
  obtain ⟨address, model, corrupt, conversions⟩ := device
  cases model <;> exact Iff.rfl

theorem Device.readable_asAttached (device : Device) :
    device.asAttached.readable = device.readable := rfl

theorem Line.Has.address_eq {here : Line} (has : here.Has code (· = device)) :
    device.address = code := by
  obtain ⟨_, found, rfl⟩ := has
  have same := List.find?_some found
  exact beq_iff_eq.mp same

/-- **The driver for a code that is attached** can be made if and only if the device is readable. -/
theorem Drives.leads_setUpNew (drives : Drives master line) (suits : device.Suits) :
    Leads
      (fun state : WireBridge.Device × σ =>
        state.1 = .ofAddress id code ∧ (line state.2).Has code (· = device))
      (Device.setUp master) (fun _ _ => device.readable = true)
      fun _ => device.readable = false := by
  refine Action.leads_current_bind ?_
  rintro ⟨_, here⟩ ⟨rfl, has⟩
  obtain rfl := has.address_eq
  unfold Device.Suits at suits
  unfold Device.readable
  dsimp only [Device.ofAddress]
  cases model : device.model with
  | presenceOnly =>
    rw [model] at suits
    dsimp only at suits
    have driver : Driver.ofAddress device.address = .presenceOnly device.address := by
      rw [Driver.ofAddress, if_neg suits.1, if_neg suits.2]
    rw [driver]
    refine Action.leads_pure fun _ _ => ?_
    simp [suits.1, suits.2]
  | thermometer celsius registers =>
    rw [model] at suits
    dsimp only at suits
    have driver : Driver.ofAddress device.address =
        .thermometer (.unread device.address .twelve) := by
      rw [Driver.ofAddress, if_pos suits]
    rw [driver]
    refine Device.leads_withDriver (fun state same => ⟨rfl, same ▸ has⟩)
      ((drives.leads_thermometerSetUp suits model).mono (fun _ _ there => ?_) fun _ there => ?_)
    · simp [there.1]
    · simp [there.2, suits]
  | batteryMonitor celsius vad vdd registers =>
    rw [model] at suits
    dsimp only at suits
    have other : device.address.family ≠ Family.thermometer := by
      rw [suits]
      decide
    have driver : Driver.ofAddress device.address = .batteryMonitor (.unread device.address) := by
      rw [Driver.ofAddress, if_neg other, if_pos suits]
    rw [driver]
    refine Device.leads_withDriver (fun state same => ⟨rfl, same ▸ has⟩)
      ((drives.leads_monitorSetUp suits model).mono (fun _ _ there => ?_) fun _ there => ?_)
    · simp [there.1]
    · simp [there.2, suits]

end Sim

end WireBridge
