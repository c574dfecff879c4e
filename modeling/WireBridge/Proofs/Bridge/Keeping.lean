/-
**What commands leave of a registry.**

All that commands do to a registry is to look for devices, to run the two actions of registered
devices and to start the conversions of a family on a channel.

* `Registry.Keeping`: a condition that none of these ends, as long as only some conversions are run;
* `Registry.Keeping.keeps_discover`, `Registry.Keeping.keeps_advance`: then no command ends it that
  runs only these.
-/

import WireBridge.Bridge.Turn
import WireBridge.Proofs.Bridge.Reading

namespace WireBridge

open WireBridge.Action (Leads Keeps)

/-- Whether a command is about a device, by itself or with its family. -/
def Command.About (command : Command) (code : Address) : Prop :=
  command.device = some code ∨ (command.device = none ∧ command.family = some code.family)

variable {β ω ε : Type} {lines : ChannelId → Master (β × ω) ε} {apt : Address → Device → Prop}
  {converts : Address → Quantity → Prop} {kept : Registry β → Prop}

/-! ### Several devices -/

namespace Command

variable {kept : Registry β × ω → Prop} {quantity : Quantity} {failed : CommandError}

theorem keeps_sampleDevices {devices : List (Address × Device)}
    (each : ∀ entry ∈ devices, Keeps kept
      (Registry.onDevice lines entry.1 entry.2 fun master => Device.sample master quantity))
    (longest : Nat) : Keeps kept (sampleDevices lines quantity failed devices longest) := by
  induction devices generalizing longest with
  | nil => exact Action.leads_pure fun _ here => here
  | cons entry rest ih =>
    refine Action.leads_bind _ (Action.leads_mapError (each entry List.mem_cons_self))
      fun wait => ?_
    exact ih (fun entry member => each entry (List.mem_cons_of_mem _ member)) _

theorem keeps_sampleChannels {family : FamilyCode}
    (broadcast : ∀ id, Keeps kept
      (Registry.onChannel id (Device.sampleFamily (lines id) family)))
    (ids : List ChannelId) (longest : Nat) :
    Keeps kept (sampleChannels lines family failed ids longest) := by
  induction ids generalizing longest with
  | nil => exact Action.leads_pure fun _ here => here
  | cons id rest ih =>
    exact Action.leads_bind _ (Action.leads_mapError (broadcast id)) fun wait => ih wait

theorem keeps_fetchDevices {devices : List (Address × Device)}
    (each : ∀ entry ∈ devices, Keeps kept
      (Registry.onDevice lines entry.1 entry.2 fun master => Device.read master quantity)) :
    Keeps kept (fetchDevices lines quantity failed devices) := by
  induction devices with
  | nil => exact Action.leads_pure fun _ here => here
  | cons entry rest ih =>
    refine Action.leads_bind _ (Action.leads_mapError (each entry List.mem_cons_self))
      fun value => ?_
    refine Action.leads_bind _
      (ih fun entry member => each entry (List.mem_cons_of_mem _ member)) fun reports => ?_
    exact Action.leads_pure fun _ here => here

end Command

/-- Nothing that commands do ends a condition under which all registered devices are apt, if the
conversions that they run are among some. -/
structure Registry.Keeping (lines : ChannelId → Master (β × ω) ε) (apt : Address → Device → Prop)
    (converts : Address → Quantity → Prop) (kept : Registry β → Prop) : Prop where
  known : ∀ registry, kept registry →
    ∀ code device, registry.find? code = some device → apt code device
  scan : ∀ family, Keeps (fun state => kept state.1) (Registry.scan lines family)
  locate : ∀ code, Keeps (fun state => kept state.1) (Registry.locate lines code)
  sample : ∀ code device quantity, apt code device → converts code quantity →
    Keeps (fun state => kept state.1)
      (onDevice lines code device fun master => Device.sample master quantity)
  read : ∀ code device quantity, apt code device → Keeps (fun state => kept state.1)
    (onDevice lines code device fun master => Device.read master quantity)
  broadcast : ∀ id family, Keeps (fun state => kept state.1)
    (onChannel id (Device.sampleFamily (lines id) family))

namespace Registry.Keeping

variable (keeping : Registry.Keeping lines apt converts kept)

include keeping

/-! ### Commands -/

theorem keeps_discover (command : Command) :
    Keeps (fun state => kept state.1) (Bridge.discover lines command) := by
  unfold Bridge.discover
  split
  · refine Action.leads_bind _ (Action.leads_mapError (keeping.locate _)) fun _ => ?_
    exact Action.leads_pure fun _ here => here
  · refine Action.leads_bind _ (Action.leads_mapError (keeping.scan _)) fun _ => ?_
    exact fun _ here => here
  · refine Action.leads_bind _ (Action.leads_mapError (keeping.scan _)) fun _ => ?_
    exact fun _ here => here

theorem apt_ofFamily {registry : Registry β} (here : kept registry) (family : FamilyCode) :
    ∀ entry ∈ (registry.ofFamily family).entries, apt entry.1 entry.2 :=
  fun entry member => keeping.known registry here entry.1 entry.2 (mem_ofFamily.mp member).1

variable {command : Command} {quantity : Quantity}
  (spared : ∀ code, command.phase ≠ .result → command.About code → converts code quantity)

include spared

theorem keeps_advanceDevice {address : Address} (selected : command.device = some address)
    (now : Nat) :
    Keeps (fun state => kept state.1)
      (Command.advanceDevice lines command address quantity now) := by
  unfold Command.advanceDevice
  split
  · refine Action.leads_bind _ (Action.leads_mapError (keeping.locate address)) fun _ => ?_
    exact Action.leads_pure fun _ here => here
  · refine Action.leads_bind (fun _ state => kept state.1)
      (Action.leads_ofExcept (fun _ _ _ here => here) fun _ here => here) fun _ => ?_
    refine Command.leads_registry fun state here => ?_
    have same : ∀ other, other = state → kept other.1 := fun _ same => same ▸ here
    split
    · exact Action.leads_fail same
    · next device found =>
      have known := keeping.known state.1 here address device found
      split
      · refine Action.leads_bind (fun _ state => kept state.1)
          ((Action.leads_mapError (keeping.read _ _ quantity known)).of_imp same) fun _ => ?_
        exact Action.leads_pure fun _ here => here
      · next phase =>
        have converted := spared address phase (.inl selected)
        refine Action.leads_bind (fun _ state => kept state.1)
          ((Action.leads_mapError (keeping.sample _ _ quantity known converted)).of_imp same)
          fun _ => ?_
        exact Action.leads_pure fun _ here => here

theorem keeps_advanceFamily {family : FamilyCode} (unselected : command.device = none)
    (selected : command.family = some family) (now : Nat) :
    Keeps (fun state => kept state.1)
      (Command.advanceFamily lines command family quantity now) := by
  unfold Command.advanceFamily
  split
  · refine Action.leads_bind _ (Action.leads_mapError (keeping.scan (some family))) fun _ => ?_
    exact fun _ here => here
  · refine Action.leads_bind (fun _ state => kept state.1)
      (Action.leads_ofExcept (fun _ _ _ here => here) fun _ here => here) fun _ => ?_
    refine Command.leads_registry fun state here => ?_
    have same : ∀ other, other = state → kept other.1 := fun _ same => same ▸ here
    have known := keeping.apt_ofFamily here family
    split
    · exact Action.leads_fail same
    · split
      · refine Command.leads_registry ?_
        rintro _ rfl
        refine Action.leads_bind (fun _ state => kept state.1) ((Command.keeps_fetchDevices
          fun entry member => keeping.read _ _ quantity (known entry member)).of_imp same)
          fun _ => ?_
        exact Action.leads_pure fun _ here => here
      · next phase =>
        refine Command.leads_registry ?_
        rintro _ rfl
        dsimp only
        split
        · refine Action.leads_bind (fun _ state => kept state.1)
            ((Command.keeps_sampleChannels (fun id => keeping.broadcast id family) _ 0).of_imp
              same) fun _ => ?_
          exact Action.leads_pure fun _ here => here
        · refine Action.leads_bind (fun _ state => kept state.1) ((Command.keeps_sampleDevices
            (fun entry member => keeping.sample _ _ quantity (known entry member) ?_) 0).of_imp
              same) fun _ => ?_
          · have own := (mem_ofFamily.mp member).2
            exact spared entry.1 phase (.inr ⟨unselected, own ▸ selected⟩)
          · exact Action.leads_pure fun _ here => here

omit spared

/-- **No phase of a read ends the condition** if its conversions are among those. -/
theorem keeps_advance {command : Command} (now : Nat)
    (spared : ∀ code quantity, command.phase ≠ .result → command.About code →
      command.quantity = some quantity → converts code quantity) :
    Keeps (fun state => kept state.1) (Command.advance lines command now) := by
  unfold Command.advance
  split
  · exact Action.leads_fail fun _ here => here
  · next quantity asked =>
    have each (code : Address) (phase : command.phase ≠ .result) (about : command.About code) :
        converts code quantity := spared code quantity phase about asked
    split
    · next address selected _ => exact keeping.keeps_advanceDevice each selected now
    · next family unselected selected =>
      exact keeping.keeps_advanceFamily each unselected selected now
    · exact Action.leads_fail fun _ here => here
    · exact Action.leads_fail fun _ here => here

end Registry.Keeping

end WireBridge
