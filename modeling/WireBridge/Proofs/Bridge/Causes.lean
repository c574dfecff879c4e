/-
**Why the work of commands fails.**

A command works on the registry: it looks for devices, or it goes on with a read. What it fails with
tells how that work went. It is never that the queue is full, and that a parameter is missing is
only told of a read that names no key.

* `CommandError.OfWork`: the errors of work on the registry;
* `Command.refusal_of_check`: those that are told of a command before it is queued;
* `Bridge.causes_discover`, `Command.causes_advance`: looking for devices fails with such errors
  only, and so does a read that names what it is about.
-/

import WireBridge.Bridge.Turn
import WireBridge.Proofs.Action
import WireBridge.Proofs.Command.Messages
import WireBridge.Proofs.Schedule.Table

namespace WireBridge

open WireBridge.Action (FailsOnly)

variable {β ω ε : Type} {lines : ChannelId → Master (β × ω) ε}

/-- What work on the registry fails with. -/
inductive CommandError.OfWork : CommandError → Prop
  | family : OfWork .familyNotSupported
  | quantity (family : FamilyCode) : OfWork (.unsupportedQuantity family)
  | device : OfWork .deviceNotFound
  | devices : OfWork .noFamilyDevices
  | sample (family : FamilyCode) (quantity : Quantity) : OfWork (.sampleFailed family quantity)
  | read (family : FamilyCode) (quantity : Quantity) : OfWork (.readFailed family quantity)
  | scan (scope : ScanScope) : OfWork (.scanFailed scope)

namespace CommandError

theorem OfWork.ne_queueFull {error : CommandError} (work : error.OfWork) : error ≠ .queueFull := by
  cases work <;> exact CommandError.noConfusion

theorem Refusal.ne_queueFull {error : CommandError} (refused : error.Refusal) :
    error ≠ .queueFull := by
  cases refused <;> exact CommandError.noConfusion

theorem OfWork.not_refusal {error : CommandError} (work : error.OfWork) : ¬ error.Refusal := by
  intro refused
  cases refused <;> exact nomatch work

end CommandError

/-- Work that fails with errors of work only. -/
abbrev Work.Plain {α : Type} (work : Work β ω α) : Prop :=
  FailsOnly (fun _ => True) CommandError.OfWork work

namespace Command

/-- The check of a command tells a refusal. -/
theorem refusal_of_check {command : Command} {error : CommandError}
    (refused : command.check = .error error) : error.Refusal := by
  have measured {absent : CommandError} (known : absent.Refusal) {complete : Bool}
      (failed : check.measured command absent complete = .error error) : error.Refusal := by
    unfold check.measured at failed
    split at failed
    · exact Except.error.inj failed ▸ known
    · split at failed
      · exact Except.error.inj failed ▸ .selector
      · exact absurd failed (by simp)
  unfold check at refused
  split at refused
  · exact Except.error.inj refused ▸ .conflict
  · split at refused
    · exact absurd refused (by simp)
    · exact absurd refused (by simp)
    · exact measured .quantity refused
    · exact measured .quantity refused
    · exact measured .interval refused

/-! ### Several devices -/

theorem plain_registry {α : Type} {next : Registry β → Work β ω α}
    (rest : ∀ registry, Work.Plain (next registry)) : Work.Plain (Work.registry >>= next) :=
  Action.failsOnly_bind
    (Action.failsOnly_current_bind fun _ _ => Action.failsOnly_pure _) rest

variable {quantity : Quantity} {failed : CommandError}

/-! Whatever happens to one of several devices, the error is the same. -/

theorem failsOnly_sampleChannels (family : FamilyCode) (ids : List ChannelId) (longest : Nat) :
    FailsOnly (fun _ => True) (· = failed) (sampleChannels lines family failed ids longest) := by
  induction ids generalizing longest with
  | nil => exact Action.failsOnly_pure _
  | cons id rest ih =>
    exact Action.failsOnly_bind (Action.failsOnly_rename fun _ => rfl) fun wait => ih wait

theorem failsOnly_sampleDevices (devices : List (Address × Device)) (longest : Nat) :
    FailsOnly (fun _ => True) (· = failed)
      (sampleDevices lines quantity failed devices longest) := by
  induction devices generalizing longest with
  | nil => exact Action.failsOnly_pure _
  | cons entry rest ih =>
    exact Action.failsOnly_bind (Action.failsOnly_rename fun _ => rfl) fun wait => ih _

theorem failsOnly_fetchDevices (devices : List (Address × Device)) :
    FailsOnly (fun _ => True) (· = failed) (fetchDevices lines quantity failed devices) := by
  induction devices with
  | nil => exact Action.failsOnly_pure _
  | cons entry rest ih =>
    refine Action.failsOnly_bind (Action.failsOnly_rename fun _ => rfl) fun value => ?_
    exact Action.failsOnly_bind ih fun _ => Action.failsOnly_pure _

/-- The conversions of a family fail with one error. -/
theorem failsOnly_sampleFamily (command : Command) (family : FamilyCode) (now : Nat) :
    FailsOnly (fun _ => True) (· = .sampleFailed family quantity)
      (sampleFamily lines command family quantity now) := by
  refine Action.failsOnly_bind (Action.failsOnly_current_bind fun _ _ => Action.failsOnly_pure _)
    fun known => ?_
  dsimp only
  split
  · refine Action.failsOnly_bind ?_ fun _ => Action.failsOnly_pure _
    exact failsOnly_sampleChannels family _ _
  · refine Action.failsOnly_bind ?_ fun _ => Action.failsOnly_pure _
    exact failsOnly_sampleDevices _ _

theorem plain_deviceError (work : failed.OfWork) {missing : CommandError} (other : missing.OfWork)
    (error : RegistryError ε) : (deviceError failed missing error).OfWork := by
  cases error with
  | channel id error => exact work
  | unknownChannel id => exact other

/-! ### Reads -/

theorem ofWork_of_checkQuantity {family : FamilyCode} {error : CommandError}
    (refused : checkQuantity family quantity = .error error) : error.OfWork := by
  unfold checkQuantity at refused
  dsimp only at refused
  split at refused
  · obtain rfl := Except.error.inj refused
    exact .family
  · split at refused
    · exact absurd refused (by simp)
    · obtain rfl := Except.error.inj refused
      exact .quantity family

theorem plain_advanceDevice (command : Command) (address : Address) (now : Nat) :
    Work.Plain (advanceDevice lines command address quantity now) := by
  unfold advanceDevice
  split
  · exact Action.failsOnly_bind (Action.failsOnly_rename fun _ => .scan .device)
      fun _ => Action.failsOnly_pure _
  · refine Action.failsOnly_bind (Action.failsOnly_ofExcept fun _ => ofWork_of_checkQuantity)
      fun _ => plain_registry fun registry => ?_
    split
    · exact Action.failsOnly_fail .device
    · split
      · exact Action.failsOnly_bind (Action.failsOnly_rename
          (plain_deviceError (.read address.family quantity) .device))
          fun _ => Action.failsOnly_pure _
      · exact Action.failsOnly_bind (Action.failsOnly_rename
          (plain_deviceError (.sample address.family quantity) .device))
          fun _ => Action.failsOnly_pure _

theorem plain_advanceFamily (command : Command) (family : FamilyCode) (now : Nat) :
    Work.Plain (advanceFamily lines command family quantity now) := by
  unfold advanceFamily
  split
  · refine Action.failsOnly_bind (Action.failsOnly_rename fun _ => .scan .family)
      fun _ => plain_registry fun _ => Action.failsOnly_pure _
  · refine Action.failsOnly_bind (Action.failsOnly_ofExcept fun _ => ofWork_of_checkQuantity)
      fun _ => plain_registry fun registry => ?_
    split
    · exact Action.failsOnly_fail .devices
    · split
      · refine plain_registry fun known => Action.failsOnly_bind
          ((failsOnly_fetchDevices _).mono ?_) fun _ => Action.failsOnly_pure _
        rintro _ rfl
        exact .read family quantity
      · refine (failsOnly_sampleFamily command family now).mono ?_
        rintro _ rfl
        exact .sample family quantity

/-- **A read fails with an error of its work**, or it names no key. -/
theorem causes_advance (command : Command) (now : Nat) :
    FailsOnly (fun _ => True) (fun error => error.OfWork ∨ error.Refusal ∧ command.key? = none)
      (advance lines command now) := by
  intro state _ error after ran
  unfold advance at ran
  unfold key?
  split at ran
  · next unmeasured =>
    obtain rfl := Except.error.inj (congrArg Prod.fst ran)
    exact .inr ⟨.quantity, by rw [unmeasured]⟩
  · next quantity measured =>
    split at ran
    · exact .inl (plain_advanceDevice command _ now state trivial error after ran)
    · exact .inl (plain_advanceFamily command _ now state trivial error after ran)
    · next device family =>
      obtain rfl := Except.error.inj (congrArg Prod.fst ran)
      exact .inr ⟨.conflict, by rw [measured, device, family]⟩
    · next device family =>
      obtain rfl := Except.error.inj (congrArg Prod.fst ran)
      exact .inr ⟨.selector, by rw [measured, device, family]⟩

end Command

/-- **Looking for devices fails with an error of its work.** -/
theorem Bridge.causes_discover (command : Command) : Work.Plain (discover lines command) := by
  unfold discover
  split
  · exact Action.failsOnly_bind (Action.failsOnly_rename fun _ => .scan .device)
      fun _ => Action.failsOnly_pure _
  · exact Action.failsOnly_bind (Action.failsOnly_rename fun _ => .scan .family)
      fun _ => Command.plain_registry fun _ => Action.failsOnly_pure _
  · exact Action.failsOnly_bind (Action.failsOnly_rename fun _ => .scan .all)
      fun _ => Command.plain_registry fun _ => Action.failsOnly_pure _

end WireBridge
