/-
**Reading quantities.**

Presence is read by looking for the device, or for the devices of the family. Any other quantity is
read in two phases: the first starts a conversion, and the command then waits in the queue until the
second fetches the result.

* `Work`: what commands do to the registry;
* `Command.advance`: the next phase of a read;
* `ReadOutcome`: an answer, or the command as it waits.
-/

import WireBridge.Command.Answer
import WireBridge.Registry.Scan

namespace WireBridge

/-- What a phase of a read led to. -/
inductive ReadOutcome where
  /-- The answer. -/
  | answer (response : Response)
  /-- The command waits for a conversion. -/
  | waiting (command : Command)

/-- The work of a command on the registry. -/
abbrev Work (β ω α : Type) := Action (Registry β × ω) CommandError α

/-- The registry as it is. -/
def Work.registry {β ω : Type} : Work β ω (Registry β) := do
  let (registry, _) ← Action.current
  pure registry

namespace Command

/-- Check that devices of a family measure a quantity. -/
def checkQuantity (family : FamilyCode) (quantity : Quantity) : Except CommandError Unit :=
  let supported := Family.quantities family
  if supported.isEmpty then .error .familyNotSupported
  else if supported.contains quantity then .ok ()
  else .error (.unsupportedQuantity family)

/-- The command as it waits for a conversion. -/
def awaiting (command : Command) (wait now : Nat) : Command :=
  { command with phase := .result, timer := ⟨wait, now⟩ }

variable {β ω ε : Type} (lines : ChannelId → Master (β × ω) ε)

/-- The report of a failed operation on a device: the cause if its channel exists. -/
def deviceError (failed missing : CommandError) : RegistryError ε → CommandError
  | .channel .. => failed
  | .unknownChannel _ => missing

/-! ### One device -/

/-- Look for a device. -/
def seekDevice (address : Address) : Work β ω ReadOutcome := do
  let channel ← (Registry.locate lines address).mapError fun _ => .scanFailed .device
  let report : DeviceReport := { address, channel, presence := some channel.isSome }
  pure (.answer { verb := .read, device := some report })

/-- Start the conversion of a device. -/
def sampleDevice (command : Command) (address : Address) (device : Device) (quantity : Quantity)
    (now : Nat) : Work β ω ReadOutcome := do
  let wait ← (Registry.onDevice lines address device fun master =>
    Device.sample master quantity).mapError
      (deviceError (.sampleFailed address.family quantity) .deviceNotFound)
  pure (.waiting (command.awaiting wait now))

/-- Fetch the result of a device. -/
def fetchDevice (address : Address) (device : Device) (quantity : Quantity) :
    Work β ω ReadOutcome := do
  let value ← (Registry.onDevice lines address device fun master =>
    Device.read master quantity).mapError
      (deviceError (.readFailed address.family quantity) .deviceNotFound)
  let report : DeviceReport := { address, channel := some device.channel }
  pure (.answer { verb := .read, device := some (report.record quantity value) })

/-- The next phase of a read of one device. -/
def advanceDevice (command : Command) (address : Address) (quantity : Quantity) (now : Nat) :
    Work β ω ReadOutcome := do
  if quantity = .presence then seekDevice lines address
  else do
    Action.ofExcept (checkQuantity address.family quantity)
    match (← Work.registry).find? address with
    | none => Action.fail .deviceNotFound
    | some device =>
      match command.phase with
      | .result => fetchDevice lines address device quantity
      | _ => sampleDevice lines command address device quantity now

/-! ### A family -/

/-- Look for the devices of a family. -/
def seekFamily (family : FamilyCode) : Work β ω ReadOutcome := do
  (Registry.scan lines (some family)).mapError fun _ => .scanFailed .family
  let devices := (← Work.registry).ofFamily family
  let reports : List DeviceReport := devices.entries.map fun (_, device) =>
    { address := device.address, channel := some device.channel, presence := some true }
  pure (.answer { verb := .read, family := some family, devices := some reports })

/-- Start one conversion on each of some channels. The result is the last time to wait. -/
def sampleChannels (family : FamilyCode) (failed : CommandError) :
    List ChannelId → Nat → Work β ω Nat
  | [], wait => pure wait
  | id :: rest, _ => do
    let wait ← (Registry.onChannel id (Device.sampleFamily (lines id) family)).mapError
      fun _ => failed
    sampleChannels family failed rest wait

/-- Start the conversions of some devices. The result is the longest time to wait. -/
def sampleDevices (quantity : Quantity) (failed : CommandError) :
    List (Address × Device) → Nat → Work β ω Nat
  | [], longest => pure longest
  | (address, device) :: rest, longest => do
    let wait ← (Registry.onDevice lines address device fun master =>
      Device.sample master quantity).mapError fun _ => failed
    sampleDevices quantity failed rest (max longest wait)

/-- Start the conversions of a family: temperatures on each channel at once, other quantities on
each device. -/
def sampleFamily (command : Command) (family : FamilyCode) (quantity : Quantity) (now : Nat) :
    Work β ω ReadOutcome := do
  let known ← Work.registry
  let failed := CommandError.sampleFailed family quantity
  let wait ←
    if quantity = .temperature then sampleChannels lines family failed (known.hosting family) 0
    else sampleDevices lines quantity failed (known.ofFamily family).entries 0
  pure (.waiting (command.awaiting wait now))

/-- Fetch the results of some devices. -/
def fetchDevices (quantity : Quantity) (failed : CommandError) :
    List (Address × Device) → Work β ω (List DeviceReport)
  | [] => pure []
  | (address, device) :: rest => do
    let value ← (Registry.onDevice lines address device fun master =>
      Device.read master quantity).mapError fun _ => failed
    let report : DeviceReport := { address := device.address, channel := some device.channel }
    let others ← fetchDevices quantity failed rest
    pure (report.record quantity value :: others)

/-- Fetch the results of a family: all of them or none. -/
def fetchFamily (family : FamilyCode) (quantity : Quantity) : Work β ω ReadOutcome := do
  let known ← Work.registry
  let reports ← fetchDevices lines quantity (.readFailed family quantity)
    (known.ofFamily family).entries
  pure (.answer { verb := .read, family := some family, devices := some reports })

/-- The next phase of a read of a family. -/
def advanceFamily (command : Command) (family : FamilyCode) (quantity : Quantity) (now : Nat) :
    Work β ω ReadOutcome := do
  if quantity = .presence then seekFamily lines family
  else do
    Action.ofExcept (checkQuantity family quantity)
    if ((← Work.registry).ofFamily family).isEmpty then Action.fail .noFamilyDevices
    else
      match command.phase with
      | .result => fetchFamily lines family quantity
      | _ => sampleFamily lines command family quantity now

/-- The next phase of a read. -/
def advance (command : Command) (now : Nat) : Work β ω ReadOutcome :=
  match command.quantity with
  | none => Action.fail .missingQuantity
  | some quantity =>
    match command.device, command.family with
    | some address, none => advanceDevice lines command address quantity now
    | none, some family => advanceFamily lines command family quantity now
    | some _, some _ => Action.fail .conflictingSelector
    | none, none => Action.fail .missingSelector

end Command

end WireBridge
