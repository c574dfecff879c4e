/-
**Why commands fail.**

* `CommandError`: the causes, with their messages;
* `CommandError.severity`: a repeated subscription is only a warning.
-/

import WireBridge.Device.Quantity

namespace WireBridge

/-- What a scan was looking for. -/
inductive ScanScope where
  | device
  | family
  | all
deriving DecidableEq

/-- The name of a scope in diagnostics. -/
def ScanScope.name : ScanScope → String
  | .device => "Device"
  | .family => "Family"
  | .all => "All"

/-- Why a command failed. -/
inductive CommandError where
  /-- The request is no JSON object. -/
  | malformed
  /-- The verb is missing or unknown. -/
  | unknownVerb
  /-- The device or family is malformed or missing. -/
  | invalidSelector
  /-- The quantity is malformed or missing. -/
  | invalidQuantity
  /-- The period is malformed or missing. -/
  | invalidInterval
  /-- Both a device and a family are named. -/
  | conflictingSelector
  /-- Neither a device nor a family is named. -/
  | missingSelector
  /-- No quantity is named. -/
  | missingQuantity
  /-- No quantity or no period is given. -/
  | missingQuantityOrInterval
  /-- Devices of the family measure nothing. -/
  | familyNotSupported
  /-- Devices of the family do not measure the quantity. -/
  | unsupportedQuantity (family : FamilyCode)
  /-- The device is not registered. -/
  | deviceNotFound
  /-- No device of the family is registered. -/
  | noFamilyDevices
  /-- A conversion could not be started. -/
  | sampleFailed (family : FamilyCode) (quantity : Quantity)
  /-- A result could not be read. -/
  | readFailed (family : FamilyCode) (quantity : Quantity)
  /-- A scan failed. -/
  | scanFailed (scope : ScanScope)
  /-- A subscription was replaced. -/
  | alreadySubscribed (family : Bool)
  /-- There is no subscription to end. -/
  | notSubscribed (family : Bool)
  /-- The queue is full. -/
  | queueFull
deriving DecidableEq

/-- How bad an error is. -/
inductive Severity where
  | error
  | warning
deriving DecidableEq

/-- The name of a severity in answers. -/
def Severity.name : Severity → String
  | .error => "error"
  | .warning => "warning"

namespace CommandError

/-- A replaced subscription is a remark on success; all else is failure. -/
def severity : CommandError → Severity
  | .alreadySubscribed _ => .warning
  | _ => .error

/-- A constructor name with a flag. -/
def flagged (cause : String) (family : Bool) : String :=
  cause ++ " \x7b family: " ++ (if family then "true" else "false") ++ " \x7d"

/-- The name in diagnostics. -/
def name : CommandError → String
  | .malformed => "Deserialize"
  | .unknownVerb => "UnknownAction"
  | .invalidSelector => "InvalidSelector"
  | .invalidQuantity => "InvalidAttribute"
  | .invalidInterval => "InvalidInterval"
  | .conflictingSelector => "ConflictingSelector"
  | .missingSelector => "MissingSelector"
  | .missingQuantity => "MissingAttribute"
  | .missingQuantityOrInterval => "MissingAttributeOrInterval"
  | .familyNotSupported => "FamilyNotSupported"
  | .unsupportedQuantity family => s!"UnsupportedAttribute({family.toNat})"
  | .deviceNotFound => "DeviceNotFound"
  | .noFamilyDevices => "NoFamilyDevices"
  | .sampleFailed family quantity => s!"SampleFailed({family.toNat}, {quantity.tag})"
  | .readFailed family quantity => s!"ReadFailed({family.toNat}, {quantity.tag})"
  | .scanFailed scope => s!"ScanFailed({scope.name})"
  | .alreadySubscribed family => flagged "AlreadySubscribed" family
  | .notSubscribed family => flagged "NotSubscribed" family
  | .queueFull => "QueueFull"

/-- The part that a family stands for, or the kind of bus. -/
def partName (family : FamilyCode) : String := (Family.partName? family).getD "1-Wire"

/-- The message for a client. -/
def message : CommandError → String
  | .malformed => "Failed to deserialize message."
  | .unknownVerb => "Unknown/Unsupported action."
  | .invalidSelector => "Missing or invalid JSON attributes 'device_id' or 'family_code'."
  | .invalidQuantity => "Missing or invalid JSON attribute 'attribute'."
  | .invalidInterval => "Missing or invalid JSON attribute 'interval'."
  | .conflictingSelector => "device_id or family_code must be exclusively set"
  | .missingSelector => "Missing device_id or family_code parameter"
  | .missingQuantity => "Missing device_attribute parameter"
  | .missingQuantityOrInterval => "Missing device_attribute or interval parameter"
  | .familyNotSupported => "Action 'read' for device family not supported"
  | .unsupportedQuantity family =>
    match Family.partName? family with
    | some part => s!"Unsupported device attribute for {part}."
    | none => "Unsupported device attribute."
  | .deviceNotFound =>
    "1-Wire device not found / available. Manual scan might be necessary before."
  | .noFamilyDevices => "No 1-Wire devices of the requested family available."
  | .sampleFailed family quantity =>
    s!"Failed to start {partName family} {quantity.name} sampling."
  | .readFailed family quantity => s!"Failed to get {partName family} {quantity.name}."
  | .scanFailed .device => "Failed to scan 1-wire device availability."
  | .scanFailed .family => "Failed to scan 1-wire device family availability."
  | .scanFailed .all => "Failed to scan 1-wire devices availability."
  | .alreadySubscribed false =>
    "WARN: Already subscribed to device / attribute. Updating subscription."
  | .alreadySubscribed true =>
    "WARN: Already subscribed to device family / attribute. Updating subscription."
  | .notSubscribed false => "No subscription for requested device / attribute found."
  | .notSubscribed true => "No subscription for requested device family / attribute found."
  | .queueFull => "Command queue full."

instance : Diagnostic CommandError := ⟨name, message⟩

end CommandError

end WireBridge
