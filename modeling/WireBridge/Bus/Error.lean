/-
**Errors on a 1-Wire line.**

`BusError ε` joins the errors of the bus master's own hardware, of type `ε`, with the conditions
that every line can show.
-/

import WireBridge.Action

namespace WireBridge

/-- Why an operation on a 1-Wire line failed. -/
inductive BusError (ε : Type) where
  /-- The hardware of the bus master failed. -/
  | other (error : ε)
  /-- No device answered a reset. -/
  | noDevicePresent
  /-- The line is shorted. -/
  | shortCircuit
  /-- The bus master has not been configured. -/
  | busUninitialized
  /-- The bus master cannot do what was asked, such as a triplet. -/
  | unimplemented
  /-- A ROM code or a scratchpad does not fit its check byte. -/
  | invalidCrc
  /-- The device is of another family than its driver serves. -/
  | invalidFamily
deriving DecidableEq

instance {ε : Type} [Diagnostic ε] : Diagnostic (BusError ε) where
  name
    | .other error => s!"Other({Diagnostic.name error})"
    | .noDevicePresent => "NoDevicePresent"
    | .shortCircuit => "ShortCircuit"
    | .busUninitialized => "BusUninitialized"
    | .unimplemented => "Unimplemented"
    | .invalidCrc => "InvalidCrc"
    | .invalidFamily => "InvalidFamily"
  message
    | .other error => s!"bus master error: {Diagnostic.name error}"
    | .noDevicePresent => "no presence pulse"
    | .shortCircuit => "short circuit on the 1-Wire line"
    | .busUninitialized => "bus master not configured"
    | .unimplemented => "operation not supported by the bus master"
    | .invalidCrc => "CRC mismatch"
    | .invalidFamily => "unexpected device family"

end WireBridge
