/-
**Answers to commands.**

* `Response`, `DeviceReport`: what a command that succeeded tells;
* `ErrorReport`: what a command that failed tells, with an echo of the request;
* `Delivery`: an answer on its way to a sink;
* `Response.toValue`, `ErrorReport.toValue`, `Echo.toValue`: their forms in JSON, in which fields
  that say nothing are left out.
-/

import WireBridge.Command.Basic
import WireBridge.Device.Basic
import WireBridge.Json.Single
import WireBridge.Rom.Text

namespace WireBridge

open Json (Value)

/-- A field that is left out if there is nothing to say. -/
def Json.Value.optional {α : Type} (key : String) (form : α → Value) :
    Option α → List (String × Value)
  | none => []
  | some value => [(key, form value)]

/-- The name of a quantity. -/
def Quantity.toValue (quantity : Quantity) : Value := .string quantity.name

/-- A code in dotted form. -/
def Address.toValue (address : Address) : Value := .string address.text

/-- A byte as a number. -/
def Json.Value.ofByte (byte : UInt8) : Value := .ofNat byte.toNat

/-- What is told about a device: its code, and whatever else is known. -/
structure DeviceReport where
  /-- Its code. -/
  address : Address
  /-- Its channel. -/
  channel : Option ChannelId := none
  /-- Whether it answered. -/
  presence : Option Bool := none
  /-- Its temperature in degrees Celsius. -/
  temperature : Option Float32 := none
  /-- The voltage at its input. -/
  vad : Option Float32 := none
  /-- Its supply voltage. -/
  vdd : Option Float32 := none
  /-- What devices of its family measure. -/
  quantities : Option (List Quantity) := none

namespace DeviceReport

/-- The report with a measured value. -/
def record (report : DeviceReport) (quantity : Quantity) (value : Float32) : DeviceReport :=
  match quantity with
  | .presence => { report with presence := some (value != 0) }
  | .temperature => { report with temperature := some value }
  | .vad => { report with vad := some value }
  | .vdd => { report with vdd := some value }

/-- The report in JSON. -/
def toValue (report : DeviceReport) : Value :=
  .object <|
    Value.optional "channel" .ofByte report.channel ++
    ("device_id", report.address.toValue) ::
    (Value.optional "presence" .bool report.presence ++
    Value.optional "temperature" .ofSingle report.temperature ++
    Value.optional "VAD" .ofSingle report.vad ++
    Value.optional "VDD" .ofSingle report.vdd ++
    Value.optional "attributes" (fun quantities => .array (quantities.map Quantity.toValue))
      report.quantities)

end DeviceReport

/-- What a command that succeeded tells. -/
structure Response where
  /-- What was asked for. -/
  verb : Verb
  /-- The command was taken note of. -/
  acknowledged : Bool := false
  /-- The family that the command was about. -/
  family : Option FamilyCode := none
  /-- The device that the command was about. -/
  device : Option DeviceReport := none
  /-- The devices that were found or measured. -/
  devices : Option (List DeviceReport) := none

namespace Response

/-- The response in JSON. -/
def toValue (response : Response) : Value :=
  .object <|
    ("action", .string response.verb.name) ::
    ((if response.acknowledged then [("acknowledge", .bool true)] else []) ++
    Value.optional "family_code" .ofByte response.family ++
    Value.optional "device" DeviceReport.toValue response.device ++
    Value.optional "devices" (fun devices => .array (devices.map DeviceReport.toValue))
      response.devices)

end Response

/-- The parameters of a command, told with its error. -/
structure Echo where
  /-- What was asked for. -/
  verb : Verb
  /-- The device. -/
  device : Option Address
  /-- The family. -/
  family : Option FamilyCode
  /-- The quantity. -/
  quantity : Option Quantity
  /-- The period. -/
  interval : Option Nat
deriving DecidableEq

namespace Echo

/-- The parameters of a command. -/
def ofCommand (command : Command) : Echo :=
  ⟨command.verb, command.device, command.family, command.quantity, command.interval⟩

/-- The parameters in JSON. -/
def toValue (echo : Echo) : Value :=
  .object <|
    ("action", .string echo.verb.name) ::
    (Value.optional "device_id" Address.toValue echo.device ++
    Value.optional "family_code" .ofByte echo.family ++
    Value.optional "attribute" Quantity.toValue echo.quantity ++
    Value.optional "interval" .ofNat echo.interval)

end Echo

/-- What an error report says about the request. -/
inductive Request where
  /-- The text of a request that was not understood. -/
  | text (text : String)
  /-- The parameters of a command. -/
  | command (echo : Echo)
deriving DecidableEq

/-- The request in JSON. -/
def Request.toValue : Request → Value
  | .text content => .string content
  | .command echo => echo.toValue

/-- What a command that failed tells. -/
structure ErrorReport where
  /-- How bad it is. -/
  severity : Severity
  /-- What happened. -/
  message : String
  /-- What was asked for. -/
  request : Option Request
deriving DecidableEq

/-- The report of an error. -/
def CommandError.report (error : CommandError) (request : Option Request) : ErrorReport :=
  ⟨error.severity, error.message, request⟩

/-- The report of an error of a command. -/
def CommandError.reportOn (error : CommandError) (command : Command) : ErrorReport :=
  error.report (some (.command (.ofCommand command)))

namespace ErrorReport

/-- The body of the report in JSON. -/
def detail (report : ErrorReport) : Value :=
  .object <|
    ("severity", .string report.severity.name) :: ("message", .string report.message) ::
    Value.optional "request" Request.toValue report.request

/-- The report in JSON. -/
def toValue (report : ErrorReport) : Value := .object [("error", report.detail)]

end ErrorReport

/-- An answer on its way to a sink. -/
inductive Delivery where
  | result (sink : Sink) (response : Response)
  | error (sink : Sink) (report : ErrorReport)

namespace Delivery

/-- The result of a command. -/
def success (command : Command) (response : Response) : Delivery :=
  .result command.results response

/-- The failure of a command. -/
def failure (command : Command) (error : CommandError) : Delivery :=
  .error command.errors (error.reportOn command)

end Delivery

end WireBridge
