/-
**Requests in JSON.**

A request is an object whose members give a command: `action` names the verb, `device_id` or
`family_code` names what it is about, `attribute` the quantity and `interval` the period. Members
that the verb does not need are ignored.

* `Command.ofMembers?`: the command that members give, or the first thing that is wrong with them,
  in the order verb, selector, quantity, period;
* `Command.parse`: the command of a request text. Errors carry the text.
-/

import WireBridge.Command.Answer

namespace WireBridge

open Json (Value)

namespace Command

/-- The members of a request by their keys. -/
abbrev Members := String → Option Value

/-- The text of a member. -/
def stringMember? (members : Members) (key : String) : Option String :=
  (members key).bind Value.string?

/-- The verb of a request. -/
def verb? (members : Members) : Except CommandError Verb :=
  match (stringMember? members "action").bind Verb.ofName? with
  | some verb => .ok verb
  | none => .error .unknownVerb

/-- The device that a member names. -/
def deviceOf? (value : Value) : Option Address :=
  value.string?.bind fun text => (Address.parse text).toOption

/-- The family that a member names. -/
def familyOf? (value : Value) : Option FamilyCode :=
  value.natural?.bind fun number => if number < 256 then some (UInt8.ofNat number) else none

/-- A command with what the request is about: a device or a family, but not both, and neither only
if none is required. -/
def selector? (members : Members) (required : Bool) (command : Command) :
    Except CommandError Command :=
  match members "device_id", members "family_code" with
  | some _, some _ => .error .conflictingSelector
  | some device, none =>
    match deviceOf? device with
    | some address => .ok { command with device := some address }
    | none => .error .invalidSelector
  | none, some family =>
    match familyOf? family with
    | some code => .ok { command with family := some code }
    | none => .error .invalidSelector
  | none, none => if required then .error .invalidSelector else .ok command

/-- A command with the quantity of the request. -/
def quantity? (members : Members) (command : Command) : Except CommandError Command :=
  match (stringMember? members "attribute").bind Quantity.ofName? with
  | some quantity => .ok { command with quantity := some quantity }
  | none => .error .invalidQuantity

/-- Whether a number may be a period: positive, in 32 bits. -/
def intervalAllowed (number : Nat) : Bool := 0 < number && number < Nat.pow 2 32

/-- A command with the period of the request. -/
def interval? (members : Members) (command : Command) : Except CommandError Command :=
  match ((members "interval").bind Value.natural?).filter intervalAllowed with
  | some interval => .ok { command with interval := some interval }
  | none => .error .invalidInterval

/-- The command that members give. -/
def ofMembers? (members : Members) (results errors : Sink) : Except CommandError Command := do
  let verb ← verb? members
  let command : Command := { verb, results, errors }
  match verb with
  | .restart => pure command
  | .scan => selector? members false command
  | .read => selector? members true command >>= quantity? members
  | .unsubscribe => selector? members true command >>= quantity? members
  | .subscribe => selector? members true command >>= quantity? members >>= interval? members

/-- The command of a request text, or why there is none. -/
def ofText? (text : String) (results errors : Sink) : Except CommandError Command :=
  match (Value.read? text).bind Value.members? with
  | some members => ofMembers? (Value.lookup members) results errors
  | none => .error .malformed

/-- The command of a request text, or a report with the text. -/
def parse (text : String) (results errors : Sink) : Except ErrorReport Command :=
  (ofText? text results errors).mapError fun error => error.report (some (.text text))

end Command

end WireBridge
