/-
**Commands to a bridge.**

A command asks for something, names a device or a family where that is needed, and names the sinks
to which its answer goes. Commands that take time carry a phase and a timer and are looked at again
later.

* `Command`: the command;
* `Command.plainRead`: the plain read that a subscription repeats;
* `Command.check`: the parameters that each verb needs.
-/

import WireBridge.Command.Error
import WireBridge.Schedule.Timer

namespace WireBridge

/-- What a command asks for. -/
inductive Verb where
  /-- Acknowledge and restart the bridge. -/
  | restart
  /-- Look for devices. -/
  | scan
  /-- Measure a quantity. -/
  | read
  /-- Measure a quantity periodically. -/
  | subscribe
  /-- Stop a periodic measurement. -/
  | unsubscribe
deriving DecidableEq, Inhabited

namespace Verb

/-- All verbs. -/
def all : List Verb := [.restart, .scan, .read, .subscribe, .unsubscribe]

/-- The name in requests and answers. -/
def name : Verb → String
  | .restart => "restart"
  | .scan => "scan"
  | .read => "read"
  | .subscribe => "subscribe"
  | .unsubscribe => "unsubscribe"

/-- The verb of a name. -/
def ofName? (name : String) : Option Verb := all.find? fun verb => verb.name == name

end Verb

/-- How far a read has come. -/
inductive ReadPhase where
  /-- It has not been looked at. -/
  | initial
  /-- The conversion is to be started. -/
  | sampling
  /-- The result is to be fetched. -/
  | result
deriving DecidableEq, Inhabited

/-- The name of a phase in diagnostics. -/
def ReadPhase.name : ReadPhase → String
  | .initial => "None"
  | .sampling => "TriggerSampling"
  | .result => "ReadResult"

/-- Where answers go. -/
abbrev Sink := Nat

/-- A command. One without parameters is due at once. -/
structure Command where
  /-- What it asks for. -/
  verb : Verb
  /-- How far a read has come. -/
  phase : ReadPhase := .initial
  /-- The device it is about. -/
  device : Option Address := none
  /-- The family it is about. -/
  family : Option FamilyCode := none
  /-- The quantity it is about. -/
  quantity : Option Quantity := none
  /-- The period of a subscription in milliseconds. -/
  interval : Option Nat := none
  /-- When it is to be looked at again. -/
  timer : Timer := .idle
  /-- Where its result goes. -/
  results : Sink
  /-- Where its errors go. -/
  errors : Sink
deriving DecidableEq, Inhabited

namespace Command

/-- The plain read that a subscription repeats. -/
def plainRead (command : Command) : Command :=
  { command with verb := .read, phase := .initial, interval := none, timer := .idle }

/-- Whether the command names a device or a family. -/
def selects (command : Command) : Bool := command.device.isSome || command.family.isSome

/-- Check the parameters that the verb needs. -/
def check (command : Command) : Except CommandError Unit :=
  if command.device.isSome && command.family.isSome then .error .conflictingSelector
  else
    match command.verb with
    | .restart => .ok ()
    | .scan => .ok ()
    | .read => measured .missingQuantity command.quantity.isSome
    | .unsubscribe => measured .missingQuantity command.quantity.isSome
    | .subscribe =>
      measured .missingQuantityOrInterval (command.quantity.isSome && command.interval.isSome)
where
  /-- The check of verbs about a quantity: the parameters first, then the selector. -/
  measured (absent : CommandError) (complete : Bool) : Except CommandError Unit :=
    if !complete then .error absent
    else if !command.selects then .error .missingSelector
    else .ok ()

end Command

end WireBridge
