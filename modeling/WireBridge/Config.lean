/-
**The configuration of a bridge.**

A configuration is stored as a JSON object. Every field may be left out and then has its default;
unknown fields are ignored. An object may also be written as an array of its fields in their order.

* `Config`, `Timing`: the settings and their defaults;
* `Config.text`: a configuration as stored;
* `Config.read?`: the configuration that a text stores.
-/

import WireBridge.Bus.Master
import WireBridge.Json.Value

namespace WireBridge

/-- The codes of the 1-Wire port that a bridge programs on every channel. -/
structure Timing where
  resetLow : UInt8
  presenceDetect : UInt8
  writeZeroLow : UInt8
  writeZeroRecovery : UInt8
  weakPullup : UInt8
deriving DecidableEq

/-- The configuration of a bridge. -/
structure Config where
  /-- Which channels are in use, the first channel first. -/
  channels : Vector Bool 4
  /-- Look for devices at the start. -/
  initialScan : Bool
  /-- Drive rising edges. -/
  activePullup : Bool
  /-- Supply power after commands. -/
  strongPullup : Bool
  /-- The codes of the port. -/
  timing : Timing
  /-- How many commands the queue holds. -/
  queueCapacity : UInt64
deriving DecidableEq

namespace Json.Document

/-- The truth value that a tree is. -/
def bool? : Document → Option Bool
  | .bool value => some value
  | _ => none

/-- The natural number that a tree is. -/
def natural? : Document → Option Nat
  | .number literal => literal.natural?
  | _ => none

/-- The byte that a tree is. -/
def byte? (tree : Document) : Option UInt8 := do
  let number ← natural? tree
  if number < 256 then some (UInt8.ofNat number) else none

/-- The members of an object with their names. -/
def named? (members : List (StringLiteral × Document)) : Option (List (String × Document)) :=
  members.mapM fun (key, value) => (StringLiteral.string? key).map (·, value)

/-- The known fields of a record with their trees: members of an object, none of them twice, or
items of an array in the order of the fields. -/
def fields? (names : List String) : Document → Option (List (String × Document))
  | .object members => do
    let all ← named? members
    let known := all.filter fun field => names.contains field.1
    if known.map Prod.fst |>.Nodup then some known else none
  | .array items => if items.length ≤ names.length then some (names.zip items) else none
  | _ => none

end Json.Document

open Json (Document Value)

namespace Timing

/-- The codes at power-on. -/
def powerOn : Timing := ⟨6, 6, 6, 6, 6⟩

/-- The names of the fields. -/
def names : List String :=
  ["reset_low", "presence_detect", "write_zero_low", "write_zero_recovery", "weak_pullup"]

/-- The codes with one field replaced. -/
def assign? (timing : Timing) (field : String × Document) : Option Timing := do
  let code ← field.2.byte?
  match field.1 with
  | "reset_low" => some { timing with resetLow := code }
  | "presence_detect" => some { timing with presenceDetect := code }
  | "write_zero_low" => some { timing with writeZeroLow := code }
  | "write_zero_recovery" => some { timing with writeZeroRecovery := code }
  | "weak_pullup" => some { timing with weakPullup := code }
  | _ => none

/-- The codes that a tree stores. -/
def ofDocument? (tree : Document) : Option Timing := do
  let fields ← tree.fields? names
  fields.foldlM assign? powerOn

/-- The codes as stored. -/
def toValue (timing : Timing) : Value :=
  .object [("reset_low", .ofNat timing.resetLow.toNat),
    ("presence_detect", .ofNat timing.presenceDetect.toNat),
    ("write_zero_low", .ofNat timing.writeZeroLow.toNat),
    ("write_zero_recovery", .ofNat timing.writeZeroRecovery.toNat),
    ("weak_pullup", .ofNat timing.weakPullup.toNat)]

/-- The codes that a text stores. -/
def read? (text : String) : Option Timing := do
  let tree ← Document.read? text
  ofDocument? tree

end Timing

namespace Config

/-- The configuration of a bridge that was told nothing. -/
def default : Config := ⟨Vector.replicate 4 true, true, true, false, .powerOn, 100⟩

/-- The names of the fields. -/
def names : List String :=
  ["channels", "run_initial_scan", "active_pullup", "strong_pullup", "timing", "queue_capacity"]

/-- Exactly four truth values. -/
def channels? : Document → Option (Vector Bool 4)
  | .array [first, second, third, fourth] => do
    let first ← first.bool?
    let second ← second.bool?
    let third ← third.bool?
    let fourth ← fourth.bool?
    pure #v[first, second, third, fourth]
  | _ => none

/-- The configuration with one field replaced. -/
def assign? (config : Config) (field : String × Document) : Option Config :=
  match field.1 with
  | "channels" => (channels? field.2).map fun channels => { config with channels := channels }
  | "run_initial_scan" => field.2.bool?.map fun run => { config with initialScan := run }
  | "active_pullup" => field.2.bool?.map fun active => { config with activePullup := active }
  | "strong_pullup" => field.2.bool?.map fun strong => { config with strongPullup := strong }
  | "timing" => (Timing.ofDocument? field.2).map fun timing => { config with timing := timing }
  | "queue_capacity" =>
    field.2.natural?.map fun capacity => { config with queueCapacity := UInt64.ofNat capacity }
  | _ => none

/-- The configuration that a tree stores. -/
def ofDocument? (tree : Document) : Option Config := do
  let fields ← tree.fields? names
  fields.foldlM assign? default

/-- The configuration that a text stores. -/
def read? (text : String) : Option Config := do
  let tree ← Document.read? text
  ofDocument? tree

/-- The configuration as stored. -/
def toValue (config : Config) : Value :=
  .object [("channels", .array (config.channels.toList.map .bool)),
    ("run_initial_scan", .bool config.initialScan),
    ("active_pullup", .bool config.activePullup),
    ("strong_pullup", .bool config.strongPullup),
    ("timing", config.timing.toValue),
    ("queue_capacity", .ofNat config.queueCapacity.toNat)]

/-- The text that stores a configuration. -/
def text (config : Config) : String := config.toValue.text

/-- Whether a channel, counted from one, is in use. -/
def inUse (config : Config) (channel : UInt8) : Bool :=
  channel != 0 && (config.channels[channel.toNat - 1]?).getD false

/-- The configuration with one channel in use or not; there is no effect on channels that do not
exist. -/
def setChannel (config : Config) (channel : UInt8) (enabled : Bool) : Config :=
  if channel = 0 then config
  else { config with channels := config.channels.setIfInBounds (channel.toNat - 1) enabled }

end Config

end WireBridge
