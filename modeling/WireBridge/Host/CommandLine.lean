/-
**The command line.**

The bridge is started with settings, which take a value, and switches, which do not. A value follows
its setting as the next word, after an equals sign, or directly after a one-letter name. Everything
may be given once. Words are taken in order, so the first thing that is wrong decides.

* `Options`: how the bridge is started;
* `Options.parse`: the options that some words give;
* `Usage`: why the bridge is not started.
-/

import WireBridge.I2c.Basic
import WireBridge.Text.Hex

namespace WireBridge

/-- How the bridge is started. -/
structure Options where
  /-- The device file of the two-wire bus. -/
  path : String
  /-- The address of the switch. -/
  mux : I2c.PeerAddress
  /-- The file with the configuration. -/
  config : Option String
  /-- Look for devices at the start if the configuration says so. -/
  initialScan : Bool
  /-- Use simulated lines. -/
  simulate : Bool
deriving DecidableEq

/-- Why the bridge is not started. -/
inductive Usage where
  /-- The usage was asked for. -/
  | help
  /-- The version was asked for. -/
  | version
  /-- A word means nothing here. -/
  | unknown (word : String)
  /-- A setting has no value. -/
  | missingValue
  /-- A switch has a value. -/
  | unexpectedValue
  /-- A value does not fit its setting. -/
  | invalidValue (value : String)
  /-- Something is given twice. -/
  | repeated
deriving DecidableEq

/-- The exit code after a command line that does not start the bridge. -/
def Usage.exitCode : Usage → UInt8
  | .help => 0
  | .version => 0
  | _ => 2

namespace CommandLine

/-! ### Words -/

/-- What takes a value. -/
inductive Setting where
  | path
  | mux
  | config
deriving DecidableEq

/-- What takes no value. -/
inductive Switch where
  | noInitialScan
  | simulate
  | help
  | version
deriving DecidableEq

/-- What a name stands for. -/
inductive Named where
  | setting (setting : Setting)
  | switch (switch : Switch)
deriving DecidableEq

/-- The meaning of a long name. -/
def ofLong? : String → Option Named
  | "path" => some (.setting .path)
  | "mux-address" => some (.setting .mux)
  | "config" => some (.setting .config)
  | "no-initial-scan" => some (.switch .noInitialScan)
  | "simulate" => some (.switch .simulate)
  | "help" => some (.switch .help)
  | "version" => some (.switch .version)
  | _ => none

/-- The meaning of a one-letter name. -/
def ofShort? : Char → Option Named
  | 'p' => some (.setting .path)
  | 'm' => some (.setting .mux)
  | 'c' => some (.setting .config)
  | 'h' => some (.switch .help)
  | 'V' => some (.switch .version)
  | _ => none

/-- The shape of a word. -/
inductive Word where
  /-- Two dashes: no names follow. -/
  | separator
  /-- A long name, and the value after an equals sign. -/
  | long (name : String) (value : Option String)
  /-- A one-letter name and what follows it directly. -/
  | short (name : Char) (rest : List Char)
  /-- Any other word. -/
  | plain

/-- The shape of a word. A single dash is no name. -/
def Word.ofText (text : String) : Word :=
  match text.toList with
  | ['-', '-'] => .separator
  | '-' :: '-' :: chars =>
    let name := chars.takeWhile (· != '=')
    let value := match chars.dropWhile (· != '=') with
      | [] => none
      | _ :: rest => some (String.ofList rest)
    .long (String.ofList name) value
  | '-' :: name :: rest => .short name rest
  | _ => .plain

/-- The value directly after a one-letter name; an equals sign may stand between. -/
def attached? : List Char → Option String
  | [] => none
  | '=' :: rest => some (String.ofList rest)
  | rest => some (String.ofList rest)

/-! ### Values -/

/-- The number that digits of a base write, with an optional plus sign. -/
def natural? (base : Nat) (chars : List Char) : Option Nat :=
  let digits := match chars with
    | '+' :: rest => rest
    | _ => chars
  if digits.isEmpty then none
  else digits.foldlM (fun above char => do
    let digit ← (Hex.value? char).filter (· < base)
    pure (base * above + digit)) 0

/-- The address that a text writes in decimal, or in hexadecimal after `0x`. -/
def address? (text : String) : Option I2c.PeerAddress :=
  let number := match text.toList with
    | '0' :: 'x' :: digits => natural? 16 digits
    | digits => natural? 10 digits
  (number.filter (· < 256)).map UInt8.ofNat

/-! ### Reading -/

/-- What was given so far. -/
structure Draft where
  path : Option String
  mux : Option I2c.PeerAddress
  config : Option String
  noInitialScan : Bool
  simulate : Bool

/-- Nothing was given. -/
def Draft.empty : Draft := ⟨none, none, none, false, false⟩

/-- Give a setting its value. -/
def Draft.assign (draft : Draft) (value : String) : Setting → Except Usage Draft
  | .path =>
    if draft.path.isSome then .error .repeated else .ok { draft with path := some value }
  | .mux =>
    if draft.mux.isSome then .error .repeated
    else
      match address? value with
      | some address => .ok { draft with mux := some address }
      | none => .error (.invalidValue value)
  | .config =>
    if draft.config.isSome then .error .repeated
    else if value.isEmpty then .error (.invalidValue value)
    else .ok { draft with config := some value }

/-- Set a switch. -/
def Draft.set (draft : Draft) : Switch → Except Usage Draft
  | .noInitialScan =>
    if draft.noInitialScan then .error .repeated else .ok { draft with noInitialScan := true }
  | .simulate => if draft.simulate then .error .repeated else .ok { draft with simulate := true }
  | .help => .error .help
  | .version => .error .version

/-- What a word leads to. -/
inductive Progress where
  /-- More may be given. -/
  | next (draft : Draft)
  /-- The value of a setting must follow. -/
  | await (draft : Draft) (setting : Setting)
  /-- Nothing may follow. -/
  | last (draft : Draft)

/-- A word where a name is expected. -/
def take (draft : Draft) (text : String) : Except Usage Progress :=
  match Word.ofText text with
  | .separator => .ok (.last draft)
  | .plain => .error (.unknown text)
  | .long name value =>
    match ofLong? name, value with
    | some (.setting setting), some value => (draft.assign value setting).map .next
    | some (.setting setting), none => .ok (.await draft setting)
    | some (.switch switch), none => (draft.set switch).map .next
    | some (.switch _), some _ => .error .unexpectedValue
    | none, _ => .error (.unknown text)
  | .short name rest =>
    match ofShort? name, attached? rest with
    | some (.setting setting), some value => (draft.assign value setting).map .next
    | some (.setting setting), none => .ok (.await draft setting)
    | some (.switch switch), _ => (draft.set switch).map .next
    | none, _ => .error (.unknown text)

/-- A word after what was given so far. -/
def advance (progress : Progress) (text : String) : Except Usage Progress :=
  match progress with
  | .next draft => take draft text
  | .await draft setting =>
    match Word.ofText text with
    | .plain => (draft.assign text setting).map .next
    | _ => .error .missingValue
  | .last _ => .error (.unknown text)

/-- The options of a draft. -/
def Draft.options (draft : Draft) : Options :=
  { path := draft.path.getD "/dev/i2c-1"
    mux := draft.mux.getD 0x70
    config := draft.config
    initialScan := !draft.noInitialScan
    simulate := draft.simulate }

end CommandLine

open CommandLine in
/-- The options that some words give. -/
def Options.parse (words : List String) : Except Usage Options := do
  match ← words.foldlM advance (.next .empty) with
  | .next draft => pure draft.options
  | .last draft => pure draft.options
  | .await .. => throw .missingValue

end WireBridge
