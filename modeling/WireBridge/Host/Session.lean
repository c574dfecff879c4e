/-
**Requests and answers as lines of text.**

A session takes requests, one on each line, and writes answers, one on each line. A round takes the
lines that have arrived and lets the bridge take one turn. A restart ends the session in the
middle of its round, right after it was acknowledged.

* `Session.take`: one line;
* `Session.round`: one round;
* `Session.loop`: rounds until the program ends, and how it ends;
* `Session.run`: the rounds of a session whose requests have all arrived at the start;
* `Session.simulation?`: a bridge with simulated channels.
-/

import WireBridge.Bridge.Turn
import WireBridge.Command.Request
import WireBridge.Host.CommandLine
import WireBridge.Sim.Line
import WireBridge.Text.Blank

namespace WireBridge

/-- The line that tells an answer. -/
def Delivery.line : Delivery → String
  | .result _ response => response.toValue.text
  | .error _ report => report.toValue.text

/-- The configuration for some options, given the contents of the file that they name. -/
def Options.configure? (options : Options) (stored : Option String) : Option Config := do
  let config ← stored.elim (some Config.default) Config.read?
  pure (if options.initialScan then config else { config with initialScan := false })

namespace Session

variable {β ω ε : Type}

/-! ### Rounds -/

/-- The lines that are written, and whether the session is over. -/
structure Output where
  /-- The lines. -/
  written : List String
  /-- A restart was acknowledged. -/
  restart : Bool

/-- The sink of all answers. -/
def sink : Sink := 0

/-- Take a line. Blank lines mean nothing. A request that is not understood, that lacks a parameter
or that finds the queue full is answered at once. -/
def take (bridge : Bridge β) (line : String) : List String × Bridge β :=
  let text := Text.trimmed line
  if text.isEmpty then ([], bridge)
  else
    match Command.parse text sink sink with
    | .error report => ([report.toValue.text], bridge)
    | .ok command =>
      match bridge.accept command with
      | (.error .queueFull, deliveries, after) =>
        (deliveries.map Delivery.line ++
          [(CommandError.queueFull.report (some (.text text))).toValue.text], after)
      | (_, deliveries, after) => (deliveries.map Delivery.line, after)

/-- Take lines in order. -/
def takeAll (bridge : Bridge β) : List String → List String × Bridge β
  | [] => ([], bridge)
  | line :: rest =>
    let (written, after) := take bridge line
    let (more, last) := takeAll after rest
    (written ++ more, last)

variable (lines : ChannelId → Master (β × ω) ε)

/-- Take the lines that have arrived and let the bridge take a turn. -/
def round (arrived : List String) (now : Nat) (state : Bridge β × ω) :
    Output × Bridge β × ω :=
  let (answered, accepted) := takeAll state.1 arrived
  let (turn, ran, reached) := Bridge.runNext lines now (accepted, state.2)
  let written := answered ++ turn.deliveries.map Delivery.line
  if turn.restart then (⟨written, true⟩, ran, reached)
  else
    let (scheduled, woken) := ran.wake now
    (⟨written ++ scheduled.deliveries.map Delivery.line, false⟩, woken, reached)

/-- Whether nothing is left to do. -/
def idle (bridge : Bridge β) : Bool :=
  bridge.queue.items.isEmpty && bridge.subscriptions.isEmpty

/-- What a round finds: the lines that have arrived, whether the input has ended, and the time. -/
structure Look where
  /-- The lines. -/
  arrived : List String
  /-- The input has ended. -/
  closed : Bool
  /-- The time in milliseconds. -/
  now : Nat

/-- How the program ends. -/
inductive Ending where
  /-- By a restart. -/
  | restart
  /-- By itself, because nothing is left to do. -/
  | finished
deriving DecidableEq

/-- Whether the program ends after a round. -/
def ending? (closed restart : Bool) (bridge : Bridge β) : Option Ending :=
  if restart then some .restart
  else if closed && idle bridge then some .finished
  else none

/-- Rounds until the program ends: the lines that are written, and how it ends. -/
def loop : List Look → Bridge β × ω → List String × Option Ending
  | [], _ => ([], none)
  | look :: rest, state =>
    let (output, reached) := round lines look.arrived look.now state
    match ending? look.closed output.restart reached.1 with
    | some ending => (output.written, some ending)
    | none =>
      let (more, ending) := loop rest reached
      (output.written ++ more, ending)

/-- What the rounds of a session find whose requests have all arrived at the start: the requests,
and then a number of times nothing more, a millisecond later each time. -/
def batch (rounds : Nat) (requests : List String) : List Look :=
  ⟨requests, true, 0⟩ :: (List.range rounds).map fun now => ⟨[], true, now + 1⟩

/-- The lines written in a session whose requests have all arrived at the start. -/
def run (rounds : Nat) (requests : List String) (state : Bridge β × ω) : List String :=
  (loop lines (batch rounds requests) state).1

/-! ### Simulated lines -/

/-- Simulated lines as bus masters. -/
def simulationLines (_ : ChannelId) : Master (Sim.Line × Unit) Empty := Sim.master.beside

/-- Four simulated channels: a thermometer and a serial number on the first, a battery monitor on
the second. -/
def simulationChannels : List (Channel Sim.Line) :=
  let first := (Sim.Line.empty.attach (.ofParts Family.thermometer 0x00010203)
      (.thermometer 21.5 Sim.thermometerPowerOn)).attach
    (.ofParts Family.serialNumber 0x00c0ffee) .presenceOnly
  let second := Sim.Line.empty.attach (.ofParts Family.batteryMonitor 0x00040506)
    (.batteryMonitor 23.0 1.25 4.98 Sim.monitorPowerOn)
  [⟨1, first, []⟩, ⟨2, second, []⟩, ⟨3, .empty, []⟩, ⟨4, .empty, []⟩]

/-- A bridge with simulated channels. A first scan that fails is no obstacle. -/
def simulation? (config : Config) : Option (Bridge Sim.Line × Unit) :=
  let (_, (registry, _)) :=
    (Registry.start simulationLines config).perform (Registry.ofChannels simulationChannels, ())
  (Bridge.ofRegistry? registry config.queueCapacity.toNat).map (·, ())

end Session

end WireBridge
