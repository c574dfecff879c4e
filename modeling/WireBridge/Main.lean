/-
**The program.**

Requests are read from standard input and answers are written to standard output, one on each line.
The bridge runs on simulated lines; access to bridge chips on a two-wire bus of this machine is not
part of the program, so without simulation it ends at once.

Exit codes: 0 at the end of the input when nothing is left to do and after a restart, 1 if the
bridge cannot be set up, 2 after a command line that is wrong.
-/

import WireBridge.Host.Session

namespace WireBridge.Program

/-- Tell why the program ends. -/
def stop (code : UInt32) (reason : String) : IO UInt32 := do
  IO.eprintln reason
  pure code

/-- The lines that have arrived since the last look, and the task that waits for the next one, if
the input has not ended. -/
partial def arrivals (input : IO.FS.Stream) (waiting : Task (Except IO.Error String)) :
    IO (List String × Option (Task (Except IO.Error String))) := do
  if ← IO.hasFinished waiting then
    match waiting.get with
    | .error _ => pure ([], none)
    | .ok "" => pure ([], none)
    | .ok line => do
      let (lines, next) ← arrivals input (← IO.asTask input.getLine)
      pure (line :: lines, next)
  else pure ([], some waiting)

/-- Rounds until the input has ended and nothing is left to do, or until a restart. -/
partial def rounds (input output : IO.FS.Stream) (started : Nat)
    (waiting : Option (Task (Except IO.Error String))) (state : Bridge Sim.Line × Unit) :
    IO UInt32 := do
  let (lines, next) ← match waiting with
    | none => pure ([], none)
    | some task => arrivals input task
  let now := (← IO.monoMsNow) - started
  let (written, reached) := Session.round Session.simulationLines lines now state
  for line in written.written do
    output.putStr (line ++ "\n")
  output.flush
  match Session.ending? next.isNone written.restart reached.1 with
  | some _ => pure 0
  | none => do
    IO.sleep 1
    rounds input output started next reached

/-- Run a bridge with some options. -/
def start (options : Options) : IO UInt32 := do
  let stored ← match options.config with
    | none => pure none
    | some path =>
      try
        pure (some (some (← IO.FS.readFile path)))
      catch _ => pure (some none)
  match stored with
  | some none => stop 1 "configuration cannot be read"
  | _ =>
    match options.configure? stored.join with
    | none => stop 1 "invalid configuration"
    | some config =>
      if !options.simulate then stop 1 s!"{options.path} cannot be used"
      else
        match Session.simulation? config with
        | none => stop 1 "the command queue cannot be had"
        | some state => do
          let input ← IO.getStdin
          let output ← IO.getStdout
          let waiting ← IO.asTask input.getLine
          rounds input output (← IO.monoMsNow) (some waiting) state

end WireBridge.Program

open WireBridge in
/-- Start the bridge that the command line asks for. -/
def main (words : List String) : IO UInt32 := do
  match Options.parse words with
  | .ok options => Program.start options
  | .error usage =>
    Program.stop usage.exitCode.toUInt32
      "usage: wire-bridge [-p PATH] [-m ADDRESS] [-c FILE] [--no-initial-scan] [--simulate]"
