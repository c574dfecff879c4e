/-
**Discovery of the devices on a line.**

All devices send their ROM codes at once, bit by bit; where two of them differ, the bus master sees
a discrepancy and chooses which half goes on. One pass finds one code. A `Search` remembers the code
of the last pass and the last position at which it took the zero branch, so that the next pass takes
the one branch there: the passes visit the codes in increasing order of their bits, the first bit
sent being the most significant.

* `Search.next`: one pass;
* `Search.next_perform`: what a pass makes of the status of its reset;
* `Search.confirm`: a pass directed along a given code, which tells whether that device is present;
* `Search.walk`: the 64 positions of a pass, numbered from one.
-/

import WireBridge.Bus.Master

namespace WireBridge

/-- Which devices take part in a search. -/
inductive SearchKind where
  /-- All of them. -/
  | normal
  /-- Those with an alarm. -/
  | alarmed
deriving DecidableEq

/-- The command that starts a pass. -/
def SearchKind.command : SearchKind → RomCommand
  | .normal => .search
  | .alarmed => .conditionalSearch

/-- A search between two passes. -/
structure Search where
  /-- Which devices take part. -/
  kind : SearchKind
  /-- The family to which the search is restricted. -/
  family : Option FamilyCode
  /-- The code of the last pass. -/
  rom : Address
  /-- The last position at which the last pass took the zero branch of a discrepancy, or zero. -/
  lastDiscrepancy : Nat
  /-- No code is left. -/
  finished : Bool
deriving DecidableEq

namespace Search

/-- The same search before its first pass. A family search starts on the path of its family, as if
the last discrepancy had been at the last position. -/
def restart (search : Search) : Search :=
  match search.family with
  | some family =>
    { search with
      finished := false, rom := Address.ofBytes [family], lastDiscrepancy := 64 }
  | none => { search with finished := false, rom := Address.zero, lastDiscrepancy := 0 }

/-- A search of all codes, or of those of one family. -/
def start (kind : SearchKind) (family : Option FamilyCode) : Search :=
  restart ⟨kind, family, Address.zero, 0, false⟩

/-- The branch to take at a discrepancy: as in the last pass before the last discrepancy, the one
branch there, and the zero branch after it. -/
def direction (search : Search) (position : Nat) : Bool :=
  if position < search.lastDiscrepancy then search.rom.bit (position - 1)
  else position == search.lastDiscrepancy

/-- The search after a pass that took a branch at a position. -/
def follow (search : Search) (position : Nat) (taken : Bool) : Search :=
  { search with rom := search.rom.setBit (position - 1) taken }

/-- The search with no code left. -/
def finish (search : Search) : Search :=
  { search with finished := true }

/-- The outcome of a pass that went through all positions. Codes that are zero or lie past the
branch of the family end the search; a code that does not fit its check byte does not. -/
def conclude {ε : Type} (search : Search) (lastZero : Nat) :
    Except (BusError ε) (Option Address) × Search :=
  let reached := { search with lastDiscrepancy := lastZero, finished := lastZero == 0 }
  if reached.rom = Address.zero then (.ok none, reached.finish)
  else if reached.family.any (· ≠ reached.rom.family) then (.ok none, reached.finish)
  else if reached.rom.valid then (.ok (some reached.rom), reached)
  else (.error .invalidCrc, reached)

variable {σ ε : Type} (master : Master σ ε)

/-- One position, from single slots if the bus master has no triplets. -/
def slots (direction : Bool) : Action σ (BusError ε) Triplet := do
  match ← Action.attempt (master.readTriplet direction) with
  | .ok triplet => pure triplet
  | .error .unimplemented => do
    let id ← master.readBit
    let complement ← master.readBit
    let taken := if id = complement then direction else id
    if id && complement then pure ⟨id, complement, taken⟩
    else do
      master.writeBit taken
      pure ⟨id, complement, taken⟩
  | .error error => Action.fail error

/-- The last `remaining` positions of a pass. The result is the last position at which the zero
branch of a discrepancy was taken, or nothing if every device dropped out. -/
def walk (remaining lastZero : Nat) : Action (Search × σ) (BusError ε) (Option Nat) :=
  match remaining with
  | 0 => pure (some lastZero)
  | left + 1 => do
    let position := 64 - left
    let (search, _) ← Action.current
    let triplet ← Action.onSecond (slots master (search.direction position))
    if triplet.id && triplet.complement then pure none
    else do
      Action.update fun (search, line) => (search.follow position triplet.taken, line)
      walk left (if triplet.id || triplet.complement || triplet.taken then lastZero else position)

/-- End the search without a code. -/
def stop : Action (Search × σ) (BusError ε) (Option Address) := do
  Action.update fun (search, line) => (search.finish, line)
  pure none

/-- A pass after the reset. -/
def pass : Action (Search × σ) (BusError ε) (Option Address) := do
  let (search, _) ← Action.current
  Action.onSecond (master.writeByte search.kind.command.code)
  match ← walk master 64 0 with
  | none => stop
  | some lastZero => Action.onFirst (Action.ofStep fun search => search.conclude lastZero)

/-- The next code, or nothing at the end. An empty line ends the search too. -/
def next : Action (Search × σ) (BusError ε) (Option Address) := do
  let (search, _) ← Action.current
  if search.finished then pure none
  else
    match ← Action.attempt (Action.onSecond master.strict.reset) with
    | .ok _ => pass master
    | .error .noDevicePresent => stop
    | .error error => Action.fail error

/-- What a pass makes of the status of a reset, and of an error. A short is an error even if a
device answered; a line on which none did ends the search. -/
theorem next_perform {search : Search} (goesOn : search.finished = false) (line : σ) :
    (next master).perform (search, line) =
      match master.reset.perform line with
      | (.ok status, reached) =>
        if status.shortCircuit then (.error .shortCircuit, (search, reached))
        else if !status.presence then (.ok none, (search.finish, reached))
        else (pass master).perform (search, reached)
      | (.error .noDevicePresent, reached) => (.ok none, (search.finish, reached))
      | (.error error, reached) => (.error error, (search, reached)) := by
  unfold next
  simp only [Action.perform_bind, Action.perform_current, goesOn, Bool.false_eq_true, if_false,
    Action.perform_attempt, Action.perform_onSecond, Master.strict]
  rcases master.reset.perform line with ⟨error | ⟨presence, short, level, direction⟩, reached⟩
  · cases error <;> rfl
  · cases presence <;> cases short <;> rfl

/-- The search directed along one code. -/
def aim (search : Search) (code : Address) : Search :=
  { search with family := none, finished := false, rom := code, lastDiscrepancy := 64 }

/-- Whether a device is present. The search starts anew afterwards. -/
def confirm (code : Address) : Action (Search × σ) (BusError ε) Bool := do
  let (search, _) ← Action.current
  Action.update fun (search, line) => (search.aim code, line)
  let found ← Action.attempt (next master)
  Action.update fun (_, line) => (search.restart, line)
  match found with
  | .ok result => pure (result == some code)
  | .error .invalidCrc => pure false
  | .error error => Action.fail error

end Search

end WireBridge
