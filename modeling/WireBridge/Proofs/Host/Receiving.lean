/-
**What comes of a line.**

A line that is taken is blank, is answered at once, or becomes a command in the queue.

* `Session.Fate`, `Session.fate`: these three, given the bridge that the line finds;
* `Session.take_eq`: what is written about a line and what it changes are those of its fate.
-/

import WireBridge.Host.Session
import WireBridge.Proofs.Bridge.Run
import WireBridge.Proofs.Command.Echoing

namespace WireBridge.Session

open Bridge (accept_accepting)

variable {β : Type}

/-- What comes of a line. -/
inductive Fate where
  /-- It means nothing. -/
  | blank
  /-- It is answered at once. -/
  | refused (answer : ErrorReport)
  /-- Its command is queued. -/
  | accepted (command : Command)

namespace Fate

/-- The lines that are written at once. -/
def written : Fate → List String
  | .refused answer => [answer.toValue.text]
  | _ => []

/-- The bridge with a command that was accepted. -/
def enter (bridge : Bridge β) : Fate → Bridge β
  | .accepted command => bridge.queueing (bridge.queue.items ++ [command])
  | _ => bridge

/-- The command that was accepted. -/
def command? : Fate → Option Command
  | .accepted command => some command
  | _ => none

end Fate

/-- What comes of a line, given the bridge that it finds. -/
def fate (bridge : Bridge β) (line : String) : Fate :=
  let text := Text.trimmed line
  if text.isEmpty then .blank
  else
    match Command.parse text sink sink with
    | .error report => .refused report
    | .ok command =>
      if bridge.queue.items.length < bridge.queue.capacity then .accepted command
      else .refused (CommandError.queueFull.report (some (.text text)))

/-- **What is written about a line and what it changes are those of its fate.** No request lacks a
parameter once it is understood, so nothing else answers it. -/
theorem take_eq (bridge : Bridge β) (line : String) :
    take bridge line = ((fate bridge line).written, (fate bridge line).enter bridge) := by
  unfold take fate
  by_cases blank : (Text.trimmed line).isEmpty = true
  · simp only [blank, if_true]
    rfl
  · simp only [blank, Bool.false_eq_true, if_false]
    cases parsed : Command.parse (Text.trimmed line) sink sink with
    | error report => rfl
    | ok command =>
      have check := (Command.parse_expressible parsed).1.check
      have accepting := accept_accepting bridge command
      simp only
      generalize bridge.accept command = result at accepting ⊢
      cases accepting with
      | invalid wrong => exact absurd (check.symm.trans wrong) (by simp)
      | full check full =>
        rw [if_neg (Nat.not_lt.mpr full)]
        rfl
      | queued check room =>
        rw [if_pos room]
        rfl

/-- A line whose command is queued is a request that was understood and found room. -/
theorem of_accepted {bridge : Bridge β} {line : String} {command : Command}
    (accepted : fate bridge line = .accepted command) :
    Command.parse (Text.trimmed line) sink sink = .ok command ∧
      bridge.queue.items.length < bridge.queue.capacity := by
  unfold fate at accepted
  simp only at accepted
  split at accepted
  · cases accepted
  · split at accepted
    · cases accepted
    · next parsed =>
      split at accepted
      · next room =>
        obtain rfl := Fate.accepted.inj accepted
        exact ⟨parsed, room⟩
      · cases accepted

end WireBridge.Session
