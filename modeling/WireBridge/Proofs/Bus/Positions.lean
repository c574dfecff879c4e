/-
**What the positions of a pass answer.**

A pass looks only at whether anyone took part in a position and, if so, at the slots. Bus masters
that agree on that much, on resets and on bytes lead to the same searches, whatever they do about
single slots.

* `Search.respond`: the answer of a position, or nothing if nobody took part;
* `Search.walk_succ_eq`: a walk by the answers of its positions;
* `Search.Agree`, `Search.Agree.next`, `Search.Agree.confirm`: two bus masters that searches cannot
  tell apart;
* `Search.Question`, `Search.askAll`: passes and questions for devices in any order, with
  `Search.Agree.askAll`.
-/

import WireBridge.Bus.Search
import WireBridge.Proofs.Action

namespace WireBridge

/-- The slots of a position in which somebody took part: not both of them read one. -/
def Triplet.answer? (triplet : Triplet) : Option Triplet :=
  if triplet.id && triplet.complement then none else some triplet

namespace Search

variable {σ ε : Type}

/-! ### Positions -/

/-- What a position answers. -/
def respond (master : Master σ ε) (direction : Bool) : Action σ (BusError ε) (Option Triplet) := do
  let triplet ← slots master direction
  pure triplet.answer?

/-- The number to remember after a position was answered: the position itself, if the zero branch of
a discrepancy was taken there. -/
def passedOver (triplet : Triplet) (lastZero position : Nat) : Nat :=
  if triplet.id || triplet.complement || triplet.taken then lastZero else position

/-- What follows a position of a walk. -/
def resume (master : Master σ ε) (left lastZero : Nat) :
    Option Triplet → Action (Search × σ) (BusError ε) (Option Nat)
  | none => pure none
  | some triplet => do
    Action.update fun (search, line) => (search.follow (64 - left) triplet.taken, line)
    walk master left (passedOver triplet lastZero (64 - left))

/-- **A walk by the answers of its positions.** -/
theorem walk_succ_eq (master : Master σ ε) (left lastZero : Nat) :
    walk master (left + 1) lastZero = (do
      let (search, _) ← Action.current
      let answer ← Action.onSecond (respond master (search.direction (64 - left)))
      resume master left lastZero answer) := by
  refine Action.ext ?_
  rintro ⟨search, line⟩
  rw [walk, Action.perform_current_bind, Action.perform_current_bind]
  dsimp only
  unfold respond
  rw [Action.perform_bind, Action.perform_bind, Action.perform_onSecond, Action.perform_onSecond,
    Action.perform_bind]
  generalize (slots master (search.direction (64 - left))).perform line = performed
  obtain ⟨error | triplet, reached⟩ := performed
  · rfl
  · dsimp only [Action.perform_pure]
    by_cases silent : (triplet.id && triplet.complement) = true
    · rw [Triplet.answer?, if_pos silent, if_pos silent]
      rfl
    · rw [Triplet.answer?, if_neg silent, if_neg silent]
      rfl

/-! ### Bus masters that searches cannot tell apart -/

/-- Two bus masters agree on all that a pass looks at. -/
structure Agree (first second : Master σ ε) : Prop where
  reset : first.reset = second.reset
  writeByte : first.writeByte = second.writeByte
  respond : ∀ direction, Search.respond first direction = Search.respond second direction

namespace Agree

variable {first second : Master σ ε} (agree : Agree first second)

include agree

theorem walk (remaining lastZero : Nat) :
    Search.walk first remaining lastZero = Search.walk second remaining lastZero := by
  induction remaining generalizing lastZero with
  | zero => rfl
  | succ left ih =>
    have later : Search.resume first left lastZero = Search.resume second left lastZero := by
      funext answer
      cases answer with
      | none => rfl
      | some triplet => simp only [Search.resume, ih]
    simp only [walk_succ_eq, agree.respond, later]

theorem strict_reset : first.strict.reset = second.strict.reset := by
  simp only [Master.strict, agree.reset]

/-- **Passes** are the same. -/
theorem next : Search.next first = Search.next second := by
  simp only [Search.next, Search.pass, agree.strict_reset, agree.writeByte, agree.walk]

/-- So are **questions for a device**. -/
theorem confirm (code : Address) : Search.confirm first code = Search.confirm second code := by
  simp only [Search.confirm, agree.next]

end Agree

/-! ### Passes and questions in any order -/

/-- What a search is asked: for the next code, or whether a device is present. -/
inductive Question where
  | next
  | confirm (code : Address)

/-- What it tells. -/
inductive Told (ε : Type) where
  | next (outcome : Except (BusError ε) (Option Address))
  | confirm (outcome : Except (BusError ε) Bool)

/-- What a search tells, and the search and the line afterwards. -/
def ask (master : Master σ ε) (state : Search × σ) : Question → Told ε × Search × σ
  | .next =>
    let (outcome, reached) := (next master).perform state
    (.next outcome, reached)
  | .confirm code =>
    let (outcome, reached) := (confirm master code).perform state
    (.confirm outcome, reached)

/-- What a search tells when it is asked one thing after the other. -/
def askAll (master : Master σ ε) : List Question → Search × σ → List (Told ε) × Search × σ
  | [], state => ([], state)
  | question :: rest, state =>
    let (told, reached) := ask master state question
    let (others, last) := askAll master rest reached
    (told :: others, last)

theorem Agree.ask {first second : Master σ ε} (agree : Agree first second) (state : Search × σ)
    (question : Question) : Search.ask first state question = Search.ask second state question := by
  cases question with
  | next => simp only [Search.ask, agree.next]
  | confirm code => simp only [Search.ask, agree.confirm]

/-- **Whatever a search is asked**, it tells and leaves the same. -/
theorem Agree.askAll {first second : Master σ ε} (agree : Agree first second)
    (questions : List Question) (state : Search × σ) :
    Search.askAll first questions state = Search.askAll second questions state := by
  induction questions generalizing state with
  | nil => rfl
  | cons question rest ih => simp only [Search.askAll, agree.ask, ih]

end Search

end WireBridge
