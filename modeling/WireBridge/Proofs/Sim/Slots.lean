/-
**Searches of a simulated line with and without triplets.**

A bus master that has no triplets reads the two slots of a position one after the other and writes
the third, unless nobody took part. The line goes through the same slots as for a triplet.

* `Sim.bus`: the line as a bus master with or without triplets;
* `Sim.Line.respond_perform`: what a position answers, and the line after it;
* `Sim.bus_agree`: no search can tell the two bus masters apart.
-/

import WireBridge.Proofs.Bus.Positions
import WireBridge.Sim.Line

namespace WireBridge.Sim

open Search (Agree Question askAll respond)

variable {ε : Type}

/-- A simulated line as a bus master that has triplets, or has only single slots. -/
def bus (triplets : Bool) : Master Line ε :=
  if triplets then master else master.withoutTriplets

namespace Line

/-- The slots of one position, in which a bit is written only if somebody took part. -/
def position (line : Line) (direction : Bool) : Option Triplet × Line :=
  let (id, afterId) := line.readBit
  let (complement, afterBoth) := afterId.readBit
  if id && complement then (none, afterBoth)
  else
    let taken := if id = complement then direction else id
    (some ⟨id, complement, taken⟩, afterBoth.writeBit taken)

/-- A line that is in no search shows ones and is not changed by that. -/
theorem readBit_outside {line : Line}
    (outside : ∀ position slots, line.phase ≠ .searching position slots) :
    line.readBit = (true, line) := by
  unfold readBit
  split
  · next position slots phase => exact absurd phase (outside position slots)
  · rfl

/-- **A triplet is made of single slots**, also outside of a search. -/
theorem position_eq (line : Line) (direction : Bool) :
    line.position direction =
      ((line.readTriplet direction).1.answer?, (line.readTriplet direction).2) := by
  by_cases inside : ∃ position slots, line.phase = .searching position slots
  · obtain ⟨position, slots, phase⟩ := inside
    simp only [Line.position, readTriplet, phase]
    split
    · rfl
    · next answered => simp only [Triplet.answer?, if_neg answered]
  · have outside : ∀ position slots, line.phase ≠ .searching position slots :=
      fun position slots phase => inside ⟨position, slots, phase⟩
    have shown : line.readTriplet direction = (⟨true, true, true⟩, line) := by
      unfold readTriplet
      split
      · next position slots phase => exact absurd phase (outside position slots)
      · rfl
    simp only [Line.position, readBit_outside outside, shown]
    rfl

/-- **What a position answers**, on either bus master. -/
theorem respond_perform (triplets direction : Bool) (line : Line) :
    (respond (bus triplets : Master Line ε) direction).perform line =
      (.ok (line.position direction).1, (line.position direction).2) := by
  unfold respond Search.slots
  cases triplets with
  | true =>
    rw [position_eq]
    rfl
  | false =>
    unfold position
    simp only [bus, Bool.false_eq_true, if_false, Master.withoutTriplets, master,
      Action.perform_bind, Action.perform_attempt, Action.perform_fail, Action.perform_ofStep]
    obtain ⟨id, afterId⟩ := line.readBit
    obtain ⟨complement, afterBoth⟩ := afterId.readBit
    by_cases silent : (id && complement) = true
    · simp only [if_pos silent, Action.perform_pure, Triplet.answer?]
    · simp only [if_neg silent, Action.perform_bind, Action.perform_update, Action.perform_pure,
        Triplet.answer?]

end Line

/-- A search looks at the same things on both bus masters. -/
theorem bus_agree (triplets : Bool) : Agree (bus triplets : Master Line ε) master where
  reset := by cases triplets <;> rfl
  writeByte := by cases triplets <;> rfl
  respond direction := Action.ext fun line =>
    (Line.respond_perform triplets direction line).trans
      (Line.respond_perform true direction line).symm

/-- **Discovery does not depend on triplets.** On any line, and wherever a search of any kind is, a
bus master without triplets lets the search tell the same as one that has them, pass by pass and
question by question, and leaves the same line and the same search. -/
theorem askAll_withoutTriplets (questions : List Question) (search : Search) (line : Line) :
    askAll (master.withoutTriplets : Master Line ε) questions (search, line) =
      askAll master questions (search, line) :=
  (bus_agree false).askAll questions (search, line)

end WireBridge.Sim
