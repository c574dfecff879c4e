/-
**What recovery does on the lines.**

Whatever the levels are and whichever call fails, what recovery does on the two lines has one of few
forms. They are given as lists of calls, which know nothing of how the sequence is programmed.

* `I2c.Course`: what recovery does if no call fails, one case for each way out;
* `I2c.UntilFault`: **a call that fails** ends what is done, and everything before it is as without
  a fault;
* `I2c.Follows`: an action that does what some lists say, with one rule for each way to build one;
* `I2c.Pins.follows_recover`: **recovery does what one of the forms says**, until a call fails.
-/

import WireBridge.I2c.Trace
import WireBridge.Proofs.Action

namespace WireBridge.I2c

variable {σ ε α β : Type}

/-! ### Calls that fail -/

namespace PinCall

/-- The call failed. -/
def failed : PinCall → Bool
  | .drive _ _ none => true
  | .level _ none => true
  | _ => false

/-- The same call without a result. A pause always ends. -/
def broken : PinCall → PinCall
  | .drive wire released _ => .drive wire released none
  | .level wire _ => .level wire none
  | .pause microseconds => .pause microseconds

/-- A clock pulse begins: the clock is driven low. -/
def pulses : PinCall → Bool
  | .drive .clock false _ => true
  | _ => false

/-- The clock is looked at. -/
def looks : PinCall → Bool
  | .level .clock _ => true
  | _ => false

/-- The data line is driven or looked at. -/
def onData : PinCall → Bool
  | .drive .data _ _ => true
  | .level .data _ => true
  | _ => false

@[simp] theorem pulses_broken (call : PinCall) : call.broken.pulses = call.pulses := by
  rcases call with ⟨_ | _, _ | _, _⟩ | ⟨_, _⟩ | _ <;> rfl

@[simp] theorem looks_broken (call : PinCall) : call.broken.looks = call.looks := by
  rcases call with ⟨_, _, _⟩ | ⟨_ | _, _⟩ | _ <;> rfl

end PinCall

/-- What is done until a call fails that would have been part of the whole. -/
def CutOff (whole made : List PinCall) : Prop :=
  ∃ done call rest, whole = done ++ call :: rest ∧ call.broken.failed = true ∧
    made = done ++ [call.broken]

theorem CutOff.append {whole made : List PinCall} (cut : CutOff whole made)
    (later : List PinCall) : CutOff (whole ++ later) made := by
  obtain ⟨done, call, rest, rfl, failed, rfl⟩ := cut
  exact ⟨done, call, rest ++ later, by simp, failed, rfl⟩

theorem CutOff.prepend {whole made : List PinCall} (cut : CutOff whole made)
    (earlier : List PinCall) : CutOff (earlier ++ whole) (earlier ++ made) := by
  obtain ⟨done, call, rest, rfl, failed, rfl⟩ := cut
  exact ⟨earlier ++ done, call, rest, by simp, failed, by simp⟩

/-! ### Actions that do what lists say -/

/-- What comes of an action that does what some lists say if no call fails: either one of them is
done, or one is cut off by a call that fails, which is all that is reported. -/
inductive UntilFault (course : Except RecoveryError α → List PinCall → Prop) :
    Except RecoveryError α → List PinCall → Prop
  | whole {outcome : Except RecoveryError α} {made : List PinCall} (done : course outcome made) :
    UntilFault course outcome made
  | fault {outcome : Except RecoveryError α} {whole made : List PinCall}
      (possible : course outcome whole) (cut : CutOff whole made) :
    UntilFault course (.error .pin) made

/-- An action does what some lists say until a call fails. Something is possible without a fault, so
that what is cut off is always part of a whole. -/
structure Follows (action : Action (σ × List PinCall) RecoveryError α)
    (course : Except RecoveryError α → List PinCall → Prop) : Prop where
  possible : ∃ outcome made, course outcome made
  runs : ∀ line notes, match action.perform (line, notes) with
    | (outcome, (_, after)) => ∃ made, after = made.reverse ++ notes ∧
        UntilFault course outcome made

/-- The calls of one action and then those of another one. -/
inductive Then (first : Except RecoveryError α → List PinCall → Prop)
    (second : α → Except RecoveryError β → List PinCall → Prop) :
    Except RecoveryError β → List PinCall → Prop
  | stops {error : RecoveryError} {made : List PinCall} (stopped : first (.error error) made) :
    Then first second (.error error) made
  | goes {value : α} {outcome : Except RecoveryError β} {earlier later : List PinCall}
      (went : first (.ok value) earlier) (on : second value outcome later) :
    Then first second outcome (earlier ++ later)

section Follows

variable {action : Action (σ × List PinCall) RecoveryError α}
  {next : α → Action (σ × List PinCall) RecoveryError β}
  {course other : Except RecoveryError α → List PinCall → Prop}
  {later : α → Except RecoveryError β → List PinCall → Prop}

theorem Follows.mono (follows : Follows action course)
    (weaker : ∀ outcome made, course outcome made → other outcome made) : Follows action other where
  possible :=
    let ⟨outcome, made, done⟩ := follows.possible
    ⟨outcome, made, weaker outcome made done⟩
  runs line notes := by
    have ran := follows.runs line notes
    generalize action.perform (line, notes) = performed at ran ⊢
    obtain ⟨outcome, _, after⟩ := performed
    obtain ⟨made, same, ended⟩ := ran
    refine ⟨made, same, ?_⟩
    cases ended with
    | whole done => exact .whole (weaker _ _ done)
    | fault possible cut => exact .fault (weaker _ _ possible) cut

theorem Follows.bind (first : Follows action course)
    (rest : ∀ value, Follows (next value) (later value)) :
    Follows (action >>= next) (Then course later) where
  possible := by
    obtain ⟨outcome, made, done⟩ := first.possible
    cases outcome with
    | error error => exact ⟨.error error, made, .stops done⟩
    | ok value =>
      obtain ⟨outcome, more, on⟩ := (rest value).possible
      exact ⟨outcome, made ++ more, .goes done on⟩
  runs line notes := by
    have ran := first.runs line notes
    rw [Action.perform_bind]
    generalize action.perform (line, notes) = performed at ran ⊢
    obtain ⟨error | value, reached, after⟩ := performed
    · obtain ⟨made, same, ended⟩ := ran
      refine ⟨made, same, ?_⟩
      cases ended with
      | whole done => exact .whole (.stops done)
      | @fault outcome whole _ possible cut =>
        cases outcome with
        | error => exact .fault (.stops possible) cut
        | ok value =>
          -- the call that fails cuts off anything that could have followed
          obtain ⟨outcome, more, on⟩ := (rest value).possible
          exact .fault (.goes possible on) (cut.append more)
    · obtain ⟨made, rfl, ended⟩ := ran
      cases ended with
      | whole went =>
        have on := (rest value).runs reached (made.reverse ++ notes)
        dsimp only
        generalize (next value).perform (reached, made.reverse ++ notes) = performed at on ⊢
        obtain ⟨outcome, _, after⟩ := performed
        obtain ⟨more, same, ended⟩ := on
        refine ⟨made ++ more, by simp [same], ?_⟩
        cases ended with
        | whole done => exact .whole (.goes went done)
        | fault possible cut => exact .fault (.goes went possible) (cut.prepend made)

/-- The calls with which a value is yielded. -/
def Yields (value : α) (calls : List PinCall) (outcome : Except RecoveryError α)
    (made : List PinCall) : Prop :=
  outcome = .ok value ∧ made = calls

/-- Some calls, and then what lists say. -/
def After (calls : List PinCall) (course : Except RecoveryError α → List PinCall → Prop)
    (outcome : Except RecoveryError α) (made : List PinCall) : Prop :=
  ∃ rest, made = calls ++ rest ∧ course outcome rest

theorem Follows.after {value : α} {calls : List PinCall}
    {rest : Except RecoveryError β → List PinCall → Prop}
    (first : Follows action (Yields value calls)) (on : ∀ value, Follows (next value) rest) :
    Follows (action >>= next) (After calls rest) := by
  refine (first.bind on).mono fun outcome made ended => ?_
  cases ended with
  | stops stopped => exact nomatch stopped.1
  | goes went on =>
    obtain ⟨_, rfl⟩ := went
    exact ⟨_, rfl, on⟩

theorem follows_pure (value : α) :
    Follows (pure value : Action (σ × List PinCall) RecoveryError α) (Yields value []) where
  possible := ⟨_, _, rfl, rfl⟩
  runs _ _ := ⟨[], rfl, .whole ⟨rfl, rfl⟩⟩

theorem follows_fail (error : RecoveryError) :
    Follows (Action.fail error : Action (σ × List PinCall) RecoveryError α)
      fun outcome made => outcome = .error error ∧ made = [] where
  possible := ⟨_, _, rfl, rfl⟩
  runs _ _ := ⟨[], rfl, .whole ⟨rfl, rfl⟩⟩

end Follows

namespace Pins

variable (pins : Pins σ ε)

theorem follows_wait (microseconds : Nat) :
    Follows ((pins.traced id).wait microseconds) (Yields () [.pause microseconds]) where
  possible := ⟨_, _, rfl, rfl⟩
  runs _ _ := ⟨[.pause microseconds], rfl, .whole ⟨rfl, rfl⟩⟩

theorem follows_set (wire : Wire) (released : Bool) :
    Follows ((pins.traced id).set wire released)
      (Yields () [.drive wire released (some ())]) where
  possible := ⟨_, _, rfl, rfl⟩
  runs line notes := by
    rw [set, Action.perform_mapError]
    simp only [traced, Action.noted_perform]
    rcases (pins.drive wire released).perform line with ⟨error | _, reached⟩
    · exact ⟨[.drive wire released none], rfl, .fault ⟨rfl, rfl⟩ ⟨[], _, [], rfl, rfl, rfl⟩⟩
    · exact ⟨[.drive wire released (some ())], rfl, .whole ⟨rfl, rfl⟩⟩

/-- A look at a line, and what is done then. -/
theorem follows_look {next : Bool → Action (σ × List PinCall) RecoveryError α}
    {course : Bool → Except RecoveryError α → List PinCall → Prop} (wire : Wire)
    (rest : ∀ high, Follows (next high) (course high)) :
    Follows ((pins.traced id).look wire >>= next)
      fun outcome made => ∃ high, After [.level wire (some high)] (course high) outcome made := by
  have looks : Follows ((pins.traced id).look wire)
      fun outcome made => ∃ high, Yields high [.level wire (some high)] outcome made := by
    refine ⟨⟨_, _, true, rfl, rfl⟩, fun line notes => ?_⟩
    rw [look, Action.perform_mapError]
    simp only [traced, Action.noted_perform]
    rcases (pins.level wire).perform line with ⟨error | high, reached⟩
    · exact ⟨[.level wire none], rfl, .fault ⟨true, rfl, rfl⟩ ⟨[], _, [], rfl, rfl, rfl⟩⟩
    · exact ⟨[.level wire (some high)], rfl, .whole ⟨high, rfl, rfl⟩⟩
  refine (looks.bind rest).mono fun outcome made ended => ?_
  cases ended with
  | stops stopped =>
    obtain ⟨_, same, _⟩ := stopped
    exact nomatch same
  | goes went on =>
    obtain ⟨high, same, rfl⟩ := went
    obtain rfl := Except.ok.inj same
    exact ⟨_, _, rfl, on⟩

end Pins

/-! ### Waiting for the clock -/

/-- Looks at the clock while it is low, a microsecond apart. -/
def waits (looks : Nat) : List PinCall :=
  (List.replicate looks [.level .clock (some false), .pause 1]).flatten

theorem waits_succ (looks : Nat) :
    waits (looks + 1) = [.level .clock (some false), .pause 1] ++ waits looks := rfl

/-- The clock is high after some looks, or low in all of them. -/
inductive Awaits (looks : Nat) : Except RecoveryError Unit → List PinCall → Prop
  | high {low : Nat} (soon : low < looks) :
    Awaits looks (.ok ()) (waits low ++ [.level .clock (some true)])
  | low : Awaits looks (.error .clockLow) (waits looks)

theorem Awaits.succ {looks : Nat} {outcome : Except RecoveryError Unit} {made : List PinCall}
    (awaits : Awaits looks outcome made) :
    Awaits (looks + 1) outcome ([.level .clock (some false), .pause 1] ++ made) := by
  cases awaits with
  | @high low soon =>
    rw [← List.append_assoc, ← waits_succ]
    exact .high (Nat.succ_lt_succ soon)
  | low => exact .low

theorem Pins.follows_awaitClock (pins : Pins σ ε) (looks : Nat) :
    Follows ((pins.traced id).awaitClock looks) (Awaits looks) := by
  induction looks with
  | zero =>
    refine (follows_fail .clockLow).mono ?_
    rintro _ _ ⟨rfl, rfl⟩
    exact .low
  | succ looks ih =>
    have goes (high : Bool) : Follows
        (if high then pure () else do
          (pins.traced id).wait 1
          (pins.traced id).awaitClock looks)
        (if high then Yields () [] else After [.pause 1] (Awaits looks)) := by
      cases high with
      | true => exact follows_pure ()
      | false => exact (pins.follows_wait 1).after fun _ => ih
    refine (pins.follows_look .clock goes).mono ?_
    rintro outcome _ ⟨high, _, rfl, ended⟩
    cases high with
    | true =>
      obtain ⟨rfl, rfl⟩ := ended
      exact @Awaits.high (looks + 1) 0 (Nat.succ_pos looks)
    | false =>
      obtain ⟨made, rfl, awaits⟩ := ended
      exact awaits.succ

/-! ### Pulses -/

/-- The edges of a clock pulse. -/
def edges : List PinCall :=
  [.drive .clock false (some ()), .pause 5, .drive .clock true (some ()), .pause 5]

/-- A whole round: the data line is low, a pulse is made, and the clock is high after some looks at
which it is low. -/
def round (low : Nat) : List PinCall :=
  [.level .data (some false)] ++ (edges ++ (waits low ++ [.level .clock (some true)]))

/-- The start of a round in which the clock stays low. -/
def heldRound : List PinCall := [.level .data (some false)] ++ (edges ++ waits 250)

/-- One pulse. -/
inductive Pulses : Except RecoveryError Unit → List PinCall → Prop
  | high {low : Nat} (soon : low < 250) :
    Pulses (.ok ()) (edges ++ (waits low ++ [.level .clock (some true)]))
  | low : Pulses (.error .clockLow) (edges ++ waits 250)

/-- The four calls of the edges in a row. -/
theorem after_edges {course : Except RecoveryError α → List PinCall → Prop}
    {outcome : Except RecoveryError α} {made : List PinCall}
    (done : After [.drive .clock false (some ())] (After [.pause 5]
      (After [.drive .clock true (some ())] (After [.pause 5] course))) outcome made) :
    After edges course outcome made := by
  obtain ⟨_, rfl, _, rfl, _, rfl, rest, rfl, done⟩ := done
  exact ⟨rest, rfl, done⟩

theorem Pins.follows_pulse (pins : Pins σ ε) : Follows (pins.traced id).pulse Pulses := by
  have goes : Follows (pins.traced id).pulse
      (After [.drive .clock false (some ())] (After [.pause 5]
        (After [.drive .clock true (some ())] (After [.pause 5] (Awaits 250))))) :=
    (pins.follows_set .clock false).after fun _ => (pins.follows_wait 5).after fun _ =>
      (pins.follows_set .clock true).after fun _ => (pins.follows_wait 5).after fun _ =>
        pins.follows_awaitClock 250
  refine goes.mono fun outcome made done => ?_
  obtain ⟨rest, rfl, awaits⟩ := after_edges done
  cases awaits with
  | high soon => exact .high soon
  | low => exact .low

/-- Rounds, each of which ends soon. -/
def Rounds (rounds : List Nat) : Prop := ∀ low ∈ rounds, low < 250

/-- Rounds until the data line is high, until the clock stays low, or a number of times. -/
inductive Pulsing (most : Nat) : Except RecoveryError Unit → List PinCall → Prop
  | high {rounds : List Nat} (soon : Rounds rounds) (few : rounds.length < most) :
    Pulsing most (.ok ()) (rounds.flatMap round ++ [.level .data (some true)])
  | spent {rounds : List Nat} (soon : Rounds rounds) (all : rounds.length = most) :
    Pulsing most (.ok ()) (rounds.flatMap round)
  | held {rounds : List Nat} (soon : Rounds rounds) (few : rounds.length < most) :
    Pulsing most (.error .clockLow) (rounds.flatMap round ++ heldRound)

theorem Pulsing.succ {most low : Nat} {outcome : Except RecoveryError Unit} {made : List PinCall}
    (soon : low < 250) (pulsing : Pulsing most outcome made) :
    Pulsing (most + 1) outcome (round low ++ made) := by
  have all {rounds : List Nat} (others : Rounds rounds) : Rounds (low :: rounds) :=
    List.forall_mem_cons.mpr ⟨soon, others⟩
  cases pulsing with
  | high others few =>
    rw [← List.append_assoc, ← List.flatMap_cons]
    exact .high (all others) (Nat.succ_lt_succ few)
  | spent others same =>
    rw [← List.flatMap_cons]
    exact .spent (all others) (congrArg Nat.succ same)
  | held others few =>
    rw [← List.append_assoc, ← List.flatMap_cons]
    exact .held (all others) (Nat.succ_lt_succ few)

theorem Pins.follows_pulses (pins : Pins σ ε) (most : Nat) :
    Follows ((pins.traced id).pulses most) (Pulsing most) := by
  induction most with
  | zero =>
    refine (follows_pure ()).mono ?_
    rintro _ _ ⟨rfl, rfl⟩
    exact @Pulsing.spent 0 [] nofun rfl
  | succ most ih =>
    have goes (high : Bool) : Follows
        (if high then pure () else do
          (pins.traced id).pulse
          (pins.traced id).pulses most)
        (if high then Yields () [] else Then Pulses fun _ => Pulsing most) := by
      cases high with
      | true => exact follows_pure ()
      | false => exact pins.follows_pulse.bind fun _ => ih
    refine (pins.follows_look .data goes).mono ?_
    rintro outcome _ ⟨high, _, rfl, ended⟩
    cases high with
    | true =>
      obtain ⟨rfl, rfl⟩ := ended
      exact @Pulsing.high (most + 1) [] nofun (Nat.succ_pos most)
    | false =>
      cases ended with
      | stops stopped =>
        cases stopped with
        | low =>
          have held := @Pulsing.held (most + 1) [] nofun (Nat.succ_pos most)
          rw [List.flatMap_nil, List.nil_append] at held
          exact held
      | goes went on =>
        cases went with
        | high soon => exact on.succ soon

/-! ### The sequence -/

/-- Both lines are released. -/
def opening : List PinCall :=
  [.drive .data true (some ()), .drive .clock true (some ()), .pause 5]

/-- The clock is high at the start and after each of some pulses. -/
def pulsed (rounds : List Nat) : List PinCall :=
  opening ++ [.level .clock (some true)] ++ rounds.flatMap round

/-- A start and a stop: the data line is driven low and released once. -/
def startStop : List PinCall :=
  [.drive .data false (some ()), .pause 5, .drive .data true (some ()), .pause 5]

/-- Why there are no more rounds: the data line is high, or all pulses were made. -/
inductive Peeks (rounds : List Nat) : List PinCall → Prop
  | high (few : rounds.length < 9) : Peeks rounds [.level .data (some true)]
  | spent (all : rounds.length = 9) : Peeks rounds []

/-- **What recovery does if no call fails.** The clock is low at the start, or it stays low after a
pulse, or the data line is low in the final check, or it is high and the bus is freed. -/
inductive Course : Except RecoveryError Unit → List PinCall → Prop
  | held : Course (.error .clockLow) (opening ++ [.level .clock (some false)])
  | stretched {rounds : List Nat} (soon : Rounds rounds) (few : rounds.length < 9) :
    Course (.error .clockLow) (pulsed rounds ++ heldRound)
  | stuck {rounds : List Nat} {peek : List PinCall} (soon : Rounds rounds)
      (peeks : Peeks rounds peek) :
    Course (.error .dataLow) (pulsed rounds ++ peek ++ [.level .data (some false)])
  | freed {rounds : List Nat} {peek : List PinCall} (soon : Rounds rounds)
      (peeks : Peeks rounds peek) :
    Course (.ok ()) (pulsed rounds ++ peek ++ [.level .data (some true)] ++ startStop)

/-- The final check and what follows it. -/
inductive Finishes : Except RecoveryError Unit → List PinCall → Prop
  | low : Finishes (.error .dataLow) [.level .data (some false)]
  | high : Finishes (.ok ()) ([.level .data (some true)] ++ startStop)

/-- Rounds that end without an error. -/
theorem Pulsing.peeks {made : List PinCall} (pulsing : Pulsing 9 (.ok ()) made) :
    ∃ rounds peek, Rounds rounds ∧ Peeks rounds peek ∧ made = rounds.flatMap round ++ peek := by
  cases pulsing with
  | high soon few => exact ⟨_, _, soon, .high few, rfl⟩
  | spent soon all => exact ⟨_, [], soon, .spent all, (List.append_nil _).symm⟩

theorem Course.of_pulsing {outcome : Except RecoveryError Unit} {made : List PinCall}
    (done : Then (Pulsing 9) (fun _ => Finishes) outcome made) :
    Course outcome (opening ++ ([.level .clock (some true)] ++ made)) := by
  rw [← List.append_assoc]
  cases done with
  | stops stopped =>
    cases stopped with
    | held soon few =>
      rw [← List.append_assoc]
      exact .stretched soon few
  | goes went on =>
    obtain ⟨rounds, peek, soon, peeks, rfl⟩ := went.peeks
    cases on with
    | low =>
      rw [← List.append_assoc, ← List.append_assoc]
      exact .stuck soon peeks
    | high =>
      rw [← List.append_assoc, ← List.append_assoc, ← List.append_assoc]
      exact .freed soon peeks

namespace Pins

variable (pins : Pins σ ε)

/-- The final check and what follows it. -/
def finish : Action σ RecoveryError Unit := do
  if !(← pins.look .data) then Action.fail .dataLow
  else do
    pins.set .data false
    pins.wait halfPeriod
    pins.set .data true
    pins.wait halfPeriod

theorem follows_finish : Follows (pins.traced id).finish Finishes := by
  have goes (high : Bool) : Follows
      (if !high then Action.fail .dataLow else do
        (pins.traced id).set .data false
        (pins.traced id).wait halfPeriod
        (pins.traced id).set .data true
        (pins.traced id).wait halfPeriod)
      (if !high then fun outcome made => outcome = .error .dataLow ∧ made = []
      else After [.drive .data false (some ())] (After [.pause 5]
        (After [.drive .data true (some ())] (Yields () [.pause 5])))) := by
    cases high with
    | false => exact follows_fail .dataLow
    | true =>
      exact (pins.follows_set .data false).after fun _ => (pins.follows_wait 5).after fun _ =>
        (pins.follows_set .data true).after fun _ => pins.follows_wait 5
  refine (pins.follows_look .data goes).mono ?_
  rintro outcome _ ⟨high, _, rfl, done⟩
  cases high with
  | false =>
    obtain ⟨rfl, rfl⟩ := done
    exact .low
  | true =>
    obtain ⟨_, rfl, _, rfl, _, rfl, rfl, rfl⟩ := done
    exact .high

theorem follows_recover : Follows (pins.traced id).recover Course := by
  have goes (high : Bool) : Follows
      (if !high then Action.fail .clockLow else do
        (pins.traced id).pulses maxPulses
        (pins.traced id).finish)
      (if !high then fun outcome made => outcome = .error .clockLow ∧ made = []
      else Then (Pulsing 9) fun _ => Finishes) := by
    cases high with
    | false => exact follows_fail .clockLow
    | true => exact (pins.follows_pulses 9).bind fun _ => pins.follows_finish
  have all : Follows (pins.traced id).recover
      (After [.drive .data true (some ())] (After [.drive .clock true (some ())]
        (After [.pause 5] fun outcome made => ∃ high, After [.level .clock (some high)]
          (if !high then fun outcome made => outcome = .error .clockLow ∧ made = []
          else Then (Pulsing 9) fun _ => Finishes) outcome made))) :=
    (pins.follows_set .data true).after fun _ => (pins.follows_set .clock true).after fun _ =>
      (pins.follows_wait 5).after fun _ => pins.follows_look .clock goes
  refine all.mono ?_
  rintro outcome _ ⟨_, rfl, _, rfl, _, rfl, high, made, rfl, done⟩
  cases high with
  | false =>
    obtain ⟨rfl, rfl⟩ := done
    exact .held
  | true => exact Course.of_pulsing done

end Pins

end WireBridge.I2c
