/-
**What recovery leaves behind.**

The forms that a recovery can have tell what all of them have in common, whether they are cut off by
a fault or not. What is said about a pulse is said about what came before it and after it.

* `I2c.EachPulse`: a property of each pulse, with one rule for each way to put calls together;
* `I2c.Timely`: a pulse is made because the data line is low, and is waited for only so long;
* `I2c.drives`: how a line was driven;
* `I2c.Recovered`: what is true of each recovery;
* `I2c.Pins.recover_recovers`: **recovery is bounded and leaves the lines free**.
-/

import WireBridge.Proofs.I2c.Recovering

namespace WireBridge.I2c

variable {σ ε : Type}

/-! ### Each pulse -/

/-- Something is true of what came before each pulse and after it. -/
def EachPulse (claim : List PinCall → List PinCall → Prop) (made : List PinCall) : Prop :=
  ∀ sooner pulse later, made = sooner ++ pulse :: later → pulse.pulses = true → claim sooner later

namespace EachPulse

variable {claim : List PinCall → List PinCall → Prop} {made more : List PinCall}

theorem of_none (none : ∀ call ∈ made, call.pulses = false) : EachPulse claim made := by
  rintro sooner pulse later rfl pulses
  exact absurd pulses (by simp [none pulse (by simp)])

theorem append (one : EachPulse claim made) (other : EachPulse claim more)
    (longer : ∀ sooner later, claim sooner later → claim sooner (later ++ more))
    (sooner : ∀ sooner later, claim sooner later → claim (made ++ sooner) later) :
    EachPulse claim (made ++ more) := by
  intro front pulse back split pulses
  rcases List.append_eq_append_iff.mp split with ⟨rest, rfl, same⟩ | ⟨rest, same, rest_eq⟩
  · exact sooner rest back (other rest pulse back same pulses)
  · cases rest with
    | nil =>
      -- the pulse is the first call of the second list
      rw [List.append_nil] at same
      subst same
      have here := sooner [] back (other [] pulse back rest_eq.symm pulses)
      rwa [List.append_nil] at here
    | cons first rest =>
      obtain ⟨rfl, rfl⟩ := List.cons.inj rest_eq
      exact longer front rest (one front pulse rest same pulses)

/-- One pulse, directly after a look at the data line. -/
theorem single {tail : List PinCall} (none : ∀ call ∈ tail, call.pulses = false)
    (holds : claim [.level .data (some false)]
      ([.pause 5, .drive .clock true (some ()), .pause 5] ++ tail)) :
    EachPulse claim ([.level .data (some false)] ++ (edges ++ tail)) := by
  intro sooner pulse later split pulses
  rcases sooner with _ | ⟨first, _ | ⟨second, rest⟩⟩
  · obtain ⟨rfl, _⟩ := List.cons.inj split
    exact nomatch pulses
  · obtain ⟨rfl, rest⟩ := List.cons.inj split
    obtain ⟨_, rfl⟩ := List.cons.inj (List.append_cancel_left rest)
    exact holds
  · obtain ⟨_, split⟩ := List.cons.inj split
    obtain ⟨_, split⟩ := List.cons.inj split
    have quiet : ∀ call ∈ [.pause 5, .drive .clock true (some ()), .pause 5] ++ tail,
        call.pulses = false := by
      simpa [PinCall.pulses] using none
    rw [show [.pause 5, .drive .clock true (some ()), .pause 5] ++ tail =
      rest ++ pulse :: later from split] at quiet
    exact absurd pulses (by simp [quiet pulse (by simp)])

theorem cut (each : EachPulse claim made) {done : List PinCall} (cut : CutOff made done)
    (ends : ∀ sooner later, claim sooner later → claim sooner [])
    (shorter : ∀ sooner later call rest, claim sooner (later ++ call :: rest) →
      claim sooner (later ++ [call.broken])) : EachPulse claim done := by
  obtain ⟨done, call, rest, rfl, _, rfl⟩ := cut
  intro sooner pulse later split pulses
  -- the pulse is the call that failed, or an earlier one
  rcases Action.concat_eq_split.mp split with ⟨rfl, rfl, rfl⟩ | ⟨between, rfl, rfl⟩
  · rw [PinCall.pulses_broken] at pulses
    exact ends sooner rest (each sooner call rest rfl pulses)
  · refine shorter sooner between call rest (each sooner pulse (between ++ call :: rest) ?_ pulses)
    rw [List.append_assoc, List.cons_append]

end EachPulse

/-! ### Looks after a pulse -/

/-- How often the clock is looked at before the next pulse. -/
def lead (calls : List PinCall) : Nat :=
  (calls.takeWhile fun call => !call.pulses).countP PinCall.looks

theorem lead_cons_of_pulses {call : PinCall} (pulses : call.pulses = true) (rest : List PinCall) :
    lead (call :: rest) = 0 := by
  simp [lead, pulses]

theorem lead_cons {call : PinCall} (quiet : call.pulses = false) (rest : List PinCall) :
    lead (call :: rest) = lead rest + if call.looks then 1 else 0 := by
  simp [lead, quiet, List.countP_cons]

theorem lead_append_le (calls more : List PinCall) :
    lead (calls ++ more) ≤ lead calls + lead more := by
  induction calls with
  | nil => exact Nat.le_add_left _ _
  | cons call rest ih =>
    rw [List.cons_append]
    cases pulses : call.pulses with
    | true =>
      rw [lead_cons_of_pulses pulses]
      exact Nat.zero_le _
    | false =>
      rw [lead_cons pulses, lead_cons pulses]
      omega

/-- What is cut off was not looked at more often. -/
theorem lead_cut_le (calls : List PinCall) (call : PinCall) (rest : List PinCall) :
    lead (calls ++ [call.broken]) ≤ lead (calls ++ call :: rest) := by
  induction calls with
  | nil =>
    cases pulses : call.pulses with
    | true =>
      rw [List.nil_append, lead_cons_of_pulses (by simpa using pulses)]
      exact Nat.zero_le _
    | false =>
      rw [List.nil_append, List.nil_append, lead_cons (by simpa using pulses), lead_cons pulses,
        PinCall.looks_broken]
      exact Nat.add_le_add_right (Nat.zero_le _) _
  | cons first others ih =>
    rw [List.cons_append, List.cons_append]
    cases pulses : first.pulses with
    | true =>
      rw [lead_cons_of_pulses pulses]
      exact Nat.zero_le _
    | false =>
      rw [lead_cons pulses, lead_cons pulses]
      exact Nat.add_le_add_right ih _

theorem lead_waits (looks : Nat) (rest : List PinCall) :
    lead (waits looks ++ rest) = lead rest + looks := by
  induction looks with
  | zero => rfl
  | succ looks ih =>
    rw [waits_succ, List.append_assoc, List.cons_append, List.cons_append, List.nil_append,
      lead_cons rfl, lead_cons rfl, ih]
    rfl

/-- What is true of a look at the low clock and of a pause is true of the whole wait. -/
theorem forall_mem_waits (claim : PinCall → Prop) (low : claim (.level .clock (some false)))
    (pause : claim (.pause 1)) (looks : Nat) : ∀ call ∈ waits looks, claim call := by
  induction looks with
  | zero => exact nofun
  | succ looks ih =>
    rw [waits_succ]
    exact List.forall_mem_cons.mpr ⟨low, List.forall_mem_cons.mpr ⟨pause, ih⟩⟩

theorem waits_quiet (looks : Nat) : ∀ call ∈ waits looks, call.pulses = false :=
  forall_mem_waits (fun call => call.pulses = false) rfl rfl looks

/-- A pulse is made directly after the data line is seen low. Until the next one the clock is looked
at 250 times at most. -/
def Timely (sooner later : List PinCall) : Prop :=
  sooner.getLast? = some (.level .data (some false)) ∧ lead later ≤ 250

theorem Timely.after {sooner later : List PinCall} (timely : Timely sooner later)
    (earlier : List PinCall) : Timely (earlier ++ sooner) later := by
  refine ⟨?_, timely.2⟩
  rw [List.getLast?_append, timely.1]
  rfl

theorem Timely.before {sooner later more : List PinCall} (timely : Timely sooner later)
    (quiet : lead more = 0) : Timely sooner (later ++ more) := by
  refine ⟨timely.1, Nat.le_trans (lead_append_le later more) ?_⟩
  rw [quiet, Nat.add_zero]
  exact timely.2

theorem timely_edges {tail : List PinCall} (quiet : ∀ call ∈ tail, call.pulses = false)
    (bound : lead tail ≤ 250) :
    EachPulse Timely ([.level .data (some false)] ++ (edges ++ tail)) := by
  refine EachPulse.single quiet ⟨rfl, ?_⟩
  rw [List.cons_append, List.cons_append, List.cons_append, List.nil_append, lead_cons rfl,
    lead_cons rfl, lead_cons rfl]
  exact bound

theorem timely_round {low : Nat} (soon : low < 250) : EachPulse Timely (round low) := by
  refine timely_edges (List.forall_mem_append.mpr ⟨waits_quiet low, by decide⟩) ?_
  rw [lead_waits, Nat.add_comm]
  exact soon

theorem timely_heldRound : EachPulse Timely heldRound := by
  refine timely_edges (waits_quiet 250) ?_
  have all := lead_waits 250 []
  rw [List.append_nil] at all
  exact Nat.le_of_eq all

/-- A round begins with a look at the data line. -/
theorem lead_flatMap_round (rounds : List Nat) {more : List PinCall} (quiet : lead more = 0) :
    lead (rounds.flatMap round ++ more) = 0 := by
  cases rounds with
  | nil => exact quiet
  | cons low rest => rfl

/-- The clock is seen high after a pulse before anything else happens to either line. -/
def Settles (_ later : List PinCall) : Prop :=
  ∃ calm rest, later = calm ++ .level .clock (some true) :: rest ∧
    ∀ call ∈ calm, call.pulses = false ∧ call.onData = false

theorem settles_round (low : Nat) : EachPulse Settles (round low) := by
  refine EachPulse.single (List.forall_mem_append.mpr ⟨waits_quiet low, by decide⟩)
    ⟨[.pause 5, .drive .clock true (some ()), .pause 5] ++ waits low, [], by simp, ?_⟩
  exact List.forall_mem_append.mpr ⟨by decide, forall_mem_waits _ ⟨rfl, rfl⟩ ⟨rfl, rfl⟩ low⟩

theorem EachPulse.pulsed {claim : List PinCall → List PinCall → Prop} {rounds : List Nat}
    {more : List PinCall} (soon : Rounds rounds)
    (each : ∀ low, low < 250 → EachPulse claim (round low)) (last : EachPulse claim more)
    (longer : ∀ others sooner later, claim sooner later →
      claim sooner (later ++ (List.flatMap round others ++ more)))
    (further : ∀ earlier sooner later, claim sooner later → claim (earlier ++ sooner) later) :
    EachPulse claim (pulsed rounds ++ more) := by
  have all : EachPulse claim (rounds.flatMap round ++ more) := by
    induction rounds with
    | nil => exact last
    | cons low rest ih =>
      obtain ⟨here, others⟩ := List.forall_mem_cons.mp soon
      rw [List.flatMap_cons, List.append_assoc]
      exact (each low here).append (ih others) (longer rest) (further _)
  rw [I2c.pulsed, List.append_assoc]
  exact (EachPulse.of_none (by decide)).append all (longer rounds) (further _)

theorem timely_pulsed {rounds : List Nat} {more : List PinCall} (soon : Rounds rounds)
    (last : EachPulse Timely more) (quiet : lead more = 0) :
    EachPulse Timely (pulsed rounds ++ more) :=
  .pulsed soon (fun _ => timely_round) last
    (fun others _ _ timely => timely.before (lead_flatMap_round others quiet))
    fun earlier _ _ timely => timely.after earlier

theorem settles_pulsed {rounds : List Nat} {more : List PinCall} (soon : Rounds rounds)
    (last : EachPulse Settles more) : EachPulse Settles (pulsed rounds ++ more) :=
  .pulsed soon (fun low _ => settles_round low) last
    (fun others _ _ ⟨calm, rest, same, quiet⟩ =>
      ⟨calm, rest ++ (others.flatMap round ++ more), by simp [same], quiet⟩)
    fun _ _ _ settles => settles

/-- Each pulse of a whole recovery is timely. -/
theorem Course.timely {outcome : Except RecoveryError Unit} {made : List PinCall}
    (course : Course outcome made) : EachPulse Timely made := by
  cases course with
  | held => exact .of_none (by decide)
  | stretched soon few => exact timely_pulsed soon timely_heldRound rfl
  | stuck soon peeks =>
    rw [List.append_assoc]
    cases peeks with
    | high => exact timely_pulsed soon (.of_none (by decide)) rfl
    | spent => exact timely_pulsed soon (.of_none (by decide)) rfl
  | freed soon peeks =>
    rw [List.append_assoc, List.append_assoc]
    cases peeks with
    | high => exact timely_pulsed soon (.of_none (by decide)) rfl
    | spent => exact timely_pulsed soon (.of_none (by decide)) rfl

/-! ### How the lines are driven -/

/-- How a line was driven, with what came of it, in order. -/
def drives (wire : Wire) (made : List PinCall) : List (Bool × Option Unit) :=
  made.filterMap fun
    | .drive driven released result => if driven = wire then some (released, result) else none
    | _ => none

@[simp] theorem drives_append (wire : Wire) (made more : List PinCall) :
    drives wire (made ++ more) = drives wire made ++ drives wire more :=
  List.filterMap_append

@[simp] theorem drives_waits (wire : Wire) (looks : Nat) : drives wire (waits looks) = [] := by
  induction looks with
  | zero => rfl
  | succ looks ih =>
    rw [waits_succ, drives_append, ih]
    rfl

/-- Nothing drives the data line before the final check but the release at the start. -/
@[simp] theorem drives_data_pulsed (rounds : List Nat) :
    drives .data (pulsed rounds) = [(true, some ())] := by
  have each (low : Nat) : drives .data (round low) = [] := by
    rw [round, drives_append, drives_append, drives_append, drives_waits]
    rfl
  have none : drives .data (rounds.flatMap round) = [] := by
    induction rounds with
    | nil => rfl
    | cons low rest ih =>
      rw [List.flatMap_cons, drives_append, each, ih]
      rfl
  rw [pulsed, drives_append, none]
  rfl

/-- Each pulse ends with a release of the clock. -/
theorem drives_clock_pulsed (rounds : List Nat) :
    (drives .clock (pulsed rounds)).getLast? = some (true, some ()) := by
  have each (low : Nat) : drives .clock (round low) = [(false, some ()), (true, some ())] := by
    rw [round, drives_append, drives_append, drives_append, drives_waits]
    rfl
  have last : (drives .clock (rounds.flatMap round)).getLast?.or (some (true, some ())) =
      some (true, some ()) := by
    induction rounds with
    | nil => rfl
    | cons low rest ih =>
      rw [List.flatMap_cons, drives_append, List.getLast?_append, each, Option.or_assoc]
      exact ih
  rw [pulsed, drives_append, List.getLast?_append]
  exact last

theorem drives_data_heldRound : drives .data heldRound = [] := by
  rw [heldRound, drives_append, drives_append, drives_waits]
  rfl

theorem drives_clock_heldRound :
    drives .clock heldRound = [(false, some ()), (true, some ())] := by
  rw [heldRound, drives_append, drives_append, drives_waits]
  rfl

/-- What comes after the rounds without a drive of the clock leaves it released. -/
theorem released_append {made more : List PinCall}
    (released : (drives .clock made).getLast? = some (true, some ()))
    (none : drives .clock more = []) :
    (drives .clock (made ++ more)).getLast? = some (true, some ()) := by
  rw [drives_append, none, List.append_nil]
  exact released

theorem countP_waits (looks : Nat) : (waits looks).countP PinCall.pulses = 0 :=
  List.countP_eq_zero.mpr fun call member => by simp [waits_quiet looks call member]

theorem countP_pulsed (rounds : List Nat) :
    (pulsed rounds).countP PinCall.pulses = rounds.length := by
  have each (low : Nat) : (round low).countP PinCall.pulses = 1 := by
    rw [round, List.countP_append, List.countP_append, List.countP_append, countP_waits]
    rfl
  have all : (rounds.flatMap round).countP PinCall.pulses = rounds.length := by
    induction rounds with
    | nil => rfl
    | cons low rest ih =>
      rw [List.flatMap_cons, List.countP_append, each, ih, List.length_cons, Nat.add_comm]
  rw [pulsed, List.countP_append, all]
  exact Nat.zero_add _

theorem countP_heldRound : heldRound.countP PinCall.pulses = 1 := by
  rw [heldRound, List.countP_append, List.countP_append, countP_waits]
  rfl

/-! ### No call failed -/

theorem waits_sound (looks : Nat) : ∀ call ∈ waits looks, call.failed = false :=
  forall_mem_waits (fun call => call.failed = false) rfl rfl looks

theorem pulsed_sound (rounds : List Nat) : ∀ call ∈ pulsed rounds, call.failed = false := by
  have each (low : Nat) : ∀ call ∈ round low, call.failed = false :=
    List.forall_mem_append.mpr ⟨by decide, List.forall_mem_append.mpr ⟨by decide,
      List.forall_mem_append.mpr ⟨waits_sound low, by decide⟩⟩⟩
  refine List.forall_mem_append.mpr ⟨by decide, fun call member => ?_⟩
  obtain ⟨low, _, here⟩ := List.mem_flatMap.mp member
  exact each low call here

theorem heldRound_sound : ∀ call ∈ heldRound, call.failed = false :=
  List.forall_mem_append.mpr ⟨by decide, List.forall_mem_append.mpr ⟨by decide, waits_sound 250⟩⟩

namespace Course

variable {outcome : Except RecoveryError Unit} {made : List PinCall} (course : Course outcome made)

include course

theorem few : made.countP PinCall.pulses ≤ 9 := by
  cases course with
  | held => decide
  | stretched soon few =>
    rw [List.countP_append, countP_pulsed, countP_heldRound]
    exact few
  | stuck soon peeks =>
    rw [List.append_assoc, List.countP_append, countP_pulsed]
    cases peeks with
    | high few => exact Nat.le_of_lt few
    | spent all => exact Nat.le_of_eq all
  | freed soon peeks =>
    rw [List.append_assoc, List.append_assoc, List.countP_append, countP_pulsed]
    cases peeks with
    | high few => exact Nat.le_of_lt few
    | spent all => exact Nat.le_of_eq all

theorem sound : ∀ call ∈ made, call.failed = false := by
  cases course with
  | held => decide
  | stretched => exact List.forall_mem_append.mpr ⟨pulsed_sound _, heldRound_sound⟩
  | stuck soon peeks =>
    rw [List.append_assoc]
    refine List.forall_mem_append.mpr ⟨pulsed_sound _, ?_⟩
    cases peeks with
    | high => decide
    | spent => decide
  | freed soon peeks =>
    rw [List.append_assoc, List.append_assoc]
    refine List.forall_mem_append.mpr ⟨pulsed_sound _, ?_⟩
    cases peeks with
    | high => decide
    | spent => decide

end Course

/-! ### Any recovery -/

/-- **What is true of each recovery**, whatever the levels are and whichever call fails. -/
structure Recovered (outcome : Except RecoveryError Unit) (made : List PinCall) : Prop where
  /-- It has one of few forms, or begins like one until a call fails. -/
  course : UntilFault Course outcome made
  /-- There are nine clock pulses at most. -/
  few : made.countP PinCall.pulses ≤ 9
  /-- Each is made directly after the data line is seen low and is waited for only so long. -/
  timely : EachPulse Timely made
  /-- The bus is freed only if the clock is seen high at the start and after each pulse and the data
  line in the final check. It is freed by a start and a stop. -/
  checked : outcome = .ok () →
    (∃ rest, made = opening ++ .level .clock (some true) :: rest) ∧ EachPulse Settles made ∧
      ∃ earlier, made = earlier ++ .level .data (some true) :: startStop
  /-- Then the data line is driven low once, and both lines are released in the end. -/
  freed : outcome = .ok () →
    drives .data made = [(true, some ()), (false, some ()), (true, some ())] ∧
      (drives .clock made).getLast? = some (true, some ())
  /-- The clock is reported low only where it is seen low at the start, or at each look after a
  pulse. -/
  clockLow : outcome = .error .clockLow →
    made = opening ++ [.level .clock (some false)] ∨ ∃ earlier, made = earlier ++ heldRound
  /-- The data line is reported low only where it is seen low last. -/
  dataLow : outcome = .error .dataLow → ∃ earlier, made = earlier ++ [.level .data (some false)]
  /-- Then the data line was never driven low, and both lines are released in the end. -/
  untouched : outcome = .error .clockLow ∨ outcome = .error .dataLow →
    drives .data made = [(true, some ())] ∧
      (drives .clock made).getLast? = some (true, some ())
  /-- Nothing is done after a call that fails. -/
  stops : ∀ sooner call later, made = sooner ++ call :: later → call.failed = true → later = []
  /-- A fault is reported exactly if a call fails. -/
  fault : outcome = .error .pin ↔ ∃ call ∈ made, call.failed = true

theorem Course.recovered {outcome : Except RecoveryError Unit} {made : List PinCall}
    (course : Course outcome made) : Recovered outcome made where
  course := .whole course
  few := course.few
  timely := course.timely
  checked := by
    rintro rfl
    cases course with
    | @freed rounds peek soon peeks =>
      refine ⟨⟨rounds.flatMap round ++ peek ++ [.level .data (some true)] ++ startStop, ?_⟩, ?_,
        pulsed rounds ++ peek, ?_⟩
      · simp [pulsed]
      · rw [List.append_assoc, List.append_assoc]
        refine settles_pulsed soon (.of_none ?_)
        cases peeks with
        | high => decide
        | spent => decide
      · rw [List.append_assoc]
        rfl
  freed := by
    rintro rfl
    cases course with
    | freed soon peeks =>
      rw [List.append_assoc, List.append_assoc, drives_append, drives_data_pulsed]
      cases peeks with
      | high => exact ⟨rfl, released_append (drives_clock_pulsed _) rfl⟩
      | spent => exact ⟨rfl, released_append (drives_clock_pulsed _) rfl⟩
  clockLow := by
    rintro rfl
    cases course with
    | held => exact .inl rfl
    | stretched => exact .inr ⟨_, rfl⟩
  dataLow := by
    rintro rfl
    cases course with
    | stuck => exact ⟨_, rfl⟩
  untouched := by
    rintro (rfl | rfl)
    · cases course with
      | held => exact ⟨rfl, rfl⟩
      | stretched =>
        rw [drives_append, drives_append, drives_data_pulsed, drives_data_heldRound,
          List.getLast?_append, drives_clock_heldRound]
        exact ⟨rfl, rfl⟩
    · cases course with
      | stuck soon peeks =>
        rw [List.append_assoc, drives_append, drives_data_pulsed]
        cases peeks with
        | high => exact ⟨rfl, released_append (drives_clock_pulsed _) rfl⟩
        | spent => exact ⟨rfl, released_append (drives_clock_pulsed _) rfl⟩
  stops := by
    rintro sooner call later rfl failed
    exact absurd failed (by simp [course.sound call (by simp)])
  fault := by
    refine ⟨?_, fun ⟨call, member, failed⟩ => absurd failed (by simp [course.sound call member])⟩
    rintro rfl
    cases course

/-- A recovery that is cut off by a fault. -/
theorem Course.recovered_cut {outcome : Except RecoveryError Unit} {whole made : List PinCall}
    (course : Course outcome whole) (cut : CutOff whole made) :
    Recovered (.error .pin) made where
  course := .fault course cut
  few := by
    refine Nat.le_trans ?_ course.few
    obtain ⟨done, call, rest, rfl, _, rfl⟩ := cut
    rw [List.countP_append, List.countP_append, List.countP_singleton, List.countP_cons,
      PinCall.pulses_broken]
    exact Nat.add_le_add_left (Nat.le_add_left _ _) _
  timely := course.timely.cut cut (fun _ _ timely => ⟨timely.1, Nat.zero_le _⟩)
    fun _ later call rest timely =>
      ⟨timely.1, Nat.le_trans (lead_cut_le later call rest) timely.2⟩
  checked := nofun
  freed := nofun
  clockLow := nofun
  dataLow := nofun
  untouched := nofun
  stops := by
    obtain ⟨done, last, rest, rfl, _, rfl⟩ := cut
    intro sooner call later split failed
    rcases Action.concat_eq_split.mp split with ⟨_, _, same⟩ | ⟨between, _, rfl⟩
    · exact same
    · exact absurd failed (by simp [course.sound call (by simp)])
  fault := by
    refine ⟨fun _ => ?_, fun _ => rfl⟩
    obtain ⟨done, call, rest, _, failed, rfl⟩ := cut
    exact ⟨call.broken, by simp, failed⟩

theorem UntilFault.recovered {outcome : Except RecoveryError Unit} {made : List PinCall}
    (ended : UntilFault Course outcome made) : Recovered outcome made := by
  cases ended with
  | whole done => exact done.recovered
  | fault possible cut => exact possible.recovered_cut cut

/-! ### Pins with notes -/

namespace Pins

variable (pins : Pins σ ε)

theorem mirrors_set (wire : Wire) (released : Bool) :
    Action.Mirrors Prod.fst ((pins.traced id).set wire released) (pins.set wire released) :=
  fun _ => rfl

theorem mirrors_wait (microseconds : Nat) :
    Action.Mirrors Prod.fst ((pins.traced id).wait microseconds) (pins.wait microseconds) :=
  fun _ => rfl

/-- A look at a line, and what is done then. -/
theorem mirrors_look {next : Bool → Action (σ × List PinCall) RecoveryError Unit}
    {other : Bool → Action σ RecoveryError Unit} (wire : Wire)
    (rest : ∀ high, Action.Mirrors Prod.fst (next high) (other high)) :
    Action.Mirrors Prod.fst ((pins.traced id).look wire >>= next) (pins.look wire >>= other) :=
  Action.mirrors_bind (fun _ => rfl) rest

theorem mirrors_awaitClock (looks : Nat) :
    Action.Mirrors Prod.fst ((pins.traced id).awaitClock looks) (pins.awaitClock looks) := by
  induction looks with
  | zero => exact Action.mirrors_fail RecoveryError.clockLow
  | succ looks ih =>
    refine pins.mirrors_look .clock fun high => ?_
    cases high with
    | true => exact Action.mirrors_pure ()
    | false => exact Action.mirrors_bind (pins.mirrors_wait 1) fun _ => ih

theorem mirrors_pulse : Action.Mirrors Prod.fst (pins.traced id).pulse pins.pulse :=
  Action.mirrors_bind (pins.mirrors_set .clock false) fun _ =>
    Action.mirrors_bind (pins.mirrors_wait halfPeriod) fun _ =>
      Action.mirrors_bind (pins.mirrors_set .clock true) fun _ =>
        Action.mirrors_bind (pins.mirrors_wait halfPeriod) fun _ =>
          pins.mirrors_awaitClock stretchLimit

theorem mirrors_pulses (most : Nat) :
    Action.Mirrors Prod.fst ((pins.traced id).pulses most) (pins.pulses most) := by
  induction most with
  | zero => exact Action.mirrors_pure ()
  | succ most ih =>
    refine pins.mirrors_look .data fun high => ?_
    cases high with
    | true => exact Action.mirrors_pure ()
    | false => exact Action.mirrors_bind pins.mirrors_pulse fun _ => ih

theorem mirrors_finish : Action.Mirrors Prod.fst (pins.traced id).finish pins.finish := by
  refine pins.mirrors_look .data fun high => ?_
  cases high with
  | false => exact Action.mirrors_fail RecoveryError.dataLow
  | true =>
    exact Action.mirrors_bind (pins.mirrors_set .data false) fun _ =>
      Action.mirrors_bind (pins.mirrors_wait halfPeriod) fun _ =>
        Action.mirrors_bind (pins.mirrors_set .data true) fun _ =>
          pins.mirrors_wait halfPeriod

/-- **Pins with notes** are recovered as they are without. -/
theorem mirrors_recover : Action.Mirrors Prod.fst (pins.traced id).recover pins.recover := by
  refine Action.mirrors_bind (pins.mirrors_set .data true) fun _ =>
    Action.mirrors_bind (pins.mirrors_set .clock true) fun _ =>
      Action.mirrors_bind (pins.mirrors_wait halfPeriod) fun _ =>
        pins.mirrors_look .clock fun high => ?_
  cases high with
  | false => exact Action.mirrors_fail RecoveryError.clockLow
  | true => exact Action.mirrors_bind (pins.mirrors_pulses maxPulses) fun _ => pins.mirrors_finish

/-- **Recovery is bounded and leaves the lines free.** With notes of its calls it does what it does
without, and whatever the levels are and whichever call fails, the notes are those of a recovery. -/
theorem recover_recovers (line : σ) :
    let ended := (pins.traced id).recover.perform (line, [])
    pins.recover.perform line = (ended.1, ended.2.1) ∧ Recovered ended.1 ended.2.2.reverse := by
  refine ⟨pins.mirrors_recover (line, []), ?_⟩
  have ran := pins.follows_recover.runs line []
  generalize (pins.traced id).recover.perform (line, []) = performed at ran ⊢
  obtain ⟨outcome, _, after⟩ := performed
  obtain ⟨made, rfl, ended⟩ := ran
  rw [List.append_nil, List.reverse_reverse]
  exact ended.recovered

/-- A peer lets the data line go after one pulse, for which it stretches the clock twice. -/
example :
    let pins : Pins (List Bool) Empty := {
      drive _ _ := pure ()
      level _ := Action.ofStep fun levels => (.ok (levels.headD true), levels.tail)
      pause _ levels := levels }
    let ended := (pins.traced id).recover.perform ([true, false, false, false], [])
    ended.1.toOption = some () ∧ ended.2.2.countP PinCall.pulses = 1 := by
  decide

end Pins

end WireBridge.I2c
