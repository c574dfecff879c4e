/-
**Searches that go on after an error.**

A pass that fails at some call has already written the path so far over the code of the last pass.
The next pass takes the same branches there: where it has a choice before the last discrepancy, it
finds the branch that was taken, and elsewhere it does not look at the code. So it ends as the pass
would have ended that failed.

* `Search.Trial`, `Search.trials`: passes one after the other under a schedule of faults;
* `Search.Resumes`: a pass that meets a fault leaves a search and a line from which the next pass
  does the same; `Search.Resumes.trials` is what follows for a whole search;
* `Search.Trails`: a search that went further along the path of another one;
* `Sim.Line.Alike`: lines that a reset makes the same;
* `Sim.walk_weathers`, `Sim.pass_weathers`, `Sim.next_resumes`: passes over a simulated line.
-/

import WireBridge.Proofs.Bus.Ending
import WireBridge.Proofs.Rom.SendingOrder
import WireBridge.Proofs.Sim.Slots
import WireBridge.Proofs.Sim.Weathering

namespace WireBridge

namespace Search

open Faults (Weathers beneath)

variable {σ ε : Type}

/-! ### Passes under a schedule -/

/-- A pass under a schedule of faults. -/
structure Trial (ε : Type) where
  /-- The faults of its calls. -/
  met : List (BusError ε)
  /-- What it told. -/
  outcome : Except (BusError ε) (Option Address)

/-- Passes one after the other under a schedule of faults. -/
def trials (master : Master σ ε) : Nat → Search × Faults (BusError ε) × σ → List (Trial ε)
  | 0, _ => []
  | more + 1, (search, faults, state) =>
    let (outcome, reached) := (next master.faulty).perform (search, faults, state)
    ⟨faults.met reached.2.1.calls, outcome⟩ :: trials master more reached

/-- What the passes told that met no fault. -/
def undisturbed (trials : List (Trial ε)) : List (Except (BusError ε) (Option Address)) :=
  (trials.filter fun trial => trial.met.isEmpty).map Trial.outcome

/-- A pass that met at most one fault, and failed with it. -/
def Trial.Settled (trial : Trial ε) : Prop :=
  trial.met = [] ∨ ∃ fault, trial.met = [fault] ∧ trial.outcome = .error fault

/-- A pass that meets a fault fails with it and leaves a search and a line from which the next pass
does what this one does without the fault. -/
def Resumes (master : Master σ ε) : Prop :=
  ∀ (search : Search) (faults : Faults (BusError ε)) (state : σ), faults.Interrupting →
    Weathers beneath faults ((next master).perform (search, state))
      (fun again => (next master).perform again = (next master).perform (search, state))
      ((next master.faulty).perform (search, faults, state))

/-- The first of some passes under a schedule, and the others after it. -/
theorem trials_succ (master : Master σ ε) (more : Nat) {search : Search}
    {faults : Faults (BusError ε)} {state : σ} {after : Search × Faults (BusError ε) × σ}
    {outcome : Except (BusError ε) (Option Address)}
    (nextEq : (next master.faulty).perform (search, faults, state) = (outcome, after)) :
    trials master (more + 1) (search, faults, state) =
      ⟨faults.met after.2.1.calls, outcome⟩ :: trials master more after := by
  rw [trials, nextEq]

theorem undisturbed_calm {trial : Trial ε} (calm : trial.met = []) (rest : List (Trial ε)) :
    undisturbed (trial :: rest) = trial.outcome :: undisturbed rest := by
  have kept : trial.met.isEmpty = true := by rw [calm]; rfl
  rw [undisturbed, List.filter_cons, if_pos kept]
  rfl

theorem undisturbed_struck {trial : Trial ε} {fault : BusError ε} (struck : trial.met = [fault])
    (rest : List (Trial ε)) : undisturbed (trial :: rest) = undisturbed rest := by
  have dropped : ¬ trial.met.isEmpty = true := by rw [struck]; exact Bool.false_ne_true
  rw [undisturbed, List.filter_cons, if_neg dropped]
  rfl

theorem length_undisturbed (trials : List (Trial ε)) :
    (undisturbed trials).length = (trials.map Trial.met).countP List.isEmpty := by
  rw [undisturbed, List.length_map, List.countP_map, List.countP_eq_length_filter]
  rfl

/-- Passes tell the same wherever the first of them does the same. -/
theorem calls_congr {master : Master σ ε} {first second : Search × σ}
    (same : (next master).perform first = (next master).perform second) (count : Nat) :
    (calls master count first).1 = (calls master count second).1 := by
  cases count with
  | zero => rfl
  | succ more => rw [calls, calls, same]

/-- **A search goes on after errors.** Every pass that meets a fault fails with it. The other passes
tell what passes without faults tell. -/
theorem Resumes.trials {master : Master σ ε} (resumes : Resumes master) (count : Nat) :
    ∀ (search : Search) (faults : Faults (BusError ε)) (state : σ), faults.Interrupting →
      (∀ trial ∈ Search.trials master count (search, faults, state), trial.Settled) ∧
      undisturbed (Search.trials master count (search, faults, state)) =
        (calls master (undisturbed (Search.trials master count (search, faults, state))).length
          (search, state)).1 := by
  induction count with
  | zero => exact fun _ _ _ _ => ⟨fun trial inside => absurd inside List.not_mem_nil, rfl⟩
  | succ more ih =>
    intro search faults state interrupting
    rcases resumes search faults state interrupting with
      ⟨spent, none, same⟩ | ⟨spent, none, fault, some, ⟨again, reached⟩, continues, failed⟩
    · rcases performed : (next master).perform (search, state) with ⟨outcome, after, reached⟩
      rw [performed] at same
      obtain ⟨settled, told⟩ := ih after (faults.after spent) reached interrupting
      have met : faults.met (faults.after spent).calls = [] := none.met_eq
      rw [trials_succ master more same]
      refine ⟨List.forall_mem_cons.mpr ⟨.inl met, settled⟩, ?_⟩
      rw [undisturbed_calm met, List.length_cons, calls_succ master _ performed]
      exact congrArg (outcome :: ·) told
    · obtain ⟨settled, told⟩ := ih again (faults.after (spent + 1)) reached interrupting
      have met : faults.met (faults.after (spent + 1)).calls = [fault] := none.met_struck some
      rw [trials_succ master more failed]
      refine ⟨List.forall_mem_cons.mpr ⟨.inr ⟨fault, met, rfl⟩, settled⟩, ?_⟩
      rw [undisturbed_struck met]
      exact told.trans (calls_congr continues _)

/-- What follows the reset of a pass. -/
def afterReset (master : Master σ ε) :
    Except (BusError ε) ResetStatus → Action (Search × σ) (BusError ε) (Option Address)
  | .ok _ => pass master
  | .error .noDevicePresent => stop
  | .error error => Action.fail error

/-- A pass of a search that has not ended starts with a reset. -/
theorem next_going (master : Master σ ε) {search : Search} (going : search.finished = false)
    (state : σ) :
    (next master).perform (search, state) =
      (Action.attempt (Action.onSecond master.strict.reset) >>= afterReset master).perform
        (search, state) := by
  unfold next
  rw [Action.perform_current_bind]
  dsimp only
  rw [going, if_neg Bool.false_ne_true, Action.perform_bind, Action.perform_bind]
  generalize (Action.attempt (Action.onSecond master.strict.reset) :
    Action (Search × σ) (BusError ε) _).perform (search, state) = performed
  rcases performed with ⟨error | (error | status), reached⟩
  · rfl
  · cases error <;> rfl
  · rfl

/-- What follows the walk of a pass. -/
def afterWalk : Option Nat → Action (Search × σ) (BusError ε) (Option Address)
  | none => stop
  | some lastZero => Action.onFirst (Action.ofStep fun search => search.conclude lastZero)

/-! ### Paths that were gone before -/

/-- A search that differs from another one only in branches from a position on. -/
structure Trails (position : Nat) (before after : Search) : Prop where
  same : after = { before with rom := after.rom }
  bits : ∀ earlier, earlier < position → after.rom.bit earlier = before.rom.bit earlier

theorem Trails.refl (position : Nat) (search : Search) : Trails position search search :=
  ⟨rfl, fun _ _ => rfl⟩

/-- One that follows another one after a branch was taken has taken that branch. -/
theorem Trails.follow {position : Nat} (inside : position < 64) {before after : Search}
    {taken : Bool} (trails : Trails (position + 1) (before.follow (position + 1) taken) after) :
    Trails position before after ∧ after.rom.bit position = taken := by
  refine ⟨⟨trails.same, fun earlier below => ?_⟩, ?_⟩
  · rw [trails.bits earlier (by omega)]
    show (before.rom.setBit position taken).bit earlier = _
    rw [Address.bit_setBit _ inside, if_neg (by omega)]
  · rw [trails.bits position (Nat.lt_succ_self position)]
    show (before.rom.setBit position taken).bit position = _
    rw [Address.bit_setBit _ inside, if_pos rfl]

/-- A branch that was taken is taken again without a change. -/
theorem follow_again {search : Search} {position : Nat} (inside : position < 64) {taken : Bool}
    (bit : search.rom.bit position = taken) : search.follow (position + 1) taken = search := by
  have same : search.rom.setBit position taken = search.rom := by
    refine Address.eq_of_bit fun other _ => ?_
    rw [Address.bit_setBit _ inside]
    by_cases here : other = position
    · rw [if_pos here, here, bit]
    · rw [if_neg here]
  show ({ search with rom := search.rom.setBit position taken } : Search) = search
  rw [same]

/-- Where a search does not take the branch that another one takes, it takes one that was taken
before. -/
theorem Trails.direction {position : Nat} {before after : Search}
    (trails : Trails position before after) :
    after.direction (position + 1) = before.direction (position + 1) ∨
      after.direction (position + 1) = after.rom.bit position := by
  rw [trails.same]
  unfold Search.direction
  by_cases early : position + 1 < before.lastDiscrepancy
  · exact .inr (if_pos early)
  · exact .inl (by rw [if_neg early, if_neg early])

end Search

namespace Sim

open Faults (Weathers beneath guard_weathers)
open Search (Trails Trial respond walk pass next calls trials undisturbed Resumes)

variable {ε : Type} {faults : Faults (BusError ε)}

/-! ### Lines that a reset makes the same -/

namespace Line

/-- Two lines that a reset makes the same. -/
def Alike (first second : Line) : Prop := second.reset = first.reset

theorem Alike.refl (line : Line) : Alike line line := rfl

theorem Alike.trans {first second third : Line} (one : Alike first second)
    (other : Alike second third) : Alike first third :=
  Eq.trans other one

/-- In a search, at most some slots of the position have been read. -/
def ReadAtMost (line : Line) (count : Nat) : Prop :=
  ∀ position slots, line.phase = .searching position slots → slots ≤ count

/-- A slot can be read without a change that a reset would leave. -/
theorem readBit_alike {line : Line} {count : Nat} (few : line.ReadAtMost count)
    (within : count < 255) : Alike line line.readBit.2 := by
  unfold readBit
  split
  · next position slots phase =>
    have bounded := few position slots phase
    have counted : decide (255 ≤ slots) = false := decide_eq_false (by omega)
    show reset { line with
      phase := .searching position (slots + 1)
      overrun := line.overrun || decide (255 ≤ slots) } = _
    rw [counted, Bool.or_false]
    rfl
  · rfl

theorem readBit_atMost {line : Line} {count : Nat} (few : line.ReadAtMost count) :
    line.readBit.2.ReadAtMost (count + 1) := by
  intro position slots phase
  unfold readBit at phase
  split at phase
  · next before read here =>
    obtain ⟨-, rfl⟩ := Phase.searching.inj phase
    exact Nat.succ_le_succ (few before read here)
  · exact Nat.le_succ_of_le (few position slots phase)

theorem writeBit_alike (line : Line) (value : Bool) : Alike line (line.writeBit value) := by
  unfold writeBit
  split
  · rfl
  · rfl

/-- After a written bit no slot of the position has been read. -/
theorem writeBit_atMost (line : Line) (value : Bool) : (line.writeBit value).ReadAtMost 0 := by
  intro position slots phase
  unfold writeBit at phase
  split at phase
  · dsimp only at phase
    split at phase
    · exact nomatch phase
    · obtain ⟨-, rfl⟩ := Phase.searching.inj phase
      exact Nat.le_refl 0
  · next other => exact absurd phase (other position slots)

/-- **A position** makes no change that a reset would leave. -/
theorem position_alike {line : Line} (few : line.ReadAtMost 0) (direction : Bool) :
    Alike line (line.position direction).2 := by
  have first := readBit_alike few (by decide)
  have second := readBit_alike (readBit_atMost few) (by decide)
  unfold position
  dsimp only
  split
  · exact first.trans second
  · exact (first.trans second).trans (writeBit_alike _ _)

/-- After a position that was answered, no slot of the next one has been read. -/
theorem position_atMost {line reached : Line} {direction : Bool} {triplet : Triplet}
    (answered : line.position direction = (some triplet, reached)) : reached.ReadAtMost 0 := by
  unfold position at answered
  dsimp only at answered
  split at answered
  · exact nomatch (congrArg Prod.fst answered : Option.none = some triplet)
  · obtain ⟨-, rfl⟩ := Prod.mk.inj answered
    exact writeBit_atMost _ _

/-- **A branch that was taken is taken again** if it is asked for. -/
theorem position_again {line reached : Line} {direction : Bool} {triplet : Triplet}
    (answered : line.position direction = (some triplet, reached)) :
    line.position triplet.taken = (some triplet, reached) := by
  unfold position at answered ⊢
  dsimp only at answered ⊢
  split at answered
  · exact nomatch (congrArg Prod.fst answered : Option.none = some triplet)
  · next someone =>
    rw [if_neg someone]
    obtain ⟨tripletEq, rfl⟩ := Prod.mk.inj answered
    obtain rfl := Option.some.inj tripletEq
    by_cases choice : line.readBit.1 = line.readBit.2.readBit.1
    · simp only [if_pos choice]
    · simp only [if_neg choice]

end Line

/-! ### Passes -/

/-- A call leaves the line alike, with its effect and without it. -/
theorem call_weathers {α : Type} (faults : Faults (BusError ε))
    (action : Action Line (BusError ε) α) {start line : Line} (alike : Line.Alike start line) :
    Weathers Prod.mk faults (action.perform line) (Line.Alike start)
      ((Faults.guard action).perform (faults, line)) :=
  (guard_weathers action faults line).mono fun _ same => same ▸ alike

/-- The slots of a position under a schedule. Without triplets they take up to four calls. -/
theorem slots_weathers (interrupting : faults.Interrupting) (triplets direction : Bool)
    {line : Line} (few : line.ReadAtMost 0) :
    Weathers Prod.mk faults ((Search.slots (bus triplets) direction).perform line) (Line.Alike line)
      ((Search.slots (bus triplets).faulty direction).perform (faults, line)) := by
  unfold Search.slots
  refine Weathers.attempt_bind (call_weathers _ _ (.refl line)) (fun call fault some => ?_)
    fun spent => ?_
  · cases interrupting call fault some <;> rfl
  · cases triplets with
    | true => exact .still _
    | false =>
      have first := Line.readBit_alike few (by decide)
      have second := first.trans (Line.readBit_alike (Line.readBit_atMost few) (by decide))
      refine Weathers.bind (call_weathers _ _ (.refl line)) fun id afterId read spent => ?_
      obtain ⟨-, rfl⟩ := Prod.mk.inj read
      refine Weathers.bind (call_weathers _ _ first) fun complement afterBoth read spent => ?_
      obtain ⟨-, rfl⟩ := Prod.mk.inj read
      dsimp only
      split
      · exact .still _
      · exact Weathers.bind (call_weathers _ _ second) fun _ _ _ _ => .still _

/-- **A position under a schedule.** -/
theorem respond_weathers (interrupting : faults.Interrupting) (triplets direction : Bool)
    {line : Line} (few : line.ReadAtMost 0) :
    Weathers Prod.mk faults ((respond (bus triplets) direction).perform line) (Line.Alike line)
      ((respond (bus triplets).faulty direction).perform (faults, line)) :=
  (slots_weathers interrupting triplets direction few).bind fun _ _ _ _ => .still _

/-- A search and a line from which the last positions of a pass are gone through as from others. -/
structure Retraces (master : Master Line ε) (remaining lastZero : Nat)
    (start again : Search × Line) : Prop where
  alike : Line.Alike start.2 again.2
  trails : Trails (64 - remaining) start.1 again.1
  same : (walk master remaining lastZero).perform (again.1, start.2) =
    (walk master remaining lastZero).perform start

/-- What follows a position that was answered. -/
theorem perform_resume {σ : Type} (master : Master σ ε) (left lastZero : Nat) (triplet : Triplet)
    (search : Search) (state : σ) :
    (Search.resume master left lastZero (some triplet)).perform (search, state) =
      (walk master left (Search.passedOver triplet lastZero (64 - left))).perform
        (search.follow (64 - left) triplet.taken, state) := rfl

/-- A walk over a simulated line. -/
theorem walk_perform (triplets : Bool) (left lastZero : Nat) (search : Search) (line : Line) :
    (walk (bus triplets : Master Line ε) (left + 1) lastZero).perform (search, line) =
      (Search.resume (bus triplets) left lastZero
        (line.position (search.direction (64 - left))).1).perform
          (search, (line.position (search.direction (64 - left))).2) := by
  rw [Search.walk_succ_eq, Action.perform_current_bind]
  dsimp only
  rw [Action.perform_bind, Action.perform_onSecond, Line.respond_perform]

/-- **A position that was gone through before is gone through again.** -/
theorem Retraces.step {triplets : Bool} {left lastZero : Nat} (inside : left < 64) {search : Search}
    {line reached : Line} {triplet : Triplet} (few : line.ReadAtMost 0)
    (answered : line.position (search.direction (64 - left)) = (some triplet, reached))
    {again : Search × Line}
    (retraces : Retraces (bus triplets : Master Line ε) left
      (Search.passedOver triplet lastZero (64 - left))
      (search.follow (64 - left) triplet.taken, reached) again) :
    Retraces (bus triplets : Master Line ε) (left + 1) lastZero (search, line) again := by
  obtain ⟨after, later⟩ := again
  obtain ⟨alike, trails, same⟩ := retraces
  dsimp only at alike trails same
  have there : 64 - left = 64 - (left + 1) + 1 := by omega
  have within : 64 - (left + 1) < 64 := by omega
  generalize here : 64 - (left + 1) = position at there within
  rw [there] at answered trails same
  obtain ⟨gone, bit⟩ := trails.follow within
  have once : line.position (after.direction (position + 1)) = (some triplet, reached) := by
    rcases gone.direction with asked | taken
    · rw [asked, answered]
    · rw [taken, bit]
      exact Line.position_again answered
  refine ⟨?_, here ▸ gone, ?_⟩
  · have passed := Line.position_alike few (search.direction (position + 1))
    rw [answered] at passed
    exact passed.trans alike
  · show (walk _ (left + 1) lastZero).perform (after, line) = _
    rw [walk_perform, walk_perform, there, once, answered, perform_resume, perform_resume, there,
      Search.follow_again within bit]
    exact same

/-- **The positions of a pass under a schedule.** -/
theorem walk_weathers (triplets : Bool) (remaining : Nat) :
    ∀ {faults : Faults (BusError ε)} (lastZero : Nat) (search : Search) {line : Line},
      remaining ≤ 64 → faults.Interrupting → line.ReadAtMost 0 →
      Weathers beneath faults ((walk (bus triplets) remaining lastZero).perform (search, line))
        (Retraces (bus triplets : Master Line ε) remaining lastZero (search, line))
        ((walk (bus triplets).faulty remaining lastZero).perform (search, faults, line)) := by
  induction remaining with
  | zero => exact fun _ _ _ _ _ _ => .still _
  | succ left ih =>
    intro faults lastZero search line bounded interrupting few
    rw [Search.walk_succ_eq, Search.walk_succ_eq, Action.perform_current_bind,
      Action.perform_current_bind]
    dsimp only
    have here := respond_weathers interrupting triplets (search.direction (64 - left)) few
    refine Weathers.bind ((here.onSecond search).mono ?_) fun answer middle answered spent => ?_
    · rintro ⟨_, reached⟩ ⟨rfl, alike⟩
      exact ⟨alike, .refl _ _, rfl⟩
    · rw [Action.perform_onSecond, Line.respond_perform] at answered
      obtain ⟨answerEq, rfl⟩ := Prod.mk.inj answered
      obtain answerEq := Except.ok.inj answerEq
      cases answer with
      | none => exact .still _
      | some triplet =>
        have position : line.position (search.direction (64 - left)) =
            (some triplet, (line.position (search.direction (64 - left))).2) :=
          Prod.ext answerEq rfl
        have later : (faults.after spent).Interrupting := interrupting
        exact (ih (Search.passedOver triplet lastZero (64 - left)) _ (by omega) later
          (Line.position_atMost position)).mono fun again => Retraces.step (by omega) few position

/-- A search and a line from which the next pass does what it does from others, once the line has
been reset. -/
structure Repeats (master : Master Line ε) (start again : Search × Line) : Prop where
  alike : Line.Alike start.2 again.2
  same : again.1 = { start.1 with rom := again.1.rom }
  passEq : (pass master).perform (again.1, start.2.reset.2) =
    (pass master).perform (start.1, start.2.reset.2)

/-- The line at the first position of a pass. -/
def first (kind : SearchKind) (line : Line) : Line :=
  line.reset.2.writeByte kind.command.code

theorem first_alike (kind : SearchKind) (line : Line) : Line.Alike line (first kind line) := by
  cases kind <;> rfl

theorem first_atMost (kind : SearchKind) (line : Line) : (first kind line).ReadAtMost 0 := by
  have phase : (first kind line).phase = .searching 0 0 := by cases kind <;> rfl
  intro position slots here
  obtain ⟨-, rfl⟩ := Phase.searching.inj (phase.symm.trans here)
  exact Nat.le_refl 0

/-- A walk that is the same makes a pass the same. -/
theorem Repeats.of_retraces {triplets : Bool} {search : Search} {line : Line}
    {again : Search × Line}
    (retraces : Retraces (bus triplets : Master Line ε) 64 0 (search, first search.kind line)
      again) :
    Repeats (bus triplets : Master Line ε) (search, line) again := by
  have same : again.1 = { search with rom := again.1.rom } := retraces.trails.same
  have kind : again.1.kind = search.kind := by rw [same]
  refine ⟨(first_alike search.kind line).trans retraces.alike, same, ?_⟩
  have unfolded (search : Search) : (pass (bus triplets : Master Line ε)).perform
      (search, line.reset.2) =
        (walk (bus triplets : Master Line ε) 64 0 >>= Search.afterWalk).perform
          (search, first search.kind line) := by
    cases triplets <;> rfl
  rw [unfolded, unfolded, kind, Action.perform_bind, Action.perform_bind, retraces.same]

/-- **A pass under a schedule**, after the reset. -/
theorem pass_weathers (interrupting : faults.Interrupting) (triplets : Bool) (search : Search)
    (line : Line) :
    Weathers beneath faults ((pass (bus triplets)).perform (search, line.reset.2))
      (Repeats (bus triplets : Master Line ε) (search, line))
      ((pass (bus triplets).faulty).perform (search, faults, line.reset.2)) := by
  unfold Search.pass
  rw [Action.perform_current_bind, Action.perform_current_bind]
  dsimp only
  have command := call_weathers faults
    ((bus triplets : Master Line ε).writeByte search.kind.command.code) (.refl line.reset.2)
  refine Weathers.bind ((command.onSecond search).mono ?_) fun _ middle written spent => ?_
  · rintro ⟨_, reached⟩ ⟨rfl, alike⟩
    exact ⟨alike, rfl, rfl⟩
  · have there : middle = (search, first search.kind line) := by
      have reached := congrArg Prod.snd written
      cases triplets with
      | true => exact reached.symm
      | false => exact reached.symm
    rw [there]
    have later : (faults.after spent).Interrupting := interrupting
    have walked := walk_weathers triplets 64 0 search (Nat.le_refl 64) later
      (first_atMost search.kind line)
    refine Weathers.bind (walked.mono fun _ => Repeats.of_retraces) fun found _ _ _ => ?_
    cases found with
    | none => exact .still _
    | some lastZero => exact .still _

/-- A reset of a simulated line. -/
theorem strict_reset_perform (triplets : Bool) (line : Line) :
    (bus triplets : Master Line ε).strict.reset.perform line =
      (line.reset.1.answered, line.reset.2) := by
  cases triplets <;> rfl

/-- A reset under a schedule. -/
theorem reset_weathers (triplets : Bool) (faults : Faults (BusError ε)) (line : Line) :
    Weathers Prod.mk faults ((bus triplets : Master Line ε).strict.reset.perform line) (· = line)
      ((bus triplets : Master Line ε).faulty.strict.reset.perform (faults, line)) :=
  (guard_weathers _ faults line).bind fun _ _ _ _ => .still _

/-- A pass after a reset that was answered. -/
theorem next_answered {triplets : Bool} {search : Search} (going : search.finished = false)
    {line : Line} {status : ResetStatus}
    (answered : (line.reset.1.answered : Except (BusError ε) ResetStatus) = .ok status) :
    (next (bus triplets : Master Line ε)).perform (search, line) =
      (pass (bus triplets)).perform (search, line.reset.2) := by
  rw [Search.next_going _ going, Action.perform_bind, Action.perform_attempt,
    Action.perform_onSecond, strict_reset_perform, answered]
  rfl

theorem Repeats.next_eq {triplets : Bool} {search : Search} {line : Line} {again : Search × Line}
    (repeats : Repeats (bus triplets : Master Line ε) (search, line) again)
    (going : search.finished = false) {status : ResetStatus}
    (answered : (line.reset.1.answered : Except (BusError ε) ResetStatus) = .ok status) :
    (next (bus triplets : Master Line ε)).perform again =
      (next (bus triplets)).perform (search, line) := by
  obtain ⟨after, reached⟩ := again
  have same : after = { search with rom := after.rom } := repeats.same
  have reset : reached.reset = line.reset := repeats.alike
  have goingAfter : after.finished = false := by rw [same]; exact going
  rw [next_answered going answered, next_answered goingAfter (by rw [reset, answered]), reset]
  exact repeats.passEq

/-- **A pass that met a fault is made again.** -/
theorem next_resumes (triplets : Bool) : Resumes (bus triplets : Master Line ε) := by
  intro search faults line interrupting
  cases going : search.finished with
  | true =>
    rw [Search.next_finished _ going, Search.next_finished _ going]
    exact .still _
  | false =>
    rw [Search.next_going (bus triplets).faulty going,
      Search.next_going (bus triplets) going]
    have asked := (reset_weathers triplets faults line).onSecond search
    refine Weathers.attempt_bind (asked.mono ?_) (fun call fault some => ?_) fun spent => ?_
    · rintro ⟨_, _⟩ ⟨rfl, rfl⟩
      exact Search.next_going _ going _
    · cases interrupting call fault some <;> rfl
    · rw [Action.perform_onSecond, strict_reset_perform]
      cases answered : (line.reset.1.answered : Except (BusError ε) ResetStatus) with
      | error error => cases error <;> exact .still _
      | ok status =>
        have later : (faults.after spent).Interrupting := interrupting
        refine (pass_weathers later triplets search line).mono fun again repeats => ?_
        rw [← Search.next_going (bus triplets) going]
        exact repeats.next_eq going answered

/-- **A search survives errors.** On any line, wherever a search of any kind is, and on a bus master
with or without triplets: if calls fail without effect, each pass that meets such a fault fails with
it, and the other passes tell what they would tell without the faults. -/
theorem trials_resume (triplets : Bool) {faults : Faults (BusError ε)}
    (interrupting : faults.Interrupting) (search : Search) (line : Line) (count : Nat) :
    (∀ trial ∈ trials (bus triplets) count (search, faults, line), trial.Settled) ∧
      undisturbed (trials (bus triplets) count (search, faults, line)) =
        (calls (bus triplets : Master Line ε)
          (undisturbed (trials (bus triplets) count (search, faults, line))).length
          (search, line)).1 :=
  (next_resumes triplets).trials count search faults line interrupting

/-- Two of four passes over two devices meet a fault, in the middle of a pass and at a reset. -/
theorem trials_resume_two :
    let line : Line :=
      { Line.empty with
        devices := [.fresh ⟨1⟩ .presenceOnly, .fresh ⟨0x9b00000000000728⟩ .presenceOnly] }
    let faults : Faults (BusError Nat) := .ofSpans [⟨40, 1, .shortCircuit⟩, ⟨107, 1, .other 7⟩]
    let passes := trials (bus true) 4 (Search.start .normal none, faults, line)
    faults.Interrupting ∧
      passes.map Trial.met = [[.shortCircuit], [], [.other 7], []] ∧
      undisturbed passes =
        (calls (bus true : Master Line Nat) 2 (Search.start .normal none, line)).1 := by
  intro line faults passes
  have interrupting : faults.Interrupting := by
    refine Faults.interrupting_ofSpans ?_
    simp only [List.forall_mem_cons]
    exact ⟨.shortCircuit, .other 7, fun _ inside => absurd inside List.not_mem_nil⟩
  have met : passes.map Trial.met = [[.shortCircuit], [], [.other 7], []] := by decide +kernel
  have length : (undisturbed passes).length = 2 := by
    rw [Search.length_undisturbed, met]
    rfl
  have told := (trials_resume true interrupting (Search.start .normal none) line 4).2
  exact ⟨interrupting, met, length ▸ told⟩

end Sim

end WireBridge
