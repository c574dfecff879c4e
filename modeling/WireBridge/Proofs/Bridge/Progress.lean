/-
**Every command is answered in time.**

In a session that goes on, a turn follows whatever is handed over. So a command that waits comes to
the front again and again, and on a clock that goes on its timer expires. Then it is answered, or
its conversion is started, after which it is answered the next time.

* `Bridge.Goes`: the ledgers of a session that goes on;
* `Bridge.Goes.comes_up`: a command that waits is taken;
* `Bridge.Goes.changes`: it is answered, or its conversion is started;
* `Bridge.Goes.answers`: **it is answered.**
-/

import WireBridge.Proofs.Bridge.Accounting
import WireBridge.Proofs.Bridge.Fairness
import WireBridge.Proofs.Bridge.Phases

namespace WireBridge.Bridge

variable {β ω ε : Type} (lines : ChannelId → Master (β × ω) ε)

/-- A poll that took a command, which waits again if it is put back. -/
structure Poll.Of (poll : Poll β ω) (command : Command) (number : Nat) (reached : Ledger β ω) :
    Prop where
  same : (poll.command, poll.number) = (command, number)
  took : poll.Took lines
  back : ∀ next, poll.turn.returned = some next → (next, number) ∈ reached.waiting

/-- A command is put back as it was, before its time, or it waits for its conversion. -/
theorem Poll.Of.returned {poll : Poll β ω} {command next : Command} {number : Nat}
    {reached : Ledger β ω} (taken : poll.Of lines command number reached)
    (returned : poll.turn.returned = some next) :
    (next, number) ∈ reached.waiting ∧
      ((next = command ∧ command.timer.expired poll.now = false) ∨
        (command.phase ≠ .result ∧ next.phase = .result)) := by
  obtain ⟨bridge, after, _, _, taking⟩ := taken.took
  obtain ⟨rfl, _⟩ := Prod.mk.inj taken.same
  refine ⟨taken.back next returned, ?_⟩
  rcases taking.returned returned with ⟨same, early⟩ | ⟨wait, rfl, _, phase, _⟩
  · exact .inl ⟨same, early⟩
  · exact .inr ⟨phase, rfl⟩

/-- A command that is not put back is answered. -/
theorem Poll.Took.outcome {poll : Poll β ω} (took : poll.Took lines)
    (returned : poll.turn.returned = none) :
    ∃ outcome, poll.turn.deliveries = [.ofOutcome poll.command outcome] := by
  obtain ⟨_, _, _, _, taking⟩ := took
  obtain ⟨_, ⟨_, _, other, _⟩ | ⟨_, answered⟩⟩ := taking.answers
  · exact absurd (returned.symm.trans other) (by simp)
  · exact answered

/-- The command at the front is taken. -/
theorem step_taken {ledger : Ledger β ω} (sound : ledger.Sound) {command : Command} {number : Nat}
    {rest : List (Command × Nat)} (front : ledger.waiting = (command, number) :: rest) (now : Nat) :
    ∃ poll, (step lines (.turn now) ledger).1.poll? = some poll ∧ poll.now = now ∧
      poll.Of lines command number (step lines (.turn now) ledger).2 := by
  obtain ⟨_, kept, fresh, _, waiting, ⟨empty, _⟩ | taken⟩ := step_turn lines sound now
  · rw [front] at empty
    cases empty
  · obtain ⟨command, number, others, turn, reached, world, same, keptEq, taking, entryEq⟩ := taken
    obtain ⟨pair, rfl⟩ := List.cons.inj (front.symm.trans same)
    obtain ⟨rfl, rfl⟩ := Prod.mk.inj pair
    have took : Poll.Took lines ⟨number, command, now, turn,
        (ledger.bridge.registry, ledger.world), (reached.registry, world)⟩ :=
      ⟨ledger.bridge.queueing (rest.map Prod.fst), reached, rfl, rfl, taking⟩
    rw [entryEq]
    refine ⟨_, rfl, rfl, rfl, took, fun next returned => ?_⟩
    have back : turn.returned = some next := returned
    rw [waiting, keptEq, left_cons, back]
    simp

/-- The ledgers of a session that goes on: commands are handed over, and then a turn is taken. -/
structure Goes (clock : Nat → Nat) (offered : Nat → List Command) (ledger : Nat → Ledger β ω) :
    Prop where
  sound : (ledger 0).Sound
  round : ∀ count, ledger (count + 1) = (step lines (.turn (clock count))
    (run lines ((offered count).map .accept) (ledger count)).2).2

/-- What the turn of a round does. -/
def poll? (clock : Nat → Nat) (offered : Nat → List Command) (ledger : Nat → Ledger β ω)
    (count : Nat) : Option (Poll β ω) :=
  (step lines (.turn (clock count))
    (run lines ((offered count).map .accept) (ledger count)).2).1.poll?

namespace Goes

variable {lines} {clock : Nat → Nat} {offered : Nat → List Command} {ledger : Nat → Ledger β ω}

section

variable (goes : Goes lines clock offered ledger)

include goes

theorem sound_at (count : Nat) : (ledger count).Sound := by
  induction count with
  | zero => exact goes.sound
  | succ count here =>
    rw [goes.round]
    exact step_sound lines (run_sound lines _ here) _

/-- What is handed over comes behind the commands that wait. -/
theorem waiting_offered (count : Nat) :
    (run lines ((offered count).map .accept) (ledger count)).2.Sound ∧
      ∃ behind, (run lines ((offered count).map .accept) (ledger count)).2.waiting =
        (ledger count).waiting ++ behind := by
  have none : ((offered count).map Event.accept).countP Event.isTurn = 0 := by
    refine List.countP_eq_zero.mpr fun event member => ?_
    obtain ⟨command, _, rfl⟩ := List.mem_map.mp member
    exact Bool.false_ne_true
  obtain ⟨behind, waiting⟩ := run_waiting lines ((offered count).map .accept) (goes.sound_at count)
    (by rw [none]; exact Nat.zero_le _)
  rw [none, List.drop_zero] at waiting
  exact ⟨run_sound lines _ (goes.sound_at count), behind, waiting⟩

/-- The turn of a round takes the command at the front. -/
theorem taken_front {count : Nat} {command : Command} {number : Nat} {rest : List (Command × Nat)}
    (front : (ledger count).waiting = (command, number) :: rest) :
    ∃ poll, poll? lines clock offered ledger count = some poll ∧ poll.now = clock count ∧
      poll.Of lines command number (ledger (count + 1)) := by
  obtain ⟨sound, behind, waiting⟩ := goes.waiting_offered count
  rw [front, List.cons_append] at waiting
  rw [goes.round]
  exact step_taken lines sound waiting (clock count)

/-- A round moves the other commands up by one place. -/
theorem waiting_succ {count : Nat} {entry : Command × Nat} {rest : List (Command × Nat)}
    (front : (ledger count).waiting = entry :: rest) :
    ∃ behind, (ledger (count + 1)).waiting = rest ++ behind := by
  obtain ⟨sound, behind, waiting⟩ := goes.waiting_offered count
  rw [front, List.cons_append] at waiting
  obtain ⟨moved, waitingEq⟩ := run_waiting lines [.turn (clock count)] sound
    (by rw [waiting]; exact Nat.succ_le_succ (Nat.zero_le _))
  rw [waiting] at waitingEq
  rw [goes.round]
  exact ⟨behind ++ moved, by rw [← List.append_assoc]; exact waitingEq⟩

/-- **A command that waits is taken**, after as many rounds as there are commands before it. -/
theorem comes_up {count : Nat} {command : Command} {number : Nat}
    (waits : (command, number) ∈ (ledger count).waiting) :
    ∃ later, count ≤ later ∧ ∃ poll, poll? lines clock offered ledger later = some poll ∧
      poll.now = clock later ∧ poll.Of lines command number (ledger (later + 1)) := by
  obtain ⟨place, there⟩ := List.mem_iff_getElem?.mp waits
  clear waits
  induction place generalizing count with
  | zero =>
    cases front : (ledger count).waiting with
    | nil => simp [front] at there
    | cons entry rest =>
      rw [front] at there
      obtain rfl : entry = (command, number) := Option.some.inj there
      exact ⟨count, Nat.le_refl _, goes.taken_front front⟩
  | succ place nearer =>
    cases front : (ledger count).waiting with
    | nil => simp [front] at there
    | cons entry rest =>
      rw [front, List.getElem?_cons_succ] at there
      obtain ⟨behind, moved⟩ := goes.waiting_succ front
      have inside := (List.getElem?_eq_some_iff.mp there).1
      have next : (ledger (count + 1)).waiting[place]? = some (command, number) := by
        rw [moved, List.getElem?_append_left inside, there]
      obtain ⟨later, after, taken⟩ := nearer next
      exact ⟨later, Nat.le_of_succ_le after, taken⟩

end

theorem clock_le (monotone : ∀ count, clock count ≤ clock (count + 1)) {first second : Nat}
    (order : first ≤ second) : clock first ≤ clock second := by
  induction order with
  | refl => exact Nat.le_refl _
  | step _ upTo => exact Nat.le_trans upTo (monotone _)

section

variable (goes : Goes lines clock offered ledger)
  (monotone : ∀ count, clock count ≤ clock (count + 1))
  (unbounded : ∀ time, ∃ count, time ≤ clock count)

include goes monotone unbounded

/-- **A command does not wait for ever as it is.** It is answered, or its conversion is started. -/
theorem changes {count : Nat} {command : Command} {number : Nat}
    (waits : (command, number) ∈ (ledger count).waiting) :
    ∃ later poll, poll? lines clock offered ledger later = some poll ∧ poll.number = number ∧
      ((∃ outcome, poll.turn.deliveries = [.ofOutcome poll.command outcome]) ∨
        ∃ next, (next, number) ∈ (ledger (later + 1)).waiting ∧ command.phase ≠ .result ∧
          next.phase = .result) := by
  obtain ⟨late, reached⟩ := unbounded (command.timer.delay + command.timer.started)
  -- By induction on the rounds that are left until the timer has expired for good.
  generalize left : late - count = rounds
  induction rounds using Nat.strongRecOn generalizing count with
  | ind rounds nearer =>
    obtain ⟨later, after, poll, found, now, taken⟩ := goes.comes_up waits
    have number := (Prod.mk.inj taken.same).2
    cases returned : poll.turn.returned with
    | none => exact ⟨later, poll, found, number, .inl (taken.took.outcome lines returned)⟩
    | some next =>
      obtain ⟨again, ⟨rfl, early⟩ | phases⟩ := taken.returned lines returned
      · have before : later < late := by
          refine Nat.lt_of_not_le fun passed => ?_
          have order := clock_le monotone passed
          rw [now, Timer.expired, decide_eq_false_iff_not] at early
          omega
        exact nearer (late - (later + 1)) (by omega) again rfl
      · exact ⟨later, poll, found, number, .inr ⟨next, again, phases⟩⟩

/-- **A command that waits is answered.** Once its conversion has been started it does not wait for
another one. -/
theorem answers {count : Nat} {command : Command} {number : Nat}
    (waits : (command, number) ∈ (ledger count).waiting) :
    ∃ later poll, poll? lines clock offered ledger later = some poll ∧ poll.number = number ∧
      ∃ outcome, poll.turn.deliveries = [.ofOutcome poll.command outcome] := by
  obtain ⟨first, poll, found, number, answered | ⟨next, again, _, phase⟩⟩ :=
    goes.changes monotone unbounded waits
  · exact ⟨first, poll, found, number, answered⟩
  · obtain ⟨later, poll, found, number, answered | ⟨_, _, other, _⟩⟩ :=
      goes.changes monotone unbounded again
    · exact ⟨later, poll, found, number, answered⟩
    · exact absurd phase other

end

end Goes

end WireBridge.Bridge
