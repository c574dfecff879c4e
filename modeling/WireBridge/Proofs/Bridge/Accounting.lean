/-
**Every command is answered once.**

* `Bridge.AnswersOnce`: a turn puts the command that it takes back without an answer, or answers it
  once; besides, it tells of each repeated read for which there is no room that the queue is full;
* `Bridge.turn_answersOnce`: every turn is of this kind;
* `Bridge.run_accounted`: in every run, the commands that were accepted and the reads that were
  repeated are those that were answered and those that wait.
-/

import Mathlib.Algebra.Ring.Nat
import WireBridge.Proofs.Bridge.Reading
import WireBridge.Proofs.Bridge.Run
import WireBridge.Sim.Line

namespace WireBridge.Bridge

variable {β ω ε : Type} (lines : ChannelId → Master (β × ω) ε)

/-! ### One turn -/

/-- What a turn may make of the queue. Of the reads that it repeats some are queued, and the others
are lost, which is told to their sinks. -/
inductive AnswersOnce (before after : Bridge β) (turn : Turn) : Prop
  | nothing {queued lost : List Command} (empty : before.queue.items = [])
      (taken : turn.taken = none) (copies : turn.copies = queued ++ lost)
      (items : after.queue.items = queued)
      (deliveries : turn.deliveries = lost.map fun copy => .failure copy .queueFull)
  | putBack {command : Command} {rest : List Command} {phase : ReadPhase} {timer : Timer}
      {queued lost : List Command} (front : before.queue.items = command :: rest)
      (taken : turn.taken = some command) (copies : turn.copies = queued ++ lost)
      (items : after.queue.items =
        rest ++ { command with phase := phase, timer := timer } :: queued)
      (deliveries : turn.deliveries = lost.map fun copy => .failure copy .queueFull)
  | answered {command : Command} {rest : List Command} {outcome : Except CommandError Response}
      {queued lost : List Command} (front : before.queue.items = command :: rest)
      (taken : turn.taken = some command) (copies : turn.copies = queued ++ lost)
      (items : after.queue.items = rest ++ queued)
      (deliveries : turn.deliveries =
        .ofOutcome command outcome :: lost.map fun copy => .failure copy .queueFull)

/-- What is put back is the command that was taken, in another phase and with another timer, and
nothing is delivered; or the command is answered. -/
theorem Taking.answers {now : Nat} {command : Command} {bridge reached : Bridge β} {world after : ω}
    {turn : Turn} (taking : Taking lines now command bridge world (turn, reached, after)) :
    turn.taken = some command ∧
      ((∃ phase timer, turn.returned = some { command with phase := phase, timer := timer } ∧
          turn.deliveries = []) ∨
        (turn.returned = none ∧ ∃ outcome, turn.deliveries = [.ofOutcome command outcome])) := by
  cases taking with
  | waits early => exact ⟨rfl, .inl ⟨command.phase, command.timer, rfl, rfl⟩⟩
  | restarts due verb => exact ⟨rfl, .inr ⟨rfl, .ok _, rfl⟩⟩
  | scans due verb ran => exact ⟨rfl, .inr ⟨rfl, _, rfl⟩⟩
  | goesOn due verb ran =>
    obtain ⟨_, wait, _, _, _, _, _, rfl⟩ := Command.advance_waiting ran
    exact ⟨rfl, .inl ⟨.result, ⟨wait, now⟩, rfl, rfl⟩⟩
  | reads due verb ran => exact ⟨rfl, .inr ⟨rfl, .ok _, rfl⟩⟩
  | fails due verb ran => exact ⟨rfl, .inr ⟨rfl, .error _, rfl⟩⟩
  | subscribes due verb changed =>
    obtain ⟨outcome, delivery⟩ := (bridge.subscriptions.change_subscribe command now).outcome
    exact ⟨rfl, .inr ⟨rfl, outcome, by rw [← changed, delivery]⟩⟩
  | unsubscribes due verb changed =>
    obtain ⟨outcome, delivery⟩ := (bridge.subscriptions.change_unsubscribe command).1.outcome
    exact ⟨rfl, .inr ⟨rfl, outcome, by rw [← changed, delivery]⟩⟩

/-- **A turn answers the command that it takes once**, or puts it back without an answer. -/
theorem turn_answersOnce (now : Nat) {bridge : Bridge β}
    (fits : bridge.queue.items.length ≤ bridge.queue.capacity) (world : ω) :
    AnswersOnce bridge (turn lines now (bridge, world)).2.1 (turn lines now (bridge, world)).1 := by
  cases front : bridge.queue.items with
  | nil =>
    have woken := wake_eq now bridge
    simp only [turn, runNext_nil lines front]
    generalize bridge.wake now = result at woken
    subst woken
    dsimp only
    generalize bridge.queue.capacity - bridge.queue.items.length = room
    have copies : bridge.subscriptions.due now =
        (bridge.subscriptions.due now).take room ++ (bridge.subscriptions.due now).drop room :=
      (List.take_append_drop _ _).symm
    refine .nothing front rfl copies ?_ rfl
    simp [queueing, front]
  | cons command rest =>
    have taking := runNext_taking lines now world front fits
    generalize runEq : runNext lines now (bridge, world) = result at taking
    obtain ⟨first, reached, after⟩ := result
    have woken := wake_eq now reached
    have items := taking.items_eq
    simp only [turn, runEq]
    generalize reached.wake now = result at woken
    subst woken
    dsimp only
    generalize reached.queue.capacity - reached.queue.items.length = room
    have copies : first.copies ++ reached.subscriptions.due now =
        (first.copies ++ (reached.subscriptions.due now).take room) ++
          (reached.subscriptions.due now).drop room := by
      rw [List.append_assoc, List.take_append_drop]
    generalize (reached.subscriptions.due now).take room = queued at copies ⊢
    generalize (reached.subscriptions.due now).drop room = lost at copies ⊢
    have rest_eq : (bridge.queueing rest).queue.items = rest := rfl
    obtain ⟨taken, ⟨phase, timer, returned, deliveries⟩ | ⟨returned, outcome, deliveries⟩⟩ :=
      taking.answers
    · have after : reached.queue.items ++ queued =
          rest ++ { command with phase := phase, timer := timer } :: (first.copies ++ queued) := by
        rw [items, returned, rest_eq]
        simp
      have told : first.deliveries ++ (lost.map fun copy => .failure copy .queueFull) =
          lost.map fun copy => .failure copy .queueFull := by
        rw [deliveries, List.nil_append]
      exact .putBack front taken copies after told
    · have after : reached.queue.items ++ queued = rest ++ (first.copies ++ queued) := by
        rw [items, returned, rest_eq]
        simp
      have told : first.deliveries ++ (lost.map fun copy => .failure copy .queueFull) =
          .ofOutcome command outcome :: lost.map fun copy => .failure copy .queueFull := by
        rw [deliveries, List.singleton_append]
      exact .answered front taken copies after told

/-- Nothing is lost in a turn. -/
theorem AnswersOnce.balance {before after : Bridge β} {turn : Turn}
    (answers : AnswersOnce before after turn) :
    before.queue.items.length + turn.copies.length =
      turn.deliveries.length + after.queue.items.length := by
  cases answers with
  | nothing empty taken copies items deliveries =>
    rw [empty, copies, items, deliveries, List.length_append, List.length_map]
    simp only [List.length_nil]
    omega
  | putBack front taken copies items deliveries =>
    rw [front, copies, items, deliveries]
    simp only [List.length_append, List.length_map, List.length_cons]
    omega
  | answered front taken copies items deliveries =>
    rw [front, copies, items, deliveries]
    simp only [List.length_append, List.length_map, List.length_cons]
    omega

/-! ### A run -/

namespace Entry

/-- Whether an event got a command accepted, as a number. -/
def accepted : Entry β ω → Nat
  | .offered _ (.ok _) _ => 1
  | _ => 0

/-- How many reads were repeated. -/
def copies : Entry β ω → Nat
  | .offered .. => 0
  | .turned turn _ => turn.copies.length

/-- How many answers were given to commands that had been accepted and to repeated reads. -/
def answers : Entry β ω → Nat
  | .offered _ (.ok _) deliveries => deliveries.length
  | .offered _ (.error _) _ => 0
  | .turned turn _ => turn.deliveries.length

end Entry

/-- Nothing is lost in an event. -/
theorem step_balance (event : Event) {ledger : Ledger β ω} (sound : ledger.Sound) :
    ledger.bridge.queue.items.length + (step lines event ledger).1.accepted +
        (step lines event ledger).1.copies =
      (step lines event ledger).1.answers +
        (step lines event ledger).2.bridge.queue.items.length := by
  cases event with
  | accept command =>
    have accepting := accept_accepting ledger.bridge command
    simp only [step]
    generalize ledger.bridge.accept command = result at accepting
    cases accepting with
    | invalid check => exact (Nat.zero_add _).symm
    | full check full => exact (Nat.zero_add _).symm
    | queued check room =>
      show _ + 1 + 0 = 0 + (ledger.bridge.queue.items ++ [command]).length
      rw [List.length_append, List.length_singleton]
      omega
  | turn now => exact (turn_answersOnce lines now sound.fits ledger.world).balance

theorem run_balance (events : List Event) {ledger : Ledger β ω} (sound : ledger.Sound) :
    ledger.bridge.queue.items.length + ((run lines events ledger).1.map Entry.accepted).sum +
        ((run lines events ledger).1.map Entry.copies).sum =
      ((run lines events ledger).1.map Entry.answers).sum +
        (run lines events ledger).2.bridge.queue.items.length := by
  induction events generalizing ledger with
  | nil => simp [run]
  | cons event rest ih =>
    have here := step_balance lines event sound
    have later := ih (step_sound lines sound event)
    rw [run_cons]
    simp only [List.map_cons, List.sum_cons]
    omega

/-- **Every command is answered once.** At any point of any run, the commands that were accepted and
the reads that were repeated are as many as the answers that were given and the commands that wait.
The next turn answers the command that it takes once or puts it back, and a command that is not
accepted changes nothing. -/
theorem run_accounted {registry : Registry β} {capacity : Nat} {bridge : Bridge β}
    (made : ofRegistry? registry capacity = some bridge) (world : ω) (events : List Event) :
    let entries := (run lines events (.start bridge world)).1
    let ledger := (run lines events (.start bridge world)).2
    (entries.map Entry.accepted).sum + (entries.map Entry.copies).sum =
        (entries.map Entry.answers).sum + ledger.bridge.queue.items.length ∧
      (∀ now, AnswersOnce ledger.bridge (turn lines now (ledger.bridge, ledger.world)).2.1
        (turn lines now (ledger.bridge, ledger.world)).1) ∧
      ∀ command, Accepting command ledger.bridge (ledger.bridge.accept command) := by
  have start := Ledger.start_sound made world
  have reached := run_sound lines events start
  have balance := run_balance lines events start
  have empty : (Ledger.start bridge world).bridge.queue.items = [] := start.queued.symm
  rw [empty, List.length_nil, Nat.zero_add] at balance
  exact ⟨balance, fun now => turn_answersOnce lines now reached.fits _, accept_accepting _⟩

/-- A subscription, a scan that finds the queue full, and two turns: the acknowledgement of the one
and the answer to the first repeated read are all answers. -/
theorem run_accounted_subscription :
    let bridge : Bridge Sim.Line := ⟨.ofChannels [⟨1, .empty, []⟩], ⟨[], 1⟩, .empty⟩
    let lines : ChannelId → Master (Sim.Line × Unit) Empty := fun _ => Sim.master.beside
    let subscription : Command :=
      { verb := .subscribe, device := some ⟨0x28⟩, quantity := some .temperature
        interval := some 1000, results := 1, errors := 2 }
    let events : List Event :=
      [.accept subscription, .accept { verb := .scan, results := 3, errors := 4 }, .turn 0, .turn 1]
    ofRegistry? (Registry.ofChannels [⟨1, .empty, []⟩]) 1 = some bridge ∧
      ((run lines events (.start bridge ())).1.map Entry.answers).sum = 2 := by
  intro bridge lines subscription events
  have made : ofRegistry? (Registry.ofChannels [⟨1, .empty, []⟩]) 1 = some bridge := rfl
  have balance : ((run lines events (.start bridge ())).1.map Entry.accepted).sum +
        ((run lines events (.start bridge ())).1.map Entry.copies).sum =
      ((run lines events (.start bridge ())).1.map Entry.answers).sum +
        (run lines events (.start bridge ())).2.bridge.queue.items.length :=
    (run_accounted lines made () events).1
  have accepted : ((run lines events (.start bridge ())).1.map Entry.accepted).sum = 1 := by decide
  have copies : ((run lines events (.start bridge ())).1.map Entry.copies).sum = 1 := by decide
  have waiting : (run lines events (.start bridge ())).2.bridge.queue.items = [] := by decide
  rw [accepted, copies, waiting] at balance
  exact ⟨made, balance.symm⟩

end WireBridge.Bridge
