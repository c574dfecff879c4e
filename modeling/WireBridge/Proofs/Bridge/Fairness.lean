/-
**The queue is fair.**

A turn takes one command from the queue before it puts anything back, and the reads of subscriptions
come last. So there is always room for a command that is put back.

* `Command.neverFull_advance`, `Bridge.neverFull_discover`: work on the registry does not fail with
  a full queue;
* `Bridge.Lossless`: a turn loses nothing but periodic reads;
* `Bridge.run_waiting`: the commands in the queue move up by one place with each turn;
* `Bridge.run_fair`: every turn of every run is lossless, and a command is taken when all those
  before it have been, whatever happens meanwhile.
-/

import Mathlib.Data.List.Nodup
import WireBridge.Proofs.Bridge.Causes
import WireBridge.Proofs.Bridge.Run
import WireBridge.Sim.Line

namespace WireBridge

open WireBridge.Action (FailsOnly)

variable {β ω ε : Type} {lines : ChannelId → Master (β × ω) ε}

/-! ### Errors of the work on the registry -/

/-- Work that does not fail with a full queue. -/
abbrev Work.NeverFull {α : Type} (work : Work β ω α) : Prop :=
  FailsOnly (fun _ => True) (· ≠ CommandError.queueFull) work

/-- **A read does not fail with a full queue.** -/
theorem Command.neverFull_advance (command : Command) (now : Nat) :
    Work.NeverFull (advance lines command now) := by
  intro state before error after ran
  rcases causes_advance command now state before error after ran with work | ⟨refused, _⟩
  · exact work.ne_queueFull
  · exact refused.ne_queueFull

namespace Bridge

/-- **A scan does not fail with a full queue.** -/
theorem neverFull_discover (command : Command) : Work.NeverFull (discover lines command) :=
  fun state before error after ran =>
    (causes_discover command state before error after ran).ne_queueFull

/-! ### One turn -/

theorem not_tellsFull_change {subscriptions : Subscriptions} {command : Command}
    {change : SubscriptionChange} (changed : subscriptions.Change command change) :
    ¬ change.delivery.TellsFull := by
  rcases changed.delivery with ⟨verb, delivery⟩ | ⟨error, other, delivery⟩
  · rw [delivery]
    exact id
  · rw [delivery, Delivery.tellsFull_failure]
    exact other

/-- That the queue is full when a command is handed over is only returned. -/
theorem accept_not_tellsFull (bridge : Bridge β) (command : Command) :
    ∀ delivery ∈ (bridge.accept command).2.1, ¬ delivery.TellsFull := by
  have accepting := accept_accepting bridge command
  generalize bridge.accept command = result at accepting ⊢
  intro delivery member
  cases accepting with
  | invalid check =>
    obtain rfl := List.mem_singleton.mp member
    rw [Delivery.tellsFull_failure]
    exact (Command.refusal_of_check check).ne_queueFull
  | full check full => exact absurd member List.not_mem_nil
  | queued check room => exact absurd member List.not_mem_nil

/-- What comes of a command is never that the queue is full. -/
theorem Taking.not_tellsFull {now : Nat} {command : Command} {bridge reached : Bridge β}
    {world after : ω} {turn : Turn}
    (taking : Taking lines now command bridge world (turn, reached, after)) :
    ∀ delivery ∈ turn.deliveries, ¬ delivery.TellsFull := by
  intro delivery member
  cases taking with
  | waits early => exact absurd member List.not_mem_nil
  | goesOn due verb ran => exact absurd member List.not_mem_nil
  | restarts due verb =>
    obtain rfl := List.mem_singleton.mp member
    exact id
  | reads due verb ran =>
    obtain rfl := List.mem_singleton.mp member
    exact id
  | @scans outcome registry reached due verb ran =>
    obtain rfl := List.mem_singleton.mp member
    cases outcome with
    | ok response => exact id
    | error error =>
      rw [Delivery.ofOutcome, Delivery.tellsFull_failure]
      exact neverFull_discover command _ trivial _ _ ran
  | fails due verb ran =>
    obtain rfl := List.mem_singleton.mp member
    rw [Delivery.tellsFull_failure]
    exact Command.neverFull_advance command now _ trivial _ _ ran
  | subscribes due verb changed =>
    obtain rfl := List.mem_singleton.mp member
    exact changed ▸ not_tellsFull_change (bridge.subscriptions.change_subscribe command now)
  | unsubscribes due verb changed =>
    obtain rfl := List.mem_singleton.mp member
    exact changed ▸ not_tellsFull_change (bridge.subscriptions.change_unsubscribe command).1

/-- A turn loses nothing but periodic reads: the command that it puts back and the first read of a
new subscription are queued, and only the sinks of reads whose period has passed are told that the
queue is full. -/
structure Lossless (lines : ChannelId → Master (β × ω) ε) (now : Nat) (bridge : Bridge β)
    (world : ω) : Prop where
  queued : (runNext lines now (bridge, world)).2.1.queue.items =
    bridge.queue.items.tail ++ ((runNext lines now (bridge, world)).1.returned.toList ++
      (runNext lines now (bridge, world)).1.copies)
  periodic : ∀ delivery ∈ (turn lines now (bridge, world)).1.deliveries, delivery.TellsFull →
    ∃ copy ∈ (runNext lines now (bridge, world)).2.1.subscriptions.due now,
      delivery = .failure copy .queueFull

/-- What waking subscriptions tells. -/
theorem mem_deliveries_wake {now : Nat} {bridge : Bridge β} {delivery : Delivery}
    (member : delivery ∈ (bridge.wake now).1.deliveries) :
    ∃ copy ∈ bridge.subscriptions.due now, delivery = .failure copy .queueFull := by
  rw [wake_eq] at member
  obtain ⟨copy, dropped, rfl⟩ := List.mem_map.mp member
  exact ⟨copy, List.mem_of_mem_drop dropped, rfl⟩

/-- **A turn loses nothing but periodic reads.** -/
theorem lossless (now : Nat) {bridge : Bridge β}
    (fits : bridge.queue.items.length ≤ bridge.queue.capacity) (world : ω) :
    Lossless lines now bridge world := by
  have halves : (turn lines now (bridge, world)).1.deliveries =
      (runNext lines now (bridge, world)).1.deliveries ++
        ((runNext lines now (bridge, world)).2.1.wake now).1.deliveries := rfl
  cases front : bridge.queue.items with
  | nil =>
    have stays : runNext lines now (bridge, world) = (.idle, (bridge, world)) :=
      runNext_nil lines front
    refine ⟨?_, fun delivery member full => ?_⟩
    · rw [stays, front]
      rfl
    · rw [halves, stays] at member
      rw [stays]
      exact mem_deliveries_wake member
  | cons command rest =>
    have taking := runNext_taking lines now world front fits
    refine ⟨?_, fun delivery member full => ?_⟩
    · rw [front]
      exact taking.items_eq
    · rw [halves] at member
      rcases List.mem_append.mp member with first | second
      · exact absurd full (taking.not_tellsFull delivery first)
      · exact mem_deliveries_wake second

/-! ### Runs -/

variable (lines)

/-- The capacity of the queue does not change. -/
theorem step_capacity {ledger : Ledger β ω} (sound : ledger.Sound) (event : Event) :
    (step lines event ledger).2.bridge.queue.capacity = ledger.bridge.queue.capacity := by
  cases event with
  | accept command =>
    have accepting := accept_accepting ledger.bridge command
    show (ledger.bridge.accept command).2.2.queue.capacity = _
    generalize ledger.bridge.accept command = result at accepting
    cases accepting <;> rfl
  | turn now =>
    show ((runNext lines now (ledger.bridge, ledger.world)).2.1.wake now).2.queue.capacity = _
    rw [wake_eq]
    show (runNext lines now (ledger.bridge, ledger.world)).2.1.queue.capacity = _
    cases front : ledger.bridge.queue.items with
    | nil => rw [runNext_nil lines front]
    | cons command rest =>
      exact (runNext_taking lines now ledger.world front sound.fits).capacity_eq

theorem run_capacity (events : List Event) {ledger : Ledger β ω} (sound : ledger.Sound) :
    (run lines events ledger).2.bridge.queue.capacity = ledger.bridge.queue.capacity := by
  induction events generalizing ledger with
  | nil => rfl
  | cons event rest ih =>
    rw [run_cons, ih (step_sound lines sound event), step_capacity lines sound event]

/-- Whether an event is a turn. -/
def Event.isTurn : Event → Bool
  | .accept _ => false
  | .turn _ => true

/-- **Commands move up by one place with each turn**, whatever comes behind them. -/
theorem run_waiting (events : List Event) {ledger : Ledger β ω} (sound : ledger.Sound)
    (few : events.countP Event.isTurn ≤ ledger.waiting.length) :
    ∃ behind, (run lines events ledger).2.waiting =
      ledger.waiting.drop (events.countP Event.isTurn) ++ behind := by
  induction events generalizing ledger with
  | nil => exact ⟨[], (List.append_nil _).symm⟩
  | cons event rest ih =>
    rw [run_cons]
    cases event with
    | accept command =>
      obtain ⟨fresh, _, waiting, after⟩ := step_accept lines sound command
      have same : (Event.accept command :: rest).countP Event.isTurn = rest.countP Event.isTurn :=
        List.countP_cons_of_neg Bool.false_ne_true
      rw [same] at few ⊢
      obtain ⟨behind, later⟩ := ih after (by rw [waiting, List.length_append]; omega)
      refine ⟨fresh.zipIdx ledger.issued ++ behind, ?_⟩
      rw [later, waiting, List.drop_append_of_le_length few, List.append_assoc]
    | turn now =>
      obtain ⟨after, kept, fresh, _, waiting, ⟨empty, _⟩ | taken⟩ := step_turn lines sound now
      · rw [empty, List.countP_cons_of_pos rfl] at few
        exact absurd few (Nat.not_succ_le_zero _)
      · obtain ⟨command, number, others, turn, _, _, front, keptEq, _⟩ := taken
        rw [front, List.countP_cons_of_pos rfl] at few ⊢
        have fewer : rest.countP Event.isTurn ≤ others.length := Nat.le_of_succ_le_succ few
        rw [keptEq, left_cons, List.append_assoc] at waiting
        obtain ⟨behind, later⟩ := ih after (by rw [waiting, List.length_append]; omega)
        rw [later, waiting, List.drop_append_of_le_length fewer, List.append_assoc]
        exact ⟨_, rfl⟩

/-- A command that comes to the front is taken by the next turn. -/
theorem step_front {ledger : Ledger β ω} {command : Command} {number : Nat}
    {rest : List (Command × Nat)} (front : ledger.waiting = (command, number) :: rest) (now : Nat) :
    ∃ poll, (step lines (.turn now) ledger).1.poll? = some poll ∧ poll.number = number ∧
      poll.command = command := by
  show ∃ poll, ledger.waiting.head?.map _ = some poll ∧ _
  rw [front]
  exact ⟨_, rfl, rfl, rfl⟩

/-- A queue that is never too long, that loses nothing but periodic reads, and from which each
command is taken in its turn: the commands have numbers, and the one at a place is taken by the turn
after as many as its place says, and by none of these. -/
structure Ledger.Fair (lines : ChannelId → Master (β × ω) ε) (capacity : Nat)
    (ledger : Ledger β ω) : Prop where
  numbered : ledger.waiting.map Prod.fst = ledger.bridge.queue.items
  distinct : (ledger.waiting.map Prod.snd).Nodup
  fits : ledger.bridge.queue.items.length ≤ capacity
  accepts : ∀ command, ∀ delivery ∈ (ledger.bridge.accept command).2.1, ¬ delivery.TellsFull
  lossless : ∀ now, Lossless lines now ledger.bridge ledger.world
  inTurn : ∀ place command number, ledger.waiting[place]? = some (command, number) →
    ∀ events now,
      (events.countP Event.isTurn < place → ∀ poll,
        (step lines (.turn now) (run lines events ledger).2).1.poll? = some poll →
          poll.number ≠ number) ∧
      (events.countP Event.isTurn = place → ∃ poll,
        (step lines (.turn now) (run lines events ledger).2).1.poll? = some poll ∧
          poll.number = number ∧ poll.command = command)

/-- After some turns, the next one takes the command at the place that is their number. -/
theorem taken_next {ledger : Ledger β ω} (sound : ledger.Sound) (events : List Event) (now : Nat)
    (few : events.countP Event.isTurn < ledger.waiting.length) :
    ∃ poll, (step lines (.turn now) (run lines events ledger).2).1.poll? = some poll ∧
      (poll.command, poll.number) = ledger.waiting[events.countP Event.isTurn] := by
  obtain ⟨behind, waiting⟩ := run_waiting lines events sound (Nat.le_of_lt few)
  rw [List.drop_eq_getElem_cons few] at waiting
  obtain ⟨poll, found, number, command⟩ := step_front lines waiting now
  exact ⟨poll, found, Prod.ext command number⟩

/-- A command is not taken before its turn, and then it is. -/
theorem taken_inTurn {ledger : Ledger β ω} (sound : ledger.Sound) {place number : Nat}
    {command : Command} (there : ledger.waiting[place]? = some (command, number))
    (events : List Event) (now : Nat) :
    (events.countP Event.isTurn < place → ∀ poll,
      (step lines (.turn now) (run lines events ledger).2).1.poll? = some poll →
        poll.number ≠ number) ∧
    (events.countP Event.isTurn = place → ∃ poll,
      (step lines (.turn now) (run lines events ledger).2).1.poll? = some poll ∧
        poll.number = number ∧ poll.command = command) := by
  obtain ⟨inside, entryEq⟩ := List.getElem?_eq_some_iff.mp there
  refine ⟨fun early poll found same => ?_, fun due => ?_⟩
  · have few := Nat.lt_trans early inside
    obtain ⟨taken, takenFound, takenEq⟩ := taken_next lines sound events now few
    obtain rfl := Option.some.inj (takenFound.symm.trans found)
    have number_eq : ledger.waiting[events.countP Event.isTurn].2 = ledger.waiting[place].2 := by
      rw [← takenEq, entryEq]
      exact same
    refine List.nodup_iff_getElem?_ne_getElem?.mp sound.distinct _ _ early
      (by rwa [List.length_map]) ?_
    rw [List.getElem?_map, List.getElem?_map, List.getElem?_eq_getElem few,
      List.getElem?_eq_getElem inside]
    exact congrArg some number_eq
  · subst due
    obtain ⟨taken, takenFound, takenEq⟩ := taken_next lines sound events now inside
    obtain ⟨command, number⟩ := Prod.mk.inj (takenEq.trans entryEq)
    exact ⟨taken, takenFound, number, command⟩

theorem capacity_of_made {registry : Registry β} {capacity : Nat} {bridge : Bridge β}
    (made : ofRegistry? registry capacity = some bridge) : bridge.queue.capacity = capacity := by
  obtain ⟨queue, queueEq, rfl⟩ := Option.map_eq_some_iff.mp made
  unfold Queue.ofCapacity? at queueEq
  split at queueEq
  · obtain rfl := Option.some.inj queueEq
    rfl
  · exact absurd queueEq (Option.some_ne_none _).symm

/-- **The queue is fair.** However many commands it may have, at any point of any run it has no
more than that; the next turn loses nothing but periodic reads; and each command is taken in its
turn. -/
theorem run_fair {registry : Registry β} {capacity : Nat} {bridge : Bridge β}
    (made : ofRegistry? registry capacity = some bridge) (world : ω) (events : List Event) :
    (run lines events (.start bridge world)).2.Fair lines capacity := by
  have start := Ledger.start_sound made world
  have sound := run_sound lines events start
  have capacityEq : (run lines events (.start bridge world)).2.bridge.queue.capacity = capacity :=
    (run_capacity lines events start).trans (capacity_of_made made)
  exact ⟨sound.queued, sound.distinct, capacityEq ▸ sound.fits, accept_not_tellsFull _,
    fun now => lossless now sound.fits _, fun _ _ _ there => taken_inTurn lines sound there⟩

/-- A subscription with a long period and a scan fill a queue. The scan is not taken by the next
turn, which queues the first read of the subscription, but by the one after it. -/
theorem run_fair_second :
    let bridge : Bridge Sim.Line := ⟨.ofChannels [⟨1, .empty, []⟩], ⟨[], 2⟩, .empty⟩
    let lines : ChannelId → Master (Sim.Line × Unit) Empty := fun _ => Sim.master.beside
    let subscription : Command :=
      { verb := .subscribe, device := some ⟨0x28⟩, quantity := some .temperature
        interval := some 1000, results := 1, errors := 2 }
    let scan : Command := { verb := .scan, results := 3, errors := 4 }
    let events : List Event := [.accept subscription, .accept scan]
    ofRegistry? (Registry.ofChannels [⟨1, .empty, []⟩]) 2 = some bridge ∧
      ∃ poll, (step lines (.turn 1)
          (run lines [.turn 0] (run lines events (.start bridge ())).2).2).1.poll? = some poll ∧
        poll.command = scan := by
  intro bridge lines subscription scan events
  have made : ofRegistry? (Registry.ofChannels [⟨1, .empty, []⟩]) 2 = some bridge := rfl
  have fair : (run lines events (.start bridge ())).2.Fair lines 2 := run_fair lines made () events
  obtain ⟨poll, found, _, command⟩ := (fair.inTurn 1 scan 1 rfl [.turn 0] 1).2 rfl
  exact ⟨made, poll, found, command⟩

end Bridge

end WireBridge
