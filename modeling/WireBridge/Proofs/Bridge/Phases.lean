/-
**The phases of a read in a run.**

A read of a measured quantity goes through the queue several times. Each time a turn takes it, one
of four things happens: it waits, its conversion is started, starting it fails, or the result is
fetched.

* `Poll.Waits`, `Poll.Samples`, `Poll.Fails`, `Poll.Fetches`: these four;
* `Poll.InOrder`: what the polls of a command so far allow to happen next;
* `Bridge.Tracked`: the invariant, which ties the phase and the timer of a command that waits to the
  poll that started its conversion;
* `Bridge.run_inOrder`: in every run, every poll of a read is in order.
-/

import WireBridge.Proofs.Bridge.Reading
import WireBridge.Proofs.Bridge.Run

namespace WireBridge

variable {β ω ε : Type}

/-- A read of a quantity that has to be converted first. -/
def Command.Measures (command : Command) : Prop :=
  command.verb = .read ∧ ∃ quantity, command.quantity = some quantity ∧ quantity ≠ .presence

namespace Bridge.Poll

/-- The command goes back as it is. Nothing is delivered, and neither the registry nor any line is
touched. -/
structure Waits (poll : Poll β ω) : Prop where
  early : poll.command.timer.expired poll.now = false
  returned : poll.turn.returned = some poll.command
  deliveries : poll.turn.deliveries = []
  untouched : poll.after = poll.before

/-- The conversion is started, and the command waits for it. -/
structure Samples (poll : Poll β ω) (wait : Nat) : Prop where
  due : poll.command.timer.expired poll.now = true
  phase : poll.command.phase ≠ .result
  time : poll.command.TakesTime poll.before.1 wait
  returned : poll.turn.returned = some (poll.command.awaiting wait poll.now)
  deliveries : poll.turn.deliveries = []

/-- The conversion cannot be started, which is the answer. -/
structure Fails (poll : Poll β ω) : Prop where
  due : poll.command.timer.expired poll.now = true
  phase : poll.command.phase ≠ .result
  returned : poll.turn.returned = none
  deliveries : ∃ error, poll.turn.deliveries = [.failure poll.command error]

/-- The result is fetched, which leads to an answer. -/
structure Fetches (poll : Poll β ω) : Prop where
  due : poll.command.timer.expired poll.now = true
  phase : poll.command.phase = .result
  returned : poll.turn.returned = none
  deliveries : ∃ outcome, poll.turn.deliveries = [.ofOutcome poll.command outcome]

/-- What a poll of a read may do. -/
def Proceeds (poll : Poll β ω) : Prop :=
  poll.Waits ∨ (∃ wait, poll.Samples wait) ∨ poll.Fails ∨ poll.Fetches

/-- Only a result that is fetched is told. -/
theorem Proceeds.fetches {poll : Poll β ω} (proceeds : poll.Proceeds) {sink : Sink}
    {response : Response} (delivered : .result sink response ∈ poll.turn.deliveries) :
    poll.Fetches := by
  rcases proceeds with waits | ⟨_, samples⟩ | fails | fetches
  · exact absurd (waits.deliveries ▸ delivered) List.not_mem_nil
  · exact absurd (samples.deliveries ▸ delivered) List.not_mem_nil
  · obtain ⟨error, deliveries⟩ := fails.deliveries
    exact absurd (List.mem_singleton.mp (deliveries ▸ delivered)) Delivery.noConfusion
  · exact fetches

/-- A command whose time has not come waits. -/
theorem Proceeds.waits {poll : Poll β ω} (proceeds : poll.Proceeds)
    (early : poll.command.timer.expired poll.now = false) : poll.Waits := by
  rcases proceeds with waits | ⟨_, samples⟩ | fails | fetches
  · exact waits
  · exact absurd (samples.due.symm.trans early) Bool.noConfusion
  · exact absurd (fails.due.symm.trans early) Bool.noConfusion
  · exact absurd (fetches.due.symm.trans early) Bool.noConfusion

/-- A poll of a read after some earlier polls. -/
structure InOrder (earlier : List (Poll β ω)) (poll : Poll β ω) : Prop where
  /-- One of four things happens. -/
  proceeds : poll.Proceeds
  /-- A conversion is started only once. -/
  once : ∀ wait, poll.Samples wait → ∀ other ∈ earlier, other.number = poll.number →
    ∀ before, ¬ other.Samples before
  /-- A result is fetched only after the conversion was started and has had its time. -/
  fetched : poll.Fetches → ∃ other ∈ earlier, other.number = poll.number ∧
    ∃ wait, other.Samples wait ∧ poll.command = other.command.awaiting wait other.now ∧
      other.now + wait ≤ poll.now
  /-- While the conversion takes its time the command waits. -/
  early : ∀ other ∈ earlier, other.number = poll.number → ∀ wait, other.Samples wait →
    poll.now < other.now + wait → poll.Waits

end Bridge.Poll

namespace Bridge

/-! ### The command that a turn takes -/

/-- What happens to a read that a turn takes. -/
theorem Taking.proceeds {lines : ChannelId → Master (β × ω) ε} {now : Nat} {command : Command}
    {bridge reached : Bridge β} {world after : ω} {turn : Turn}
    (taking : Taking lines now command bridge world (turn, reached, after)) (number : Nat)
    (measures : command.Measures) :
    Poll.Proceeds
      ⟨number, command, now, turn, (bridge.registry, world), (reached.registry, after)⟩ := by
  obtain ⟨read, quantity, asked, measured⟩ := measures
  cases taking with
  | waits early => exact .inl ⟨early, rfl, rfl, rfl⟩
  | goesOn due verb ran =>
    obtain ⟨_, wait, _, _, phase, time, _, rfl⟩ := Command.advance_waiting ran
    exact .inr (.inl ⟨wait, due, phase, time, rfl, rfl⟩)
  | reads due verb ran =>
    have phase := Command.advance_answer asked measured ran
    exact .inr (.inr (.inr ⟨due, phase, rfl, .ok _, rfl⟩))
  | @fails error registry reached due verb ran =>
    by_cases phase : command.phase = .result
    · exact .inr (.inr (.inr ⟨due, phase, rfl, .error _, rfl⟩))
    · exact .inr (.inr (.inl ⟨due, phase, rfl, error, rfl⟩))
  | restarts due verb => exact absurd (read.symm.trans verb) (by decide)
  | scans due verb ran => exact absurd (read.symm.trans verb) (by decide)
  | subscribes due verb changed => exact absurd (read.symm.trans verb) (by decide)
  | unsubscribes due verb changed => exact absurd (read.symm.trans verb) (by decide)

/-- What is put back is the command as it was, before its time, or as it waits for the conversion
that was started. -/
theorem Taking.returned {lines : ChannelId → Master (β × ω) ε} {now : Nat} {command next : Command}
    {bridge reached : Bridge β} {world after : ω} {turn : Turn}
    (taking : Taking lines now command bridge world (turn, reached, after))
    (returned : turn.returned = some next) :
    (next = command ∧ command.timer.expired now = false) ∨
      ∃ wait, next = command.awaiting wait now ∧ 0 < wait ∧ command.phase ≠ .result ∧
        command.timer.expired now = true ∧ command.TakesTime bridge.registry wait ∧
        turn.deliveries = [] := by
  cases taking with
  | waits early => exact .inl ⟨(Option.some.inj returned).symm, early⟩
  | goesOn due verb ran =>
    obtain ⟨_, wait, _, _, phase, time, positive, nextEq⟩ := Command.advance_waiting ran
    obtain rfl := Option.some.inj returned
    exact .inr ⟨wait, nextEq, positive, phase, due, time, rfl⟩
  | _ => exact absurd returned (by simp)

/-! ### Measured values -/

end Bridge

/-- Whether a report tells a measured value. -/
def DeviceReport.HasValue (report : DeviceReport) : Prop :=
  report.temperature ≠ none ∨ report.vad ≠ none ∨ report.vdd ≠ none

/-- Whether a response tells a measured value. -/
def Response.HasValue (response : Response) : Prop :=
  ∃ report, report ∈ response.device.toList ++ response.devices.getD [] ∧ report.HasValue

theorem Response.not_hasValue {response : Response}
    (none : ∀ report ∈ response.device.toList ++ response.devices.getD [],
      report.temperature = none ∧ report.vad = none ∧ report.vdd = none) :
    ¬ response.HasValue := by
  rintro ⟨report, member, temperature | vad | vdd⟩
  · exact temperature (none report member).1
  · exact vad (none report member).2.1
  · exact vdd (none report member).2.2

theorem Subscriptions.acknowledgement_not_hasValue (verb : Verb) (command : Command) :
    ¬ (Subscriptions.acknowledgement verb command).HasValue := by
  refine Response.not_hasValue fun report member => ?_
  unfold acknowledgement at member
  split at member
  · obtain rfl := List.mem_singleton.mp member
    exact ⟨rfl, rfl, rfl⟩
  · exact absurd member List.not_mem_nil

theorem Subscriptions.Change.not_hasValue {subscriptions : Subscriptions} {command : Command}
    {change : SubscriptionChange} (changed : Change subscriptions command change) {sink : Sink}
    {response : Response} (delivered : .result sink response ∈ [change.delivery]) :
    ¬ response.HasValue := by
  have told := List.mem_singleton.mp delivered
  rcases changed.delivery with ⟨verb, delivery⟩ | ⟨error, _, delivery⟩
  · rw [(Delivery.result.inj (told.trans delivery)).2]
    exact acknowledgement_not_hasValue verb command
  · exact absurd (told.trans delivery) Delivery.noConfusion

/-- Presence is not a measured value. -/
theorem Command.advance_presence_not_hasValue {lines : ChannelId → Master (β × ω) ε}
    {command : Command} {now : Nat} {state after : Registry β × ω} {response : Response}
    (presence : command.quantity = some .presence)
    (ran : (advance lines command now).perform state = (.ok (.answer response), after)) :
    ¬ response.HasValue := by
  refine Response.not_hasValue fun report member => ?_
  unfold advance at ran
  rw [presence] at ran
  dsimp only at ran
  split at ran
  · unfold advanceDevice seekDevice at ran
    rw [if_pos rfl] at ran
    obtain ⟨_, _, _, last⟩ := Action.bind_ok ran
    obtain rfl := ReadOutcome.answer.inj (Action.pure_ok last).1
    obtain rfl := List.mem_singleton.mp member
    exact ⟨rfl, rfl, rfl⟩
  · unfold advanceFamily seekFamily at ran
    rw [if_pos rfl] at ran
    obtain ⟨_, _, _, found⟩ := Action.bind_ok ran
    rw [registry_bind] at found
    obtain rfl := ReadOutcome.answer.inj (Action.pure_ok found).1
    obtain ⟨entry, _, rfl⟩ := List.mem_map.mp member
    exact ⟨rfl, rfl, rfl⟩
  · exact absurd ran Action.not_fail_ok
  · exact absurd ran Action.not_fail_ok

namespace Bridge

theorem discover_not_hasValue {lines : ChannelId → Master (β × ω) ε} {command : Command}
    {state after : Registry β × ω} {response : Response}
    (ran : (discover lines command).perform state = (.ok response, after)) :
    ¬ response.HasValue := by
  refine Response.not_hasValue fun report member => ?_
  unfold discover at ran
  split at ran
  · obtain ⟨_, _, _, last⟩ := Action.bind_ok ran
    obtain rfl := (Action.pure_ok last).1
    obtain rfl := List.mem_singleton.mp member
    exact ⟨rfl, rfl, rfl⟩
  · obtain ⟨_, _, _, found⟩ := Action.bind_ok ran
    rw [Command.registry_bind] at found
    obtain rfl := (Action.pure_ok found).1
    obtain ⟨entry, _, rfl⟩ := List.mem_map.mp member
    exact ⟨rfl, rfl, rfl⟩
  · obtain ⟨_, _, _, found⟩ := Action.bind_ok ran
    rw [Command.registry_bind] at found
    obtain rfl := (Action.pure_ok found).1
    obtain ⟨entry, _, rfl⟩ := List.mem_map.mp member
    exact ⟨rfl, rfl, rfl⟩

theorem eq_of_result {command : Command} {sink : Sink} {response : Response}
    {outcome : Except CommandError Response}
    (delivered : Delivery.result sink response ∈ [Delivery.ofOutcome command outcome]) :
    outcome = .ok response := by
  cases outcome with
  | error error => exact absurd (List.mem_singleton.mp delivered) Delivery.noConfusion
  | ok told =>
    obtain ⟨_, same⟩ := Delivery.result.inj (List.mem_singleton.mp delivered)
    rw [same]

/-- A measured value is told only by a read whose result is fetched. -/
theorem Taking.value {lines : ChannelId → Master (β × ω) ε} {now : Nat} {command : Command}
    {bridge reached : Bridge β} {world after : ω} {turn : Turn}
    (taking : Taking lines now command bridge world (turn, reached, after)) {sink : Sink}
    {response : Response} (delivered : .result sink response ∈ turn.deliveries)
    (value : response.HasValue) : command.Measures := by
  cases taking with
  | waits early => exact absurd delivered List.not_mem_nil
  | restarts due verb =>
    obtain ⟨_, rfl⟩ := Delivery.result.inj (List.mem_singleton.mp delivered)
    refine absurd value (Response.not_hasValue fun report member => ?_)
    exact absurd member List.not_mem_nil
  | scans due verb ran =>
    obtain rfl := eq_of_result delivered
    exact absurd value (discover_not_hasValue ran)
  | goesOn due verb ran => exact absurd delivered List.not_mem_nil
  | reads due verb ran =>
    obtain ⟨_, rfl⟩ := Delivery.result.inj (List.mem_singleton.mp delivered)
    cases asked : command.quantity with
    | none =>
      unfold Command.advance at ran
      rw [asked] at ran
      exact absurd ran Action.not_fail_ok
    | some quantity =>
      refine ⟨verb, quantity, asked, fun presence => ?_⟩
      exact Command.advance_presence_not_hasValue (presence ▸ asked) ran value
  | fails due verb ran => exact absurd (List.mem_singleton.mp delivered) Delivery.noConfusion
  | subscribes due verb changed =>
    have change := bridge.subscriptions.change_subscribe command now
    exact absurd value (change.not_hasValue (changed ▸ delivered))
  | unsubscribes due verb changed =>
    have change := (bridge.subscriptions.change_unsubscribe command).1
    exact absurd value (change.not_hasValue (changed ▸ delivered))

/-! ### The invariant -/

/-- What the polls so far tell about a command in the queue: its conversion was started by one of
them unless it has not been looked at, and then it waits for the end of that conversion. -/
structure Tracked (history : List (Poll β ω)) (entry : Command × Nat) : Prop where
  started : entry.1.phase ≠ .initial →
    ∃ poll ∈ history, poll.number = entry.2 ∧ ∃ wait, poll.Samples wait
  waits : ∀ poll ∈ history, poll.number = entry.2 → ∀ wait, poll.Samples wait →
    entry.1 = poll.command.awaiting wait poll.now ∧ 0 < wait

/-- A command that has not been looked at, with a number that no poll has. -/
theorem Tracked.fresh {history : List (Poll β ω)} {command : Command} {number : Nat}
    (initial : command.phase = .initial) (unused : ∀ poll ∈ history, poll.number < number) :
    Tracked history (command, number) :=
  ⟨fun started => absurd initial started,
    fun poll member same => absurd same (Nat.ne_of_lt (unused poll member))⟩

/-- Polls of other commands do not matter. -/
theorem Tracked.append {history : List (Poll β ω)} {entry : Command × Nat}
    (tracked : Tracked history entry) {poll : Poll β ω} (other : poll.number ≠ entry.2) :
    Tracked (history ++ [poll]) entry := by
  refine ⟨fun started => ?_, fun earlier member same => ?_⟩
  · obtain ⟨earlier, member, found⟩ := tracked.started started
    exact ⟨earlier, List.mem_append_left _ member, found⟩
  · rcases List.mem_append.mp member with old | new
    · exact tracked.waits earlier old same
    · exact absurd (List.mem_singleton.mp new ▸ same) other

/-- A conversion that was started is not started again. -/
theorem Tracked.phase_of_samples {history : List (Poll β ω)} {entry : Command × Nat}
    (tracked : Tracked history entry) {poll : Poll β ω} (member : poll ∈ history)
    (same : poll.number = entry.2) {wait : Nat} (samples : poll.Samples wait) :
    entry.1.phase = .result := by
  rw [(tracked.waits poll member same wait samples).1]
  rfl

/-- **A poll of a tracked command is in order.** -/
theorem Tracked.inOrder {lines : ChannelId → Master (β × ω) ε} {history : List (Poll β ω)}
    {now number : Nat} {command : Command} {bridge reached : Bridge β} {world after : ω}
    {turn : Turn} (tracked : Tracked history (command, number)) (measures : command.Measures)
    (taking : Taking lines now command bridge world (turn, reached, after)) :
    Poll.InOrder history
      ⟨number, command, now, turn, (bridge.registry, world), (reached.registry, after)⟩ := by
  have proceeds := taking.proceeds number measures
  generalize pollEq : (⟨number, command, now, turn, (bridge.registry, world),
    (reached.registry, after)⟩ : Poll β ω) = poll at proceeds ⊢
  have commandEq : command = poll.command := congrArg Poll.command pollEq
  have numberEq : number = poll.number := congrArg Poll.number pollEq
  rw [commandEq, numberEq] at tracked
  refine ⟨proceeds, fun wait samples other member same before sampled => ?_, fun fetches => ?_,
    fun other member same wait sampled soon => ?_⟩
  · exact samples.phase (tracked.phase_of_samples member same sampled)
  · have started : poll.command.phase ≠ .initial := by
      rw [fetches.phase]
      exact ReadPhase.noConfusion
    obtain ⟨other, member, same, wait, sampled⟩ := tracked.started started
    obtain ⟨awaiting, positive⟩ := tracked.waits other member same wait sampled
    have due := fetches.due
    rw [show poll.command = _ from awaiting] at due
    have passed : wait ≤ poll.now - other.now := of_decide_eq_true due
    exact ⟨other, member, same, wait, sampled, awaiting, by omega⟩
  · obtain ⟨awaiting, positive⟩ := tracked.waits other member same wait sampled
    refine proceeds.waits ?_
    rw [show poll.command = _ from awaiting]
    have within : ¬ wait ≤ poll.now - other.now := by omega
    exact decide_eq_false within

/-- What is put back is still tracked. -/
theorem Tracked.returned {lines : ChannelId → Master (β × ω) ε} {history : List (Poll β ω)}
    {now number : Nat} {command next : Command} {bridge reached : Bridge β} {world after : ω}
    {turn : Turn} (tracked : Tracked history (command, number))
    (taking : Taking lines now command bridge world (turn, reached, after))
    (back : turn.returned = some next) :
    Tracked (history ++ [⟨number, command, now, turn, (bridge.registry, world),
      (reached.registry, after)⟩]) (next, number) := by
  rcases taking.returned back with ⟨rfl, early⟩ | ⟨wait, rfl, positive, phase, due, time, none⟩
  · refine ⟨fun started => ?_, fun poll member same wait samples => ?_⟩
    · obtain ⟨poll, member, found⟩ := tracked.started started
      exact ⟨poll, List.mem_append_left _ member, found⟩
    · rcases List.mem_append.mp member with old | new
      · exact tracked.waits poll old same wait samples
      · obtain rfl := List.mem_singleton.mp new
        exact absurd (samples.due.symm.trans early) Bool.noConfusion
  · refine ⟨fun _ => ⟨_, List.mem_append_right _ List.mem_cons_self, rfl, wait, ⟨due, phase, time,
      back, none⟩⟩, fun poll member same before samples => ?_⟩
    rcases List.mem_append.mp member with old | new
    · exact absurd (tracked.phase_of_samples old same samples) phase
    · obtain rfl := List.mem_singleton.mp new
      have same : command.awaiting wait now = command.awaiting before now :=
        Option.some.inj (back.symm.trans samples.returned)
      have waitEq : wait = before := congrArg (fun command => command.timer.delay) same
      exact ⟨same, waitEq ▸ positive⟩

/-- All commands in the queue are tracked, and no other command has a number of theirs. -/
structure Followed (history : List (Poll β ω)) (ledger : Ledger β ω) : Prop where
  sound : ledger.Sound
  used : ∀ poll ∈ history, poll.number < ledger.issued
  tracked : ∀ entry ∈ ledger.waiting, Tracked history entry

theorem Followed.start {registry : Registry β} {capacity : Nat} {bridge : Bridge β}
    (made : ofRegistry? registry capacity = some bridge) (world : ω) :
    Followed [] (Ledger.start bridge world) :=
  ⟨Ledger.start_sound made world, fun _ member => absurd member List.not_mem_nil,
    fun _ member => absurd member List.not_mem_nil⟩

/-! ### Steps and runs -/

variable (lines : ChannelId → Master (β × ω) ε)

/-- New commands in the queue are tracked if they have not been looked at. -/
theorem tracked_zipIdx {history : List (Poll β ω)} {issued : Nat} {fresh : List Command}
    (used : ∀ poll ∈ history, poll.number < issued)
    (initial : ∀ command ∈ fresh, command.phase = .initial) :
    ∀ entry ∈ fresh.zipIdx issued, Tracked history entry := by
  rintro ⟨command, number⟩ member
  have from' := List.le_snd_of_mem_zipIdx member
  exact .fresh (initial command (List.fst_mem_of_mem_zipIdx member)) fun poll old =>
    Nat.lt_of_lt_of_le (used poll old) from'

/-- A command that is handed over is tracked. -/
theorem accept_followed {history : List (Poll β ω)} {ledger : Ledger β ω} {command : Command}
    (initial : command.phase = .initial) (followed : Followed history ledger) :
    Followed history (step lines (.accept command) ledger).2 := by
  have later := issued_le_step lines (.accept command) ledger
  obtain ⟨fresh, freshEq, waiting, sound⟩ := step_accept lines followed.sound command
  have freshInitial : ∀ other ∈ fresh, other.phase = .initial := by
    intro other member
    rcases freshEq with rfl | rfl
    · exact absurd member List.not_mem_nil
    · rw [List.mem_singleton.mp member]
      exact initial
  refine ⟨sound, fun poll old => Nat.lt_of_lt_of_le (followed.used poll old) later, ?_⟩
  intro entry member
  rw [waiting] at member
  rcases List.mem_append.mp member with old | new
  · exact followed.tracked entry old
  · exact tracked_zipIdx followed.used freshInitial entry new

/-- What a turn leaves in the queue is still tracked, by the history with its poll. -/
theorem Followed.tracked_left {history : List (Poll β ω)} {ledger : Ledger β ω}
    (followed : Followed history ledger) {command : Command} {number : Nat}
    {rest : List (Command × Nat)} (front : ledger.waiting = (command, number) :: rest) {now : Nat}
    {bridge reached : Bridge β} {world after : ω} {turn : Turn}
    (taking : Taking lines now command bridge world (turn, reached, after)) :
    ∀ entry ∈ left turn ((command, number) :: rest),
      Tracked (history ++ [⟨number, command, now, turn, (bridge.registry, world),
        (reached.registry, after)⟩]) entry := by
  intro entry member
  have tracked := followed.tracked (command, number) (front ▸ List.mem_cons_self)
  rcases mem_left member with stays | ⟨same, back⟩
  · refine (followed.tracked entry (front ▸ List.mem_cons_of_mem _ stays)).append ?_
    have distinct := followed.sound.distinct
    rw [front, List.map_cons] at distinct
    intro same
    exact (List.nodup_cons.mp distinct).1 (List.mem_map.mpr ⟨entry, stays, same.symm⟩)
  · obtain ⟨next, _⟩ := entry
    obtain rfl := same
    exact tracked.returned taking back

/-- **One event.** -/
theorem step_followed {history : List (Poll β ω)} {ledger : Ledger β ω} (event : Event)
    (initial : ∀ command, event = .accept command → command.phase = .initial)
    (followed : Followed history ledger) :
    Followed (history ++ (step lines event ledger).1.poll?.toList) (step lines event ledger).2 ∧
      ∀ poll, (step lines event ledger).1.poll? = some poll → poll.command.Measures →
        poll.InOrder history := by
  have later := issued_le_step lines event ledger
  cases event with
  | accept command =>
    have none : (step lines (.accept command) ledger).1.poll? = none := rfl
    rw [none, Option.toList_none, List.append_nil]
    exact ⟨accept_followed lines (initial command rfl) followed,
      fun poll found => absurd found (Option.some_ne_none poll).symm⟩
  | turn now =>
    obtain ⟨sound, kept, fresh, freshInitial, waiting, idle | taken⟩ :=
      step_turn lines followed.sound now
    · obtain ⟨_, keptEq, entryEq⟩ := idle
      have none : (step lines (.turn now) ledger).1.poll? = none := by
        rw [entryEq]
        rfl
      rw [none, Option.toList_none, List.append_nil]
      refine ⟨⟨sound, fun poll old => Nat.lt_of_lt_of_le (followed.used poll old) later, ?_⟩,
        fun poll found => absurd found (Option.some_ne_none poll).symm⟩
      intro entry member
      rw [waiting, keptEq, List.nil_append] at member
      exact tracked_zipIdx followed.used freshInitial entry member
    · obtain ⟨command, number, rest, turn, reached, world, front, keptEq, taking, entryEq⟩ := taken
      have poll : (step lines (.turn now) ledger).1.poll? = some ⟨number, command, now, turn,
          (ledger.bridge.registry, ledger.world), (reached.registry, world)⟩ := by
        rw [entryEq]
        rfl
      have used : ∀ poll ∈ history ++ [⟨number, command, now, turn,
          (ledger.bridge.registry, ledger.world), (reached.registry, world)⟩],
          poll.number < ledger.issued := by
        intro poll member
        rcases List.mem_append.mp member with old | new
        · exact followed.used poll old
        · rw [List.mem_singleton.mp new]
          exact followed.sound.below (command, number) (front ▸ List.mem_cons_self)
      rw [poll, Option.toList_some]
      refine ⟨⟨sound, fun poll member => Nat.lt_of_lt_of_le (used poll member) later, ?_⟩, ?_⟩
      · intro entry member
        rw [waiting, keptEq] at member
        rcases List.mem_append.mp member with old | new
        · have stays := followed.tracked_left lines front taking entry old
          exact stays
        · exact tracked_zipIdx used freshInitial entry new
      · intro poll found measures
        obtain rfl := Option.some.inj found
        have tracked := followed.tracked (command, number) (front ▸ List.mem_cons_self)
        have inOrder := tracked.inOrder measures taking
        exact inOrder

/-- **Every poll of a read is in order.** -/
theorem run_followed (events : List Event)
    (initial : ∀ command, .accept command ∈ events → command.phase = .initial)
    {history : List (Poll β ω)} {ledger : Ledger β ω} (followed : Followed history ledger)
    {earlier later : List (Poll β ω)} {poll : Poll β ω}
    (place : polls (run lines events ledger).1 = earlier ++ poll :: later)
    (measures : poll.command.Measures) : poll.InOrder (history ++ earlier) := by
  induction events generalizing history ledger earlier with
  | nil => exact absurd place (by simp [run, polls])
  | cons event rest ih =>
    have firstInitial : ∀ command, event = .accept command → command.phase = .initial :=
      fun command same => initial command (same ▸ List.mem_cons_self)
    have restInitial : ∀ command, .accept command ∈ rest → command.phase = .initial :=
      fun command member => initial command (List.mem_cons_of_mem _ member)
    obtain ⟨next, here⟩ := step_followed lines event firstInitial followed
    rw [run_cons] at place
    unfold polls at place
    cases found : (step lines event ledger).1.poll? with
    | none =>
      rw [found, Option.toList_none, List.append_nil] at next
      rw [List.filterMap_cons_none found] at place
      exact ih restInitial next place
    | some first =>
      rw [found, Option.toList_some] at next
      rw [List.filterMap_cons_some found] at place
      cases earlier with
      | nil =>
        obtain ⟨rfl, _⟩ := List.cons.inj place
        rw [List.append_nil]
        exact here first found measures
      | cons head others =>
        obtain ⟨rfl, restPlace⟩ := List.cons.inj place
        have inOrder := ih restInitial next restPlace
        rwa [List.append_assoc, List.singleton_append] at inOrder

/-- A measured value is told only in a turn that fetches it. -/
theorem step_value {ledger : Ledger β ω} (sound : ledger.Sound) (event : Event) {sink : Sink}
    {response : Response}
    (delivered : .result sink response ∈ (step lines event ledger).1.deliveries)
    (value : response.HasValue) :
    ∃ poll, (step lines event ledger).1.poll? = some poll ∧ poll.command.Measures ∧
      poll.Fetches := by
  obtain ⟨poll, found, told⟩ := step_result lines sound event delivered
  obtain ⟨⟨bridge, reached, registry, last, taking⟩, _⟩ := step_took lines sound event found
  have measures := taking.value told value
  have proceeds := taking.proceeds poll.number measures
  rw [registry, last] at proceeds
  exact ⟨poll, found, measures, proceeds.fetches told⟩

theorem run_value (events : List Event) {ledger : Ledger β ω} (sound : ledger.Sound)
    {entry : Entry β ω} (member : entry ∈ (run lines events ledger).1) {sink : Sink}
    {response : Response} (delivered : .result sink response ∈ entry.deliveries)
    (value : response.HasValue) :
    ∃ poll, entry.poll? = some poll ∧ poll.command.Measures ∧ poll.Fetches := by
  obtain ⟨before, rest, place⟩ := List.append_of_mem member
  obtain ⟨earlier, event, _, _, rfl, _⟩ := run_split lines events place
  exact step_value lines (run_sound lines earlier sound) event delivered value

/-- **No phase of a read is left out, repeated or run too early.** In every run in which only
commands are handed over that have not been looked at, every poll of a read of a measured quantity
is in order after the polls before, and measured values are told only by reads that fetch them. -/
theorem run_inOrder {registry : Registry β} {capacity : Nat} {bridge : Bridge β}
    (made : ofRegistry? registry capacity = some bridge) (world : ω) (events : List Event)
    (initial : ∀ command, .accept command ∈ events → command.phase = .initial) :
    let entries := (run lines events (.start bridge world)).1
    (∀ earlier poll later, polls entries = earlier ++ poll :: later → poll.command.Measures →
        poll.InOrder earlier) ∧
      ∀ entry ∈ entries, ∀ sink response, .result sink response ∈ entry.deliveries →
        response.HasValue →
        ∃ poll, entry.poll? = some poll ∧ poll.command.Measures ∧ poll.Fetches := by
  have sound := Ledger.start_sound made world
  have followed := Followed.start made world
  constructor
  · intro earlier poll later place measures
    have inOrder := run_followed lines events initial followed place measures
    rwa [List.nil_append] at inOrder
  · intro entry member sink response delivered value
    exact run_value lines events sound member delivered value

/-- A thermometer on a line that reads zeros: the conversion is started at once, the command waits
at 5 milliseconds, and the result is fetched at 800. -/
theorem run_inOrder_thermometer :
    let master : Master (Unit × Unit) Empty :=
      ⟨pure ⟨true, false, none, none⟩, fun _ => pure (), pure 0, fun _ => pure (), pure false,
        fun _ => pure ⟨false, true, false⟩⟩
    let registry : Registry Unit :=
      ⟨[⟨1, (), []⟩], KeyMap.empty.insert ⟨0x28⟩ ⟨1, .thermometer (.unread ⟨0x28⟩ .twelve)⟩⟩
    let bridge : Bridge Unit := ⟨registry, ⟨[], 1⟩, .empty⟩
    let read : Command :=
      { verb := .read, device := some ⟨0x28⟩, quantity := some .temperature, results := 1
        errors := 2 }
    let entries := (run (fun _ => master) [.accept read, .turn 0, .turn 5, .turn 800]
      (.start bridge ())).1
    ofRegistry? registry 1 = some bridge ∧ read.phase = .initial ∧
      ∃ first second third, polls entries = [first, second, third] ∧
        Poll.InOrder [first, second] third := by
  intro master registry bridge read entries
  have made : ofRegistry? registry 1 = some bridge := rfl
  have initial : ∀ command,
      Event.accept command ∈ [Event.accept read, .turn 0, .turn 5, .turn 800] →
        command.phase = .initial := by
    intro command member
    rcases List.mem_cons.mp member with offered | later
    · obtain rfl := Event.accept.inj offered
      rfl
    · exact absurd later (by simp)
  have inOrder := (run_inOrder (fun _ => master) made () _ initial).1
  have commands : (polls entries).map Poll.command =
      [read, read.awaiting 750 0, read.awaiting 750 0] := by decide +kernel
  refine ⟨made, rfl, ?_⟩
  obtain ⟨first, others, place, _, rest⟩ := List.map_eq_cons_iff.mp commands
  obtain ⟨second, last, rfl, _, rest⟩ := List.map_eq_cons_iff.mp rest
  obtain ⟨third, _, rfl, command, none⟩ := List.map_eq_cons_iff.mp rest
  obtain rfl := List.map_eq_nil_iff.mp none
  have measures : third.command.Measures := by
    rw [command]
    exact ⟨rfl, .temperature, rfl, by decide⟩
  exact ⟨first, second, third, place, inOrder [first, second] third [] place measures⟩

end Bridge

end WireBridge
