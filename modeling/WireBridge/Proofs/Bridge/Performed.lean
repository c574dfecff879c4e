/-
**What the phases of a read have done.**

* `Poll.Took.sampled`, `Poll.Took.answered`: the phase that was run in a turn;
* `Bridge.run_poll`, `Bridge.run_sampled`: a poll of a run, and the one that started its conversion;
* `Command.sampledDevice`, `Command.sampledFamily`: a read that goes on waiting has started the
  conversions of the devices that were registered;
* `Command.fetchedDevice`, `Command.fetchedFamily`: a read that was answered has read them.
-/

import WireBridge.Proofs.Bridge.Phases

namespace WireBridge

variable {β ω ε : Type} {lines : ChannelId → Master (β × ω) ε}

namespace Bridge

/-! ### Turns -/

/-- A read in its last phase fetches its result when it is due. -/
theorem Poll.Proceeds.fetches_of_due {poll : Poll β ω} (proceeds : poll.Proceeds)
    (due : poll.command.timer.expired poll.now = true) (phase : poll.command.phase = .result) :
    poll.Fetches := by
  rcases proceeds with waits | ⟨_, samples⟩ | fails | fetches
  · exact absurd (due.symm.trans waits.early) Bool.noConfusion
  · exact absurd phase samples.phase
  · exact absurd phase fails.phase
  · exact fetches

section Taken

variable {now : Nat} {command : Command} {bridge reached : Bridge β} {world after : ω} {turn : Turn}

theorem Taking.sampled {wait : Nat}
    (taking : Taking lines now command bridge world (turn, reached, after))
    (due : command.timer.expired now = true)
    (returned : turn.returned = some (command.awaiting wait now)) :
    (Command.advance lines command now).perform (bridge.registry, world) =
      (.ok (.waiting (command.awaiting wait now)), (reached.registry, after)) := by
  cases taking with
  | waits early => exact absurd (due.symm.trans early) Bool.noConfusion
  | goesOn _ verb ran =>
    obtain rfl := Option.some.inj returned
    exact ran
  | _ => exact absurd returned (Option.some_ne_none _).symm

theorem Taking.answered (taking : Taking lines now command bridge world (turn, reached, after))
    (measures : command.Measures) {sink : Sink} {response : Response}
    (delivered : .result sink response ∈ turn.deliveries) :
    (Command.advance lines command now).perform (bridge.registry, world) =
      (.ok (.answer response), (reached.registry, after)) := by
  cases taking with
  | reads due verb ran =>
    obtain ⟨_, rfl⟩ := Delivery.result.inj (List.mem_singleton.mp delivered)
    exact ran
  | waits early => exact absurd delivered List.not_mem_nil
  | goesOn due verb ran => exact absurd delivered List.not_mem_nil
  | fails due verb ran => exact absurd (List.mem_singleton.mp delivered) Delivery.noConfusion
  | restarts due verb => exact absurd (measures.1.symm.trans verb) (by decide)
  | scans due verb ran => exact absurd (measures.1.symm.trans verb) (by decide)
  | subscribes due verb changed => exact absurd (measures.1.symm.trans verb) (by decide)
  | unsubscribes due verb changed => exact absurd (measures.1.symm.trans verb) (by decide)

/-- A result that is due is told, unless it cannot be fetched. -/
theorem Taking.told (taking : Taking lines now command bridge world (turn, reached, after))
    (due : command.timer.expired now = true) (read : command.verb = .read)
    (phase : command.phase = .result) :
    (∃ response, .success command response ∈ turn.deliveries) ∨
      ∃ error, (Command.advance lines command now).perform (bridge.registry, world) =
        (.error error, (reached.registry, after)) := by
  cases taking with
  | reads _ verb ran => exact .inl ⟨_, List.mem_singleton_self _⟩
  | fails _ verb ran => exact .inr ⟨_, ran⟩
  | waits early => exact absurd (due.symm.trans early) Bool.noConfusion
  | goesOn _ verb ran =>
    obtain ⟨_, _, _, _, started, _⟩ := Command.advance_waiting ran
    exact absurd phase started
  | restarts _ verb => exact absurd (read.symm.trans verb) (by decide)
  | scans _ verb ran => exact absurd (read.symm.trans verb) (by decide)
  | subscribes _ verb changed => exact absurd (read.symm.trans verb) (by decide)
  | unsubscribes _ verb changed => exact absurd (read.symm.trans verb) (by decide)

end Taken

namespace Poll.Took

variable {poll : Poll β ω} (took : poll.Took lines)

include took

/-- A poll that started a conversion ran the first phase of its command. -/
theorem sampled {wait : Nat} (samples : poll.Samples wait) :
    (Command.advance lines poll.command poll.now).perform poll.before =
      (.ok (.waiting (poll.command.awaiting wait poll.now)), poll.after) := by
  obtain ⟨bridge, reached, found, left, taking⟩ := took
  rw [← found, ← left]
  exact taking.sampled samples.due samples.returned

/-- A poll that answered a read of a measured quantity ran the last phase of its command. -/
theorem answered (measures : poll.command.Measures) {sink : Sink} {response : Response}
    (delivered : .result sink response ∈ poll.turn.deliveries) :
    (Command.advance lines poll.command poll.now).perform poll.before =
      (.ok (.answer response), poll.after) := by
  obtain ⟨bridge, reached, found, left, taking⟩ := took
  rw [← found, ← left]
  exact taking.answered measures delivered

theorem told (due : poll.command.timer.expired poll.now = true) (read : poll.command.verb = .read)
    (phase : poll.command.phase = .result) :
    (∃ response, .success poll.command response ∈ poll.turn.deliveries) ∨
      ∃ error, (Command.advance lines poll.command poll.now).perform poll.before =
        (.error error, poll.after) := by
  obtain ⟨bridge, reached, found, left, taking⟩ := took
  rw [← found, ← left]
  exact taking.told due read phase

end Poll.Took

/-! ### Runs -/

/-- What an event tells is what came of its poll, with the errors of reads that found no room. -/
theorem step_delivers {ledger : Ledger β ω} (sound : ledger.Sound) (event : Event) {poll : Poll β ω}
    (found : (step lines event ledger).1.poll? = some poll) (sink : Sink) (response : Response) :
    .result sink response ∈ (step lines event ledger).1.deliveries ↔
      .result sink response ∈ poll.turn.deliveries := by
  constructor
  · intro delivered
    obtain ⟨other, same, answer⟩ := step_result lines sound event delivered
    rwa [Option.some.inj (found.symm.trans same)]
  · intro answer
    cases event with
    | accept command => exact absurd found.symm (Option.some_ne_none poll)
    | turn now =>
      change ledger.waiting.head?.map _ = some poll at found
      obtain ⟨entry, front, rfl⟩ := Option.map_eq_some_iff.mp found
      exact List.mem_append_left _ answer

/-- **A poll of a run** works on what the events before it have led to. -/
theorem run_poll (events : List Event) {ledger : Ledger β ω} (sound : ledger.Sound)
    {first rest : List (Entry β ω)} {entry : Entry β ω}
    (place : (run lines events ledger).1 = first ++ entry :: rest) {poll : Poll β ω}
    (polled : entry.poll? = some poll) :
    ∃ earlier, first = (run lines earlier ledger).1 ∧ poll.Took lines ∧
      poll.before.1 = (run lines earlier ledger).2.bridge.registry ∧
      ∀ sink response, .result sink response ∈ entry.deliveries ↔
        .result sink response ∈ poll.turn.deliveries := by
  obtain ⟨earlier, event, later, rfl, rfl, _⟩ := run_split lines events place
  have before := run_sound lines earlier sound
  obtain ⟨took, found, _⟩ := step_took lines before event polled
  exact ⟨earlier, rfl, took, found, step_delivers before event polled⟩

/-- **A read that fetches its result** comes after a poll of the same command that started its
conversion. -/
theorem run_sampled {registry : Registry β} {capacity : Nat} {bridge : Bridge β} {world : ω}
    (made : ofRegistry? registry capacity = some bridge) (events : List Event)
    (initial : ∀ command, .accept command ∈ events → command.phase = .initial)
    {first rest : List (Entry β ω)} {entry : Entry β ω}
    (place : (run lines events (.start bridge world)).1 = first ++ entry :: rest)
    {poll : Poll β ω} (polled : entry.poll? = some poll) (measures : poll.command.Measures) :
    poll.Proceeds ∧ (poll.Fetches → ∃ sampling ∈ polls first, sampling.number = poll.number ∧
      ∃ wait, sampling.Samples wait ∧
        poll.command = sampling.command.awaiting wait sampling.now) := by
  have among : polls (run lines events (.start bridge world)).1 =
      polls first ++ poll :: polls rest := by
    rw [place, polls, List.filterMap_append, List.filterMap_cons_some polled]
    rfl
  have inOrder := run_followed lines events initial (Followed.start made world) among measures
  refine ⟨inOrder.proceeds, fun fetches => ?_⟩
  obtain ⟨sampling, sampled, number, wait, samples, awaiting, _⟩ := inOrder.fetched fetches
  exact ⟨sampling, sampled, number, wait, samples, awaiting⟩

end Bridge

/-! ### Phases -/

namespace Command

variable {command : Command} {quantity : Quantity} {now : Nat} {state after : Registry β × ω}

theorem quantities_ne_nil {family : FamilyCode}
    (accepted : checkQuantity family quantity = .ok ()) :
    Family.quantities family ≠ [] := by
  intro none
  unfold checkQuantity at accepted
  rw [none] at accepted
  exact absurd accepted (by simp)

section Device

variable {address : Address} (selected : command.device = some address)
  (asked : command.quantity = some quantity) (measured : quantity ≠ .presence)

include selected asked measured

omit measured in
theorem advance_device {outcome : ReadOutcome}
    (ran : (advance lines command now).perform state = (.ok outcome, after)) :
    (advanceDevice lines command address quantity now).perform state = (.ok outcome, after) := by
  unfold advance at ran
  rw [asked, selected] at ran
  cases family : command.family with
  | none =>
    rw [family] at ran
    exact ran
  | some family' =>
    rw [family] at ran
    exact absurd ran Action.not_fail_ok

/-- The conversion of the registered device was started. -/
theorem sampledDevice {next : Command}
    (ran : (advance lines command now).perform state = (.ok (.waiting next), after)) :
    checkQuantity address.family quantity = .ok () ∧
      ∃ device wait, state.1.find? address = some device ∧
        (Registry.onDevice lines address device fun master =>
          Device.sample master quantity).perform state = (.ok wait, after) := by
  have advanced := advance_device selected asked ran
  unfold advanceDevice at advanced
  rw [if_neg measured] at advanced
  obtain ⟨_, accepted, checked⟩ := Action.ofExcept_bind_ok advanced
  rw [registry_bind] at checked
  refine ⟨accepted, ?_⟩
  split at checked
  · exact absurd checked Action.not_fail_ok
  · next device found =>
    split at checked
    · obtain ⟨_, _, _, last⟩ := Action.bind_ok checked
      exact absurd (Action.pure_ok last).1 ReadOutcome.noConfusion
    · obtain ⟨wait, reached, sampled, last⟩ := Action.bind_ok checked
      rw [(Action.pure_ok last).2]
      exact ⟨device, wait, found, Action.mapError_ok sampled⟩

/-- The registered device was read. -/
theorem fetchedDevice {response : Response}
    (ran : (advance lines command now).perform state = (.ok (.answer response), after)) :
    checkQuantity address.family quantity = .ok () ∧
      ∃ device value, state.1.find? address = some device ∧
        (Registry.onDevice lines address device fun master =>
          Device.read master quantity).perform state = (.ok value, after) ∧
        response =
          { verb := .read,
            device := some <| DeviceReport.record
              { address, channel := some device.channel } quantity value } := by
  have advanced := advance_device selected asked ran
  unfold advanceDevice at advanced
  rw [if_neg measured] at advanced
  obtain ⟨_, accepted, checked⟩ := Action.ofExcept_bind_ok advanced
  rw [registry_bind] at checked
  refine ⟨accepted, ?_⟩
  split at checked
  · exact absurd checked Action.not_fail_ok
  · next device found =>
    split at checked
    · obtain ⟨value, reached, fetched, last⟩ := Action.bind_ok checked
      obtain ⟨answer, rfl⟩ := Action.pure_ok last
      exact ⟨device, value, found, Action.mapError_ok fetched, ReadOutcome.answer.inj answer⟩
    · obtain ⟨_, _, _, last⟩ := Action.bind_ok checked
      exact absurd (Action.pure_ok last).1 ReadOutcome.noConfusion

/-- The result of a registered device can be fetched if the device can be read. -/
theorem unfetchedDevice {error : CommandError} (unselected : command.family = none)
    (phase : command.phase = .result) (accepted : checkQuantity address.family quantity = .ok ())
    {device : WireBridge.Device} (found : state.1.find? address = some device)
    (ran : (advance lines command now).perform state = (.error error, after)) :
    ∃ failure, (Registry.onDevice lines address device fun master =>
      Device.read master quantity).perform state = (.error failure, after) := by
  have fetches : (advance lines command now).perform state =
      (fetchDevice lines address device quantity).perform state := by
    unfold advance
    rw [asked, selected, unselected]
    dsimp only
    unfold advanceDevice
    rw [if_neg measured, Action.perform_bind, Action.perform_ofExcept, accepted]
    dsimp only
    rw [registry_bind, found, phase]
  rw [fetches] at ran
  rcases Action.bind_error ran with unread | ⟨_, _, _, last⟩
  · exact Action.mapError_error unread
  · exact absurd last Action.not_pure_error

end Device

section Family

variable {family : FamilyCode} (selected : command.family = some family)
  (asked : command.quantity = some quantity) (measured : quantity ≠ .presence)

include selected asked measured

omit measured in
theorem advance_family {outcome : ReadOutcome}
    (ran : (advance lines command now).perform state = (.ok outcome, after)) :
    (advanceFamily lines command family quantity now).perform state = (.ok outcome, after) := by
  unfold advance at ran
  rw [asked, selected] at ran
  cases device : command.device with
  | none =>
    rw [device] at ran
    exact ran
  | some address =>
    rw [device] at ran
    exact absurd ran Action.not_fail_ok

/-- Temperatures were started on the channels with registered devices of the family, other
conversions on each of the registered devices. -/
theorem sampledFamily {next : Command}
    (ran : (advance lines command now).perform state = (.ok (.waiting next), after)) :
    ∃ failed wait,
      (if quantity = .temperature then sampleChannels lines family failed (state.1.hosting family) 0
        else
          sampleDevices lines quantity failed (state.1.ofFamily family).entries 0).perform state =
          (.ok wait, after) := by
  have advanced := advance_family selected asked ran
  unfold advanceFamily at advanced
  rw [if_neg measured] at advanced
  obtain ⟨_, _, checked⟩ := Action.ofExcept_bind_ok advanced
  rw [registry_bind] at checked
  split at checked
  · exact absurd checked Action.not_fail_ok
  · split at checked
    · unfold fetchFamily at checked
      rw [registry_bind] at checked
      obtain ⟨_, _, _, last⟩ := Action.bind_ok checked
      exact absurd (Action.pure_ok last).1 ReadOutcome.noConfusion
    · unfold sampleFamily at checked
      rw [registry_bind] at checked
      dsimp only at checked
      split at checked
      all_goals
        obtain ⟨wait, reached, sampled, last⟩ := Action.bind_ok checked
        rw [(Action.pure_ok last).2]
      · exact ⟨_, wait, by rwa [if_pos ‹_›]⟩
      · exact ⟨_, wait, by rwa [if_neg ‹_›]⟩

/-- The registered devices were read. -/
theorem fetchedFamily {response : Response}
    (ran : (advance lines command now).perform state = (.ok (.answer response), after)) :
    checkQuantity family quantity = .ok () ∧
      ∃ failed reports,
        (fetchDevices lines quantity failed (state.1.ofFamily family).entries).perform state =
          (.ok reports, after) ∧
        response = { verb := .read, family := some family, devices := some reports } := by
  have advanced := advance_family selected asked ran
  unfold advanceFamily at advanced
  rw [if_neg measured] at advanced
  obtain ⟨_, accepted, checked⟩ := Action.ofExcept_bind_ok advanced
  rw [registry_bind] at checked
  refine ⟨accepted, ?_⟩
  split at checked
  · exact absurd checked Action.not_fail_ok
  · split at checked
    · unfold fetchFamily at checked
      rw [registry_bind] at checked
      obtain ⟨reports, reached, fetched, last⟩ := Action.bind_ok checked
      obtain ⟨answer, rfl⟩ := Action.pure_ok last
      exact ⟨_, reports, fetched, ReadOutcome.answer.inj answer⟩
    · unfold sampleFamily at checked
      rw [registry_bind] at checked
      dsimp only at checked
      split at checked
      all_goals
        obtain ⟨_, _, _, last⟩ := Action.bind_ok checked
        exact absurd (Action.pure_ok last).1 ReadOutcome.noConfusion

end Family

end Command

end WireBridge
