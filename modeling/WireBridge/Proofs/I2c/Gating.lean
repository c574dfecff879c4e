/-
**The gate and the size limit of the transport.**

A transport is closed until the bus was recovered, and while it is closed nothing is held. So what
may reach the peripheral is settled by what one event does to a sound transport, and a whole history
is a course of such events, each from where the one before it led.

* `Transport.Event`, `Transport.history`: recoveries and calls in any order, with what each of them
  did;
* `Transport.Sound`: what holds of every transport between two events;
* `Transport.Behaves`, `Transport.happen_behaves`: what one event does to a sound transport;
* `Transport.Course`: events on record, each from where the one before it led;
* `Transport.Gated`, `Transport.history_gated`: in every history the peripheral is left alone before
  a recovery and gets no long buffers, and what is refused leaves a held write to be sent.
-/

import WireBridge.Proofs.I2c.Holding

namespace WireBridge

open I2c (Demand Failing RecoveryError Transfer)

/-- The peripheral completed a transfer. -/
def I2c.Transfer.done : Transfer → Bool
  | .read _ _ done => done
  | .write _ _ done => done
  | .writeRead _ _ _ done => done
  | .transaction _ _ done => done

@[simp] theorem I2c.Transfer.done_noted (done : Bool) (demand : Demand) :
    (demand.noted done).done = done := by
  cases demand <;> rfl

namespace Transport

variable {σ ε : Type}

/-! ### Histories -/

/-- What happens to a transport: the bus is recovered in some way, or a call is made. -/
inductive Event (σ : Type) where
  | start (recover : Action σ RecoveryError Unit)
  | call (call : Call)

/-- What comes of an event. -/
inductive Result where
  | started (outcome : Except RecoveryError Unit)
  | answered (outcome : Except TransportError (List (List UInt8)))

/-- An event with the transport before and after it, what came of it, and the transfers that it
made, in order. -/
structure Record (σ : Type) where
  event : Event σ
  before : Transport
  result : Result
  made : List Transfer
  after : Transport

/-- One event. -/
def happen [Failing ε] (bus : I2c σ ε) (event : Event σ) (state : Transport × σ) :
    Record σ × Transport × σ :=
  match event with
  | .start recover =>
    let (outcome, (transport, (line, notes))) :=
      (start recover.onFirst).perform (state.1, (state.2, []))
    (⟨event, state.1, .started outcome, notes.reverse, transport⟩, (transport, line))
  | .call call =>
    let (entry, reached) := step bus call state
    (⟨event, state.1, .answered entry.outcome, entry.made, reached.1⟩, reached)

/-- Events one after the other. -/
def history [Failing ε] (bus : I2c σ ε) : List (Event σ) → Transport × σ → List (Record σ)
  | [], _ => []
  | event :: rest, state =>
    let (record, reached) := happen bus event state
    record :: history bus rest reached

namespace Record

/-- A recovery that succeeded. -/
def Opens (record : Record σ) : Prop := record.result = .started (.ok ())

/-- A recovery, with or without success. -/
def Starts (record : Record σ) : Prop := ∃ outcome, record.result = .started outcome

/-- A call that the transport refused by itself: the peripheral failed nothing, or else it may be an
overrun of the peripheral that is reported. -/
def Refused (record : Record σ) : Prop :=
  ∃ error, record.result = .answered (.error error) ∧
    (error = .notInitialized ∨ error = .tooLarge) ∧ ∀ transfer ∈ record.made, transfer.done = true

/-- A call that was not refused. -/
def Accepted (record : Record σ) : Prop := (∃ call, record.event = .call call) ∧ ¬ record.Refused

/-- The first transfer has a write with it, alone or together with a read. -/
def Carries (record : Record σ) (write : HeldWrite) : Prop :=
  ∃ first rest, record.made = first :: rest ∧
    (first.demand = write.demand ∨ ∃ count, first.demand = .writeRead write.peer write.bytes count)

end Record

/-! ### One event -/

/-- Between two events a closed transport holds nothing, and an open one nothing too long. -/
structure Sound (transport : Transport) : Prop where
  closed : transport.initialized = false → transport.held = none
  short : ∀ write, transport.held = some write → write.bytes.length ≤ 128

/-- What an event does to a sound transport. -/
structure Behaves (record : Record σ) : Prop where
  sound : Sound record.after
  opens : record.after.initialized = true → record.before.initialized = true ∨ record.Opens
  closed : record.before.initialized = false → record.made = []
  short : ∀ transfer ∈ record.made, ∀ size ∈ transfer.demand.sizes, size ≤ 128
  gate : ∀ call, record.event = .call call → call ≠ .flush →
    record.before.initialized = false → record.result = .answered (.error .notInitialized)
  limit : ∀ call, record.event = .call call → ¬ call.Fits → record.before.initialized = true →
    record.result = .answered (.error .tooLarge)
  started : record.Starts → record.made = [] ∧ record.after.held = record.before.held
  refused : record.Refused → record.made = [] ∧ record.after = record.before
  sends : ∀ write, record.before.held = some write → record.Accepted → record.Carries write

/-- Recovery makes no transfer and opens the transport if it succeeds. -/
theorem start_perform {τ : Type} (recover : Action τ RecoveryError Unit) (transport : Transport)
    (pins : τ) :
    (start recover).perform (transport, pins) =
      ((recover.perform pins).1,
        ({ transport with
            initialized := transport.initialized || (recover.perform pins).1.toOption.isSome },
          (recover.perform pins).2)) := by
  unfold start
  rw [Action.perform_bind, Action.perform_onSecond]
  obtain ⟨initialized, held⟩ := transport
  rcases recover.perform pins with ⟨error | done, reached⟩ <;> simp [Except.toOption]

section Events

variable [Failing ε] (bus : I2c σ ε)

/-- A closed transport refuses whatever is a transfer. -/
theorem step_closed {call : Call} (transfers : call ≠ .flush) (line : σ) :
    step bus call (⟨false, none⟩, line) =
      (⟨call, .error .notInitialized, []⟩, (⟨false, none⟩, line)) := by
  cases call with
  | flush => exact absurd rfl transfers
  | read | write => rfl
  | transfer demand => cases demand <;> rfl

/-- A closed transport has nothing to send. -/
theorem step_closed_flush (line : σ) :
    step bus .flush (⟨false, none⟩, line) = (⟨.flush, .ok [], []⟩, (⟨false, none⟩, line)) := rfl

theorem behaves_start (recover : Action σ RecoveryError Unit) {transport : Transport}
    (sound : Sound transport) (line : σ) :
    Behaves (happen bus (.start recover) (transport, line)).1 := by
  have performed : happen bus (.start recover) (transport, line) =
      (⟨.start recover, transport, .started (recover.perform line).1, [],
        { transport with
          initialized := transport.initialized || (recover.perform line).1.toOption.isSome }⟩,
        ({ transport with
            initialized := transport.initialized || (recover.perform line).1.toOption.isSome },
          (recover.perform line).2)) := by
    rw [happen, start_perform]
    rfl
  rw [performed]
  refine ⟨⟨fun shut => sound.closed (Bool.or_eq_false_iff.mp shut).1, sound.short⟩,
    fun opened => ?_, fun _ => rfl, nofun, nofun, nofun, fun _ => ⟨rfl, rfl⟩, ?_, ?_⟩
  · refine (Bool.or_eq_true_iff.mp opened).imp id fun succeeded => ?_
    cases outcome : (recover.perform line).1 with
    | error error => simp [outcome, Except.toOption] at succeeded
    | ok done => rfl
  · rintro ⟨error, answered, _⟩
    cases answered
  · rintro write _ ⟨⟨call, called⟩, _⟩
    cases called

theorem behaves_closed (call : Call) (line : σ) :
    Behaves (happen bus (.call call) (⟨false, none⟩, line)).1 := by
  have shut : Sound ⟨false, none⟩ := ⟨fun _ => rfl, nofun⟩
  by_cases transfers : call = .flush
  · subst transfers
    rw [happen, step_closed_flush]
    refine ⟨shut, nofun, fun _ => rfl, nofun, ?_, fun _ _ _ => nofun, ?_, ?_, nofun⟩
    · rintro call called transfers
      cases called
      exact absurd rfl transfers
    · rintro ⟨outcome, started⟩
      cases started
    · rintro ⟨error, answered, _⟩
      cases answered
  · rw [happen, step_closed bus transfers]
    refine ⟨shut, nofun, fun _ => rfl, nofun, fun _ _ _ _ => rfl, fun _ _ _ => nofun, ?_,
      fun _ => ⟨rfl, rfl⟩, nofun⟩
    rintro ⟨outcome, started⟩
    cases started

omit [Failing ε] in
theorem sizes_of_send {call : Call} {demand : Demand} (deed : call.deed = .send demand) :
    demand.sizes = call.sizes := by
  cases call with
  | read peer count =>
    cases deed
    rfl
  | write peer bytes stop =>
    cases stop <;> cases deed
    rfl
  | flush => cases deed
  | transfer asked =>
    cases deed
    rfl

omit [Failing ε] in
theorem short_of_hold {call : Call} {write : HeldWrite} (deed : call.deed = .hold write)
    (fits : call.Fits) : write.bytes.length ≤ 128 := by
  cases call with
  | write peer bytes stop =>
    cases stop <;> cases deed
    exact fits _ (List.mem_singleton_self _)
  | read | flush | transfer => cases deed

variable {bus} {held after : Option HeldWrite} {call : Call} {line reached : σ}
  {outcome : Except TransportError (List (List UInt8))} {made : List Transfer}

omit [Failing ε] in
theorem Cleared.short (cleared : Cleared bus line held made reached) (sound : Sound ⟨true, held⟩) :
    ∀ transfer ∈ made, ∀ size ∈ transfer.demand.sizes, size ≤ 128 := by
  cases cleared with
  | nothing => exact List.forall_mem_nil _
  | sent done =>
    exact List.forall_mem_singleton.mpr (List.forall_mem_singleton.mpr (sound.short _ rfl))

/-- What is held after a served call is not too long. -/
theorem Served.short_after (served : Served bus held line call (outcome, made, after, reached))
    (sound : Sound ⟨true, held⟩) : ∀ write, after = some write → write.bytes.length ≤ 128 := by
  cases served with
  | refused long => exact sound.short
  | held fits deed cleared =>
    rintro other waits
    obtain rfl := Option.some.inj waits
    exact short_of_hold deed fits
  | broken | joined | flushed | sent => nofun

/-- No served call makes a transfer that is too long. -/
theorem Served.short_made (served : Served bus held line call (outcome, made, after, reached))
    (sound : Sound ⟨true, held⟩) :
    ∀ transfer ∈ made, ∀ size ∈ transfer.demand.sizes, size ≤ 128 := by
  cases served with
  | refused long => exact List.forall_mem_nil _
  | broken fits waits apart failed =>
    exact List.forall_mem_singleton.mpr (List.forall_mem_singleton.mpr (sound.short _ waits))
  | @joined write count outcome reached fits waits deed ran =>
    have asked : count ≤ 128 := fits _ (sizes_of_send deed ▸ List.mem_singleton_self _)
    exact List.forall_mem_singleton.mpr
      (List.forall_mem_cons.mpr ⟨sound.short _ waits, List.forall_mem_singleton.mpr asked⟩)
  | held fits deed cleared | flushed fits deed cleared => exact cleared.short sound
  | sent fits deed apart cleared ran =>
    refine List.forall_mem_append.mpr ⟨cleared.short sound, List.forall_mem_singleton.mpr ?_⟩
    rw [Transfer.demand_noted, sizes_of_send deed]
    exact fits

theorem Served.outcome_of_long (served : Served bus held line call (outcome, made, after, reached))
    (long : ¬ call.Fits) : outcome = .error .tooLarge := by
  cases served with
  | refused => rfl
  | broken fits | joined fits | held fits | flushed fits | sent fits => exact absurd fits long

/-- A peripheral that failed nothing has not made a call fail. -/
theorem not_error_of_done (demand : Demand) {outcome : Except ε (List (List UInt8))}
    {error : TransportError} (done : (demand.noted outcome.toOption.isSome).done = true) :
    (outcome.mapError fun error => TransportError.ofKind (Failing.kind error)) ≠ .error error := by
  rw [Transfer.done_noted] at done
  cases outcome with
  | error failure => simp [Except.toOption] at done
  | ok value => nofun

/-- A served call that fails without a failure of the peripheral did nothing. -/
theorem Served.eq_of_error (served : Served bus held line call (outcome, made, after, reached))
    {error : TransportError} (failed : outcome = .error error)
    (done : ∀ transfer ∈ made, transfer.done = true) : made = [] ∧ after = held := by
  cases served with
  | refused long => exact ⟨rfl, rfl⟩
  | broken => exact nomatch done _ (List.mem_singleton_self _)
  | @joined write count =>
    exact absurd failed (not_error_of_done (.writeRead write.peer write.bytes count)
      (done _ (List.mem_singleton_self _)))
  | held | flushed => cases failed
  | sent =>
    exact absurd failed (not_error_of_done _
      (done _ (List.mem_append_right _ (List.mem_singleton_self _))))

/-- A served call with which a held write is not sent was refused. -/
theorem Served.sends {write : HeldWrite}
    (served : Served bus (some write) line call (outcome, made, after, reached)) :
    (outcome = .error .tooLarge ∧ made = []) ∨
      ∃ first rest, made = first :: rest ∧ (first.demand = write.demand ∨
        ∃ count, first.demand = .writeRead write.peer write.bytes count) := by
  cases served with
  | refused long => exact .inl ⟨rfl, rfl⟩
  | broken fits waits apart failed =>
    cases waits
    exact .inr ⟨_, _, rfl, .inl rfl⟩
  | @joined write count outcome reached fits waits deed ran =>
    cases waits
    exact .inr ⟨_, _, rfl, .inr ⟨count, rfl⟩⟩
  | held fits deed cleared | flushed fits deed cleared | sent fits deed apart cleared ran =>
    cases cleared
    exact .inr ⟨_, _, rfl, .inl rfl⟩

/-- **A call on an open transport.** -/
theorem behaves_open (call : Call) {held : Option HeldWrite} (sound : Sound ⟨true, held⟩)
    (line : σ) : Behaves (happen bus (.call call) (⟨true, held⟩, line)).1 := by
  obtain ⟨opened, served⟩ := step_served bus call held line
  rw [happen]
  generalize step bus call (⟨true, held⟩, line) = stepped at opened served ⊢
  obtain ⟨⟨asked, outcome, made⟩, ⟨initialized, after⟩, reached⟩ := stepped
  obtain rfl : initialized = true := opened
  refine ⟨⟨nofun, served.short_after sound⟩, fun _ => .inl rfl, nofun, served.short_made sound,
    fun _ _ _ => nofun, ?_, ?_, ?_, ?_⟩
  · rintro _ called long _
    cases called
    exact congrArg Result.answered (served.outcome_of_long long)
  · rintro ⟨outcome, started⟩
    cases started
  · rintro ⟨error, answered, _, done⟩
    cases answered
    obtain ⟨nothing, rfl⟩ := served.eq_of_error rfl done
    exact ⟨nothing, rfl⟩
  · rintro write waits ⟨_, accepted⟩
    cases waits
    rcases served.sends with ⟨refused, nothing⟩ | carries
    · obtain rfl : made = [] := nothing
      exact absurd ⟨.tooLarge, congrArg Result.answered refused, .inr rfl, nofun⟩ accepted
    · exact carries

variable (bus) in
/-- **One event** does to a sound transport what it should, and says from where it came and where it
led. -/
theorem happen_behaves (event : Event σ) {transport : Transport} (sound : Sound transport)
    (line : σ) :
    let (record, reached) := happen bus event (transport, line)
    record.event = event ∧ record.before = transport ∧ record.after = reached.1 ∧
      Behaves record := by
  cases event with
  | start recover => exact ⟨rfl, rfl, rfl, behaves_start bus recover sound line⟩
  | call call =>
    refine ⟨rfl, rfl, rfl, ?_⟩
    obtain ⟨initialized, held⟩ := transport
    cases initialized with
    | true => exact behaves_open call sound line
    | false =>
      obtain rfl : held = none := sound.closed rfl
      exact behaves_closed bus call line

end Events

/-! ### Courses -/

/-- Events on record that lead from one transport to another. -/
def Course : Transport → List (Record σ) → Transport → Prop
  | first, [], last => last = first
  | first, record :: rest, last =>
    record.before = first ∧ Behaves record ∧ Course record.after rest last

theorem Course.split {first last : Transport} {front back : List (Record σ)}
    (course : Course first (front ++ back) last) :
    ∃ middle, Course first front middle ∧ Course middle back last := by
  induction front generalizing first with
  | nil => exact ⟨first, rfl, course⟩
  | cons record rest ih =>
    obtain ⟨before, behaves, later⟩ := course
    obtain ⟨middle, here, there⟩ := ih later
    exact ⟨middle, ⟨before, behaves, here⟩, there⟩

/-- A transport that was closed is open after a recovery that succeeded. -/
theorem Course.exists_opens {first last : Transport} {records : List (Record σ)}
    (course : Course first records last) (shut : first.initialized = false)
    (opened : last.initialized = true) : ∃ record ∈ records, record.Opens := by
  induction records generalizing first with
  | nil =>
    obtain rfl : last = first := course
    exact absurd (shut.symm.trans opened) Bool.false_ne_true
  | cons record rest ih =>
    obtain ⟨rfl, behaves, later⟩ := course
    cases reached : record.after.initialized with
    | true =>
      refine ⟨record, List.mem_cons_self, (behaves.opens reached).resolve_left fun before => ?_⟩
      exact absurd (shut.symm.trans before) Bool.false_ne_true
    | false =>
      obtain ⟨opening, member, opens⟩ := ih later reached
      exact ⟨opening, List.mem_cons_of_mem _ member, opens⟩

/-- What is held stays held while calls are refused, also if the bus is recovered in between. -/
theorem Course.held_eq {first last : Transport} {records : List (Record σ)}
    (course : Course first records last)
    (idle : ∀ record ∈ records, record.Refused ∨ record.Starts) : last.held = first.held := by
  induction records generalizing first with
  | nil => exact congrArg Transport.held course
  | cons record rest ih =>
    obtain ⟨rfl, behaves, later⟩ := course
    obtain ⟨here, others⟩ := List.forall_mem_cons.mp idle
    rw [ih later others]
    rcases here with refused | started
    · rw [(behaves.refused refused).2]
    · exact (behaves.started started).2

theorem Course.behaves {first last : Transport} {records : List (Record σ)}
    (course : Course first records last) : ∀ record ∈ records, Behaves record := by
  induction records generalizing first with
  | nil => exact List.forall_mem_nil _
  | cons record rest ih => exact List.forall_mem_cons.mpr ⟨course.2.1, ih course.2.2⟩

/-- What the gate and the size limit promise about a history. -/
structure Gated (records : List (Record σ)) : Prop where
  /-- The peripheral gets no transfer before a recovery succeeded. -/
  closed : ∀ earlier record later, records = earlier ++ record :: later → record.made ≠ [] →
    ∃ opening ∈ earlier, opening.Opens
  /-- It gets no buffer of more than 128 bytes. -/
  short : ∀ record ∈ records, ∀ transfer ∈ record.made, ∀ size ∈ transfer.demand.sizes, size ≤ 128
  /-- A call on a closed transport is refused, unless it is no transfer. -/
  gate : ∀ record ∈ records, ∀ call, record.event = .call call → call ≠ .flush →
    record.before.initialized = false → record.result = .answered (.error .notInitialized)
  /-- A call with a longer buffer is refused. -/
  limit : ∀ record ∈ records, ∀ call, record.event = .call call → ¬ call.Fits →
    record.before.initialized = true → record.result = .answered (.error .tooLarge)
  /-- A call that is refused makes no transfer and leaves the transport as it is. -/
  refused : ∀ record ∈ records, record.Refused → record.made = [] ∧ record.after = record.before
  /-- A write that is held goes out first with the next call that is accepted. -/
  sent : ∀ earlier holding idle record later write,
    records = earlier ++ holding :: (idle ++ record :: later) → holding.after.held = some write →
    (∀ between ∈ idle, between.Refused ∨ between.Starts) → record.Accepted → record.Carries write

theorem Course.gated {last : Transport} {records : List (Record σ)}
    (course : Course fresh records last) : Gated records where
  closed := by
    rintro earlier record later rfl made
    obtain ⟨middle, before, rfl, behaves, _⟩ := course.split
    refine before.exists_opens rfl ?_
    cases opened : record.before.initialized with
    | true => rfl
    | false => exact absurd (behaves.closed opened) made
  short record member := (course.behaves record member).short
  gate record member := (course.behaves record member).gate
  limit record member := (course.behaves record member).limit
  refused record member := (course.behaves record member).refused
  sent := by
    rintro earlier holding idle record later write rfl holds refusals accepted
    obtain ⟨_, _, _, _, afterwards⟩ := course.split
    obtain ⟨middle, between, rfl, behaves, _⟩ := afterwards.split
    exact behaves.sends write ((between.held_eq refusals).trans holds) accepted

/-- Every history is a course of its events. -/
theorem history_course [Failing ε] (bus : I2c σ ε) (events : List (Event σ)) (state : Transport × σ)
    (sound : Sound state.1) :
    (history bus events state).map Record.event = events ∧
      ∃ last, Course state.1 (history bus events state) last := by
  induction events generalizing state with
  | nil => exact ⟨rfl, state.1, rfl⟩
  | cons event rest ih =>
    obtain ⟨transport, line⟩ := state
    have here := happen_behaves bus event sound line
    rw [history]
    generalize happen bus event (transport, line) = happened at here ⊢
    obtain ⟨record, reached⟩ := happened
    obtain ⟨same, before, after, behaves⟩ := here
    obtain ⟨others, last, later⟩ := ih reached (after ▸ behaves.sound)
    exact ⟨by rw [List.map_cons, same, others], last, before, behaves, after ▸ later⟩

/-- **The gate and the size limit hold in every history** of a new transport: with any recoveries
and any calls, in any order, on any peripheral. -/
theorem history_gated [Failing ε] (bus : I2c σ ε) (events : List (Event σ)) (line : σ) :
    (history bus events (fresh, line)).map Record.event = events ∧
      Gated (history bus events (fresh, line)) := by
  have sound : Sound fresh := ⟨fun _ => rfl, nofun⟩
  obtain ⟨same, last, course⟩ := history_course bus events (fresh, line) sound
  exact ⟨same, course.gated⟩

end Transport

end WireBridge
