/-
**Every request line is answered once.**

* `Session.Seen`: how a session went, and why it ended;
* `Session.watch_answered`: on a clock that goes on, every command is answered unless a restart comes
  before;
* `Session.Answers`, `Session.loop_answers`: the whole law.
-/

import WireBridge.Proofs.Bridge.Progress
import WireBridge.Proofs.Host.Standing

namespace WireBridge.Session

open Bridge (Ledger Poll step step_turn)

variable {β ω ε : Type} {lines : ChannelId → Master (β × ω) ε}

/-! ### Why a session ends -/

/-- The receipts of a session. -/
def receipts (records : List (Record β ω)) : List (Receipt β) :=
  records.filterMap fun record =>
    match record with
    | .line receipt => some receipt
    | .turn .. => none

/-- How a session went. It has taken the lines that arrived in its rounds, and nothing has restarted
it. Or a restart ended it. Or it ended by itself, after the end of the input and with nothing left
to do. -/
inductive Seen (looks : List Look) (records : List (Record β ω)) (last : Ledger β ω) :
    Option Ending → Prop where
  | going (heard : (receipts records).map Receipt.line = looks.flatMap Look.arrived)
      (quiet : records.any Record.restart = false) : Seen looks records last none
  | restarted {rounds later : List Look} {poll : Poll β ω} {late : List Delivery}
      (split : looks = rounds ++ later)
      (heard : (receipts records).map Receipt.line = rounds.flatMap Look.arrived)
      (member : .turn (some poll) late ∈ records) (verb : poll.command.verb = .restart) :
    Seen looks records last (some .restart)
  | finished {rounds later : List Look} {look : Look} (split : looks = rounds ++ look :: later)
      (heard : (receipts records).map Receipt.line = (rounds ++ [look]).flatMap Look.arrived)
      (quiet : records.any Record.restart = false) (closed : look.closed = true)
      (waiting : last.bridge.queue.items = [])
      (subscriptions : last.bridge.subscriptions.isEmpty = true) :
    Seen looks records last (some .finished)

theorem receipts_append (first second : List (Record β ω)) :
    receipts (first ++ second) = receipts first ++ receipts second :=
  List.filterMap_append

/-- A round takes the lines that have arrived. -/
theorem receipts_notes (look : Look) (ledger : Ledger β ω) :
    (receipts (notes lines look.inputs ledger).1).map Receipt.line = look.arrived := by
  have taken (texts : List String) (ledger : Ledger β ω) :
      (receipts (notes lines (texts.map .line) ledger).1).map Receipt.line = texts := by
    induction texts generalizing ledger with
    | nil => rfl
    | cons text rest later => exact congrArg (text :: ·) (later (receive lines text ledger))
  rw [Look.inputs, notes_append, receipts_append, List.map_append, taken]
  exact List.append_nil _

/-- A restart that was acknowledged was asked for by the command that was taken. -/
theorem note_restart {input : Input} {ledger : Ledger β ω} (sound : ledger.Sound)
    (restart : (note lines input ledger).1.restart = true) :
    ∃ poll late, (note lines input ledger).1 = .turn (some poll) late ∧
      poll.command.verb = .restart := by
  cases input with
  | line text => exact absurd restart Bool.false_ne_true
  | turn now =>
    rw [note_turn] at restart ⊢
    obtain ⟨_, _, _, _, _, ⟨_, _, entryEq⟩ | taken⟩ := step_turn lines sound now
    · rw [entryEq] at restart
      exact absurd restart Bool.false_ne_true
    · obtain ⟨command, number, _, turn, _, _, _, _, taking, entryEq⟩ := taken
      rw [entryEq] at restart ⊢
      refine ⟨_, _, rfl, ?_⟩
      have again : turn.restart = true := restart
      cases taking with
      | restarts _ verb => exact verb
      | _ => exact absurd again Bool.false_ne_true

theorem notes_restart {inputs : List Input} {ledger : Ledger β ω} (sound : ledger.Sound)
    (restart : (notes lines inputs ledger).1.any Record.restart = true) :
    ∃ poll late, .turn (some poll) late ∈ (notes lines inputs ledger).1 ∧
      poll.command.verb = .restart := by
  induction inputs generalizing ledger with
  | nil => cases restart
  | cons input rest later =>
    rw [notes_cons, List.any_cons, Bool.or_eq_true] at restart
    rw [notes_cons]
    rcases restart with now | after
    · obtain ⟨poll, late, same, verb⟩ := note_restart sound now
      exact ⟨poll, late, same ▸ List.mem_cons_self, verb⟩
    · obtain ⟨poll, late, member, verb⟩ := later (note_sound input sound) after
      exact ⟨poll, late, List.mem_cons_of_mem _ member, verb⟩

/-- What the end of the program tells. -/
theorem ending?_cases (closed restart : Bool) (bridge : Bridge β) :
    (restart = true ∧ ending? closed restart bridge = some .restart) ∨
      (restart = false ∧ ((ending? closed restart bridge = none) ∨
        (ending? closed restart bridge = some .finished ∧ closed = true ∧
          bridge.queue.items = [] ∧ bridge.subscriptions.isEmpty = true))) := by
  cases restart with
  | true => exact .inl ⟨rfl, rfl⟩
  | false =>
    refine .inr ⟨rfl, ?_⟩
    cases closed with
    | false => exact .inl rfl
    | true =>
      cases left : idle bridge with
      | false => exact .inl (by simp [ending?, left])
      | true =>
        obtain ⟨queue, subscriptions⟩ := Bool.and_eq_true_iff.mp left
        exact .inr ⟨by simp [ending?, left], rfl, List.isEmpty_iff.mp queue, subscriptions⟩

theorem Seen.cons {look : Look} {rest : List Look} {first more : List (Record β ω)}
    {last : Ledger β ω} {ending : Option Ending}
    (heard : (receipts first).map Receipt.line = look.arrived)
    (quiet : first.any Record.restart = false) (later : Seen rest more last ending) :
    Seen (look :: rest) (first ++ more) last ending := by
  have both {rounds : List Look}
      (others : (receipts more).map Receipt.line = rounds.flatMap Look.arrived) :
      (receipts (first ++ more)).map Receipt.line = (look :: rounds).flatMap Look.arrived := by
    rw [receipts_append, List.map_append, heard, others, List.flatMap_cons]
  have still (goesOn : more.any Record.restart = false) :
      (first ++ more).any Record.restart = false := by
    rw [List.any_append, quiet, goesOn]
    rfl
  cases later with
  | going others goesOn => exact .going (both others) (still goesOn)
  | restarted split others member verb =>
    exact .restarted (by rw [split]; rfl) (both others) (List.mem_append_right _ member) verb
  | @finished rounds _ _ split others goesOn closed waiting subscriptions =>
    exact @Seen.finished _ _ _ _ _ (look :: rounds) _ _ (by rw [split]; rfl) (both others)
      (still goesOn) closed waiting subscriptions

theorem watch_seen (looks : List Look) {ledger : Ledger β ω} (sound : ledger.Sound) :
    Seen looks (watch lines looks ledger).1 (watch lines looks ledger).2.2
      (watch lines looks ledger).2.1 := by
  induction looks generalizing ledger with
  | nil => exact .going rfl rfl
  | cons look rest later =>
    have heard := @receipts_notes _ _ _ lines look ledger
    have single : (receipts (notes lines look.inputs ledger).1).map Receipt.line =
        [look].flatMap Look.arrived := by
      rw [heard, List.flatMap_singleton]
    rcases ending?_cases look.closed ((notes lines look.inputs ledger).1.any Record.restart)
      (notes lines look.inputs ledger).2.bridge with
      ⟨restart, stops⟩ | ⟨quiet, going | ⟨stops, closed, waiting, subscriptions⟩⟩
    · rw [watch_over stops]
      obtain ⟨poll, late, member, verb⟩ := notes_restart sound restart
      exact .restarted (List.singleton_append).symm single member verb
    · rw [watch_going going]
      exact .cons heard quiet (later (notes_sound look.inputs sound))
    · rw [watch_over stops]
      exact .finished (List.nil_append _).symm single quiet closed waiting subscriptions

/-! ### Going on -/

/-- The commands that get into the queue with lines. -/
def offered (lines : ChannelId → Master (β × ω) ε) : List String → Ledger β ω → List Command
  | [], _ => []
  | text :: rest, ledger =>
    (fate ledger.bridge text).command?.toList ++ offered lines rest (receive lines text ledger)

theorem notes_offered (texts : List String) (ledger : Ledger β ω) :
    (notes lines (texts.map .line) ledger).2 =
      (Bridge.run lines ((offered lines texts ledger).map .accept) ledger).2 := by
  induction texts generalizing ledger with
  | nil => rfl
  | cons text rest later =>
    show (notes lines (rest.map .line) (receive lines text ledger)).2 = _
    rw [later, offered]
    cases met : (fate ledger.bridge text).command? with
    | none =>
      rw [receive_other met]
      rfl
    | some command =>
      rw [receive, met]
      rfl

/-- The ledgers of a session that goes on. -/
def ledgers (lines : ChannelId → Master (β × ω) ε) (looks : Nat → Look) (start : Ledger β ω) :
    Nat → Ledger β ω
  | 0 => start
  | count + 1 => (notes lines (looks count).inputs (ledgers lines looks start count)).2

theorem goes_ledgers (looks : Nat → Look) {start : Ledger β ω} (sound : start.Sound) :
    Bridge.Goes lines (fun count => (looks count).now)
      (fun count => offered lines (looks count).arrived (ledgers lines looks start count))
      (ledgers lines looks start) where
  sound := sound
  round count := by
    show (notes lines (looks count).inputs _).2 = _
    rw [Look.inputs, notes_append, notes_offered]
    rfl

/-- A session that has not ended after one more round had not ended before. -/
theorem watch_range (looks : Nat → Look) (start : Ledger β ω) (rounds : Nat)
    (going : (watch lines ((List.range (rounds + 1)).map looks) start).2.1 = none) :
    (watch lines ((List.range rounds).map looks) start).2.1 = none ∧
      (watch lines ((List.range (rounds + 1)).map looks) start).1 =
        (watch lines ((List.range rounds).map looks) start).1 ++ (notes lines (looks rounds).inputs
          (watch lines ((List.range rounds).map looks) start).2.2).1 ∧
      (watch lines ((List.range (rounds + 1)).map looks) start).2.2 =
        (notes lines (looks rounds).inputs
          (watch lines ((List.range rounds).map looks) start).2.2).2 := by
  rw [List.range_succ, List.map_append, List.map_singleton, watch_append] at going ⊢
  generalize watch lines ((List.range rounds).map looks) start = before at going ⊢
  by_cases ended : before.2.1 = none
  · rw [if_pos ended] at going ⊢
    cases stops : over? lines (looks rounds) before.2.2 with
    | some ending =>
      rw [watch_over stops] at going
      cases going
    | none =>
      rw [watch_going stops]
      exact ⟨ended, by rw [watch, List.append_nil], rfl⟩
  · rw [if_neg ended] at going
    exact absurd going ended

/-- A session that has not ended is at the ledger that its rounds lead to. -/
theorem watch_ledgers (looks : Nat → Look) (start : Ledger β ω) (rounds : Nat)
    (going : (watch lines ((List.range rounds).map looks) start).2.1 = none) :
    (watch lines ((List.range rounds).map looks) start).2.2 = ledgers lines looks start rounds := by
  induction rounds with
  | zero => rfl
  | succ rounds before =>
    obtain ⟨earlier, _, last⟩ := watch_range looks start rounds going
    rw [last, before earlier]
    rfl

/-- What a turn told is on record. -/
theorem mem_notes_turn (look : Look) (ledger : Ledger β ω) :
    ∃ late, Record.turn (step lines (.turn look.now)
        (notes lines (look.arrived.map .line) ledger).2).1.poll? late ∈
      (notes lines look.inputs ledger).1 := by
  rw [Look.inputs, notes_append]
  exact ⟨_, List.mem_append_right _ List.mem_cons_self⟩

theorem answersTo_ne_nil {records : List (Record β ω)} {poll : Poll β ω} {late : List Delivery}
    (member : .turn (some poll) late ∈ records) (told : poll.turn.deliveries ≠ []) :
    answersTo poll.number records ≠ [] := by
  intro none
  have nothing := List.flatMap_eq_nil_iff.mp none _ member
  rw [Record.answers, if_pos rfl] at nothing
  exact told nothing

/-- Rounds on a clock that goes on. -/
structure Endless (looks : Nat → Look) : Prop where
  monotone : ∀ count, (looks count).now ≤ (looks (count + 1)).now
  unbounded : ∀ time, ∃ count, time ≤ (looks count).now

/-- **On a clock that goes on, every command is answered**, unless a restart comes before. -/
theorem watch_answered {looks : Nat → Look} (endless : Endless looks) {earlier : List (Record β ω)}
    {start : Ledger β ω} (accounted : Accounted earlier start) {entry : Nat × Command}
    (member : entry ∈ accepted earlier) :
    ∃ rounds, (watch lines ((List.range rounds).map looks) start).2.1 = some .restart ∨
      ∃ outcome, answersTo entry.1
        (earlier ++ (watch lines ((List.range rounds).map looks) start).1) =
          [.ofOutcome entry.2 outcome] := by
  cases accounted.stands entry member with
  | answered gone one => exact ⟨0, .inr ⟨_, (congrArg _ (List.append_nil _)).trans one⟩⟩
  | waits waiting none =>
    have goes := @goes_ledgers _ _ _ lines looks start accounted.sound
    have first : (_, entry.1) ∈ (ledgers lines looks start 0).waiting := waiting
    obtain ⟨round, poll, found, number, outcome, told⟩ :=
      goes.answers endless.monotone endless.unbounded first
    refine ⟨round + 1, ?_⟩
    have after := @accounted_watch _ _ _ lines ((List.range (round + 1)).map looks) _ _ accounted
    have kept : entry ∈ accepted (earlier ++
        (watch lines ((List.range (round + 1)).map looks) start).1) := by
      rw [accepted_append]
      exact List.mem_append_left _ member
    cases ended : (watch lines ((List.range (round + 1)).map looks) start).2.1 with
    | some ending =>
      have seen :=
        @watch_seen _ _ _ lines ((List.range (round + 1)).map looks) start accounted.sound
      rw [ended] at seen
      cases seen with
      | restarted => exact .inl rfl
      | finished _ _ _ _ empty _ => exact .inr (after.answered empty kept)
    | none =>
      obtain ⟨going, records, _⟩ := watch_range looks start round ended
      rw [watch_ledgers looks start round going] at records
      obtain ⟨late, turned⟩ := @mem_notes_turn _ _ _ lines (looks round)
        (ledgers lines looks start round)
      have taken : (step lines (.turn (looks round).now) (notes lines
          ((looks round).arrived.map .line) (ledgers lines looks start round)).2).1.poll? =
            some poll := by
        rw [notes_offered]
        exact found
      rw [taken] at turned
      have recorded : Record.turn (some poll) late ∈ earlier ++
          (watch lines ((List.range (round + 1)).map looks) start).1 := by
        rw [records]
        exact List.mem_append_right _ (List.mem_append_right _ turned)
      have some := answersTo_ne_nil recorded (by rw [told]; exact List.cons_ne_nil _ _)
      rw [number] at some
      cases after.stands entry kept with
      | waits _ none => exact absurd none some
      | answered _ one => exact .inr ⟨_, one⟩

/-! ### The law -/

/-- What the lines that a program writes have to do with the lines that it reads, where
`watch lines looks start` tells the records, how the program ended, and the last ledger. -/
structure Answers (lines : ChannelId → Master (β × ω) ε) (looks : List Look) (start : Ledger β ω) :
    Prop where
  /-- The program writes what is on record, and ends when the record does. -/
  written : loop lines looks (start.bridge, start.world) =
    ((watch lines looks start).1.flatMap Record.written, (watch lines looks start).2.1)
  /-- The lines on record are those that arrived until the program ended; it ends by a restart, or
  when the input has ended and neither commands nor subscriptions are left. -/
  seen : Seen looks (watch lines looks start).1 (watch lines looks start).2.2
    (watch lines looks start).2.1
  /-- A line is blank, is answered at once by one line, or becomes one command. -/
  met : ∀ receipt ∈ receipts (watch lines looks start).1,
    take receipt.before receipt.line = (receipt.fate.written, receipt.fate.enter receipt.before)
  /-- Commands can be told apart. -/
  distinct : ((accepted (watch lines looks start).1).map Prod.fst).Nodup
  /-- A command waits and has no answer, or it has one answer and does not wait. -/
  stands : ∀ entry ∈ accepted (watch lines looks start).1,
    Stands (watch lines looks start).1 (watch lines looks start).2.2 entry.1 entry.2
  /-- When the program has ended by itself, every command has one answer. -/
  finished : (watch lines looks start).2.1 = some .finished →
    ∀ entry ∈ accepted (watch lines looks start).1,
      ∃ outcome, answersTo entry.1 (watch lines looks start).1 = [.ofOutcome entry.2 outcome]
  /-- Otherwise it gets one if the program goes on for long enough, unless a restart comes before. -/
  later : ∀ more, Endless more → ∀ entry ∈ accepted (watch lines looks start).1,
    ∃ rounds,
      (watch lines (looks ++ (List.range rounds).map more) start).2.1 = some .restart ∨
        ∃ outcome, answersTo entry.1 (watch lines (looks ++ (List.range rounds).map more) start).1 =
          [.ofOutcome entry.2 outcome]

/-- **Every request line is answered once.** -/
theorem loop_answers (lines : ChannelId → Master (β × ω) ε) {registry : Registry β} {capacity : Nat}
    {bridge : Bridge β} (made : Bridge.ofRegistry? registry capacity = some bridge) (world : ω)
    (looks : List Look) : Answers lines looks (.start bridge world) := by
  have sound := Ledger.start_sound made world
  have accounted : Accounted (watch lines looks (.start bridge world)).1
      (watch lines looks (.start bridge world)).2.2 :=
    accounted_watch looks (accounted_start sound)
  have seen := @watch_seen _ _ _ lines looks _ sound
  have finished (ended : (watch lines looks (.start bridge world)).2.1 = some .finished) :
      ∀ entry ∈ accepted (watch lines looks (.start bridge world)).1,
        ∃ outcome, answersTo entry.1 (watch lines looks (.start bridge world)).1 =
          [.ofOutcome entry.2 outcome] := by
    rw [ended] at seen
    cases seen with
    | finished _ _ _ _ empty _ => exact fun _ => accounted.answered empty
  refine ⟨loop_eq looks sound, seen, fun receipt _ => take_eq receipt.before receipt.line,
    accounted.distinct, accounted.stands, finished, fun more endless entry member => ?_⟩
  simp only [watch_append]
  cases ended : (watch lines looks (.start bridge world)).2.1 with
  | none => simpa using watch_answered endless accounted member
  | some ending =>
    cases ending with
    | restart => exact ⟨0, .inl (by simpa using ended)⟩
    | finished => exact ⟨0, .inr (by simpa using finished ended entry member)⟩

/-- A blank line, a line that is no request, and a scan of the simulated channels, which is the one
command. It has been answered when the session ends. -/
theorem loop_answers_scan :
    let bridge : Bridge Sim.Line := ⟨.ofChannels simulationChannels, ⟨[], 1⟩, .empty⟩
    let looks : List Look :=
      [⟨[" ", "scan"], false, 0⟩, ⟨["\x7b\"action\":\"scan\"\x7d"], true, 1⟩]
    let session := watch simulationLines looks (.start bridge ())
    Bridge.ofRegistry? (.ofChannels simulationChannels) 1 = some bridge ∧
      Answers simulationLines looks (.start bridge ()) ∧
      session.2.1 = some .finished ∧
      (accepted session.1).map Prod.fst = [0] ∧ (answersTo 0 session.1).length = 1 := by
  have made : Bridge.ofRegistry? (.ofChannels simulationChannels) 1 =
      some ⟨.ofChannels simulationChannels, ⟨[], 1⟩, .empty⟩ := rfl
  exact ⟨made, loop_answers simulationLines made () _, by decide +kernel⟩

end WireBridge.Session
