/-
**Sessions on record.**

The program writes lines of text only. A record tells besides which line of input was met with which
answer, and which command a turn answered, by the numbers of the commands. What is recorded is the
session: the lines that the program writes are those of the records.

* `Session.Record`: a line that was taken, or a turn;
* `Session.note`, `Session.notes`: what comes of lines and turns, with the records;
* `Session.watch`: a session to its end, with the records;
* `Session.loop_eq`: **the program writes what is on record and ends when the record does.**
-/

import WireBridge.Proofs.Host.Receiving

namespace WireBridge.Session

open Bridge (Ledger Poll accept_accepting runNext_nil step)

variable {β ω ε : Type}

/-- A line that was taken. -/
structure Receipt (β : Type) where
  /-- The line. -/
  line : String
  /-- The bridge that it found. -/
  before : Bridge β
  /-- The number that its command has if it is accepted. -/
  number : Nat

/-- What came of the line. -/
def Receipt.fate (receipt : Receipt β) : Fate := Session.fate receipt.before receipt.line

/-- What happened in a session, piece by piece. -/
inductive Record (β ω : Type) where
  /-- A line was taken. -/
  | line (receipt : Receipt β)
  /-- A turn took a command, if there was one, and woke subscriptions. -/
  | turn (poll : Option (Poll β ω)) (late : List Delivery)

namespace Record

/-- The lines that are written. -/
def written : Record β ω → List String
  | .line receipt => receipt.fate.written
  | .turn poll late =>
    (poll.toList.flatMap fun poll => poll.turn.deliveries.map Delivery.line) ++
      late.map Delivery.line

/-- A restart was acknowledged. -/
def restart : Record β ω → Bool
  | .line _ => false
  | .turn poll _ => poll.any fun poll => poll.turn.restart

end Record

/-- What a bridge meets in a session. -/
inductive Input where
  | line (text : String)
  | turn (now : Nat)

/-- The inputs of a round. -/
def Look.inputs (look : Look) : List Input := look.arrived.map .line ++ [.turn look.now]

variable (lines : ChannelId → Master (β × ω) ε)

/-- What woken subscriptions tell after a turn, unless the session ended in it. -/
def late (now : Nat) (ledger : Ledger β ω) : List Delivery :=
  let first := Bridge.runNext lines now (ledger.bridge, ledger.world)
  if first.1.restart then [] else (first.2.1.wake now).1.deliveries

/-- The ledger after a line. -/
def receive (text : String) (ledger : Ledger β ω) : Ledger β ω :=
  match (fate ledger.bridge text).command? with
  | some command => (step lines (.accept command) ledger).2
  | none => ledger

/-- One input. -/
def note (input : Input) (ledger : Ledger β ω) : Record β ω × Ledger β ω :=
  match input with
  | .line text => (.line ⟨text, ledger.bridge, ledger.issued⟩, receive lines text ledger)
  | .turn now =>
    (.turn (step lines (.turn now) ledger).1.poll? (late lines now ledger),
      (step lines (.turn now) ledger).2)

/-- Inputs one after the other. -/
def notes : List Input → Ledger β ω → List (Record β ω) × Ledger β ω
  | [], ledger => ([], ledger)
  | input :: rest, ledger =>
    let (record, reached) := note lines input ledger
    let (records, last) := notes rest reached
    (record :: records, last)

/-- Whether the program ends after a round. -/
def over? (look : Look) (ledger : Ledger β ω) : Option Ending :=
  let noted := notes lines look.inputs ledger
  ending? look.closed (noted.1.any Record.restart) noted.2.bridge

/-- Rounds until the program ends. -/
def watch : List Look → Ledger β ω → List (Record β ω) × Option Ending × Ledger β ω
  | [], ledger => ([], none, ledger)
  | look :: rest, ledger =>
    let noted := notes lines look.inputs ledger
    match over? lines look ledger with
    | some ending => (noted.1, some ending, noted.2)
    | none =>
      let later := watch rest noted.2
      (noted.1 ++ later.1, later.2)

/-! ### What is written -/

section

variable {lines}

theorem notes_cons (input : Input) (rest : List Input) (ledger : Ledger β ω) :
    notes lines (input :: rest) ledger =
      ((note lines input ledger).1 :: (notes lines rest (note lines input ledger).2).1,
        (notes lines rest (note lines input ledger).2).2) := rfl

theorem note_line (text : String) (ledger : Ledger β ω) :
    note lines (.line text) ledger =
      (.line ⟨text, ledger.bridge, ledger.issued⟩, receive lines text ledger) := rfl

theorem note_turn (now : Nat) (ledger : Ledger β ω) :
    note lines (.turn now) ledger =
      (.turn (step lines (.turn now) ledger).1.poll? (late lines now ledger),
        (step lines (.turn now) ledger).2) := rfl

theorem watch_over {look : Look} {rest : List Look} {ledger : Ledger β ω} {ending : Ending}
    (stops : over? lines look ledger = some ending) :
    watch lines (look :: rest) ledger =
      ((notes lines look.inputs ledger).1, some ending, (notes lines look.inputs ledger).2) := by
  rw [watch]
  simp only [stops]

theorem watch_going {look : Look} {rest : List Look} {ledger : Ledger β ω}
    (going : over? lines look ledger = none) :
    watch lines (look :: rest) ledger =
      ((notes lines look.inputs ledger).1 ++
          (watch lines rest (notes lines look.inputs ledger).2).1,
        (watch lines rest (notes lines look.inputs ledger).2).2) := by
  rw [watch]
  simp only [going]

theorem notes_append (first second : List Input) (ledger : Ledger β ω) :
    notes lines (first ++ second) ledger =
      ((notes lines first ledger).1 ++ (notes lines second (notes lines first ledger).2).1,
        (notes lines second (notes lines first ledger).2).2) := by
  induction first generalizing ledger with
  | nil => rfl
  | cons input rest inner =>
    rw [List.cons_append, notes_cons, inner, notes_cons]
    rfl

/-- A session that has not ended goes on, and one that has ended stays as it is. -/
theorem watch_append (first second : List Look) (ledger : Ledger β ω) :
    watch lines (first ++ second) ledger =
      if (watch lines first ledger).2.1 = none then
        ((watch lines first ledger).1 ++ (watch lines second (watch lines first ledger).2.2).1,
          (watch lines second (watch lines first ledger).2.2).2)
      else watch lines first ledger := by
  induction first generalizing ledger with
  | nil => rfl
  | cons look rest inner =>
    cases stops : over? lines look ledger with
    | some ending =>
      rw [List.cons_append, watch_over stops, watch_over stops]
      rfl
    | none =>
      rw [List.cons_append, watch_going stops, watch_going stops, inner]
      split
      · rw [List.append_assoc]
      · rfl

theorem receive_eq (text : String) (ledger : Ledger β ω) :
    (receive lines text ledger).bridge = (fate ledger.bridge text).enter ledger.bridge ∧
      (receive lines text ledger).world = ledger.world := by
  unfold receive
  cases met : fate ledger.bridge text with
  | blank => exact ⟨rfl, rfl⟩
  | refused answer => exact ⟨rfl, rfl⟩
  | accepted command =>
    obtain ⟨parsed, room⟩ := of_accepted met
    have check := (Command.parse_expressible parsed).1.check
    have accepting := accept_accepting ledger.bridge command
    show (ledger.bridge.accept command).2.2 = _ ∧ ledger.world = ledger.world
    generalize ledger.bridge.accept command = result at accepting ⊢
    cases accepting with
    | invalid wrong => exact absurd (check.symm.trans wrong) (by simp)
    | full _ full => exact absurd room (Nat.not_lt.mpr full)
    | queued _ _ => exact ⟨rfl, rfl⟩

theorem receive_sound (text : String) {ledger : Ledger β ω} (sound : ledger.Sound) :
    (receive lines text ledger).Sound := by
  unfold receive
  split
  · exact Bridge.step_sound lines sound _
  · exact sound

theorem note_sound (input : Input) {ledger : Ledger β ω} (sound : ledger.Sound) :
    (note lines input ledger).2.Sound := by
  cases input with
  | line text =>
    simp only [note_line]
    exact receive_sound text sound
  | turn now => exact Bridge.step_sound lines sound (.turn now)

theorem notes_sound (inputs : List Input) {ledger : Ledger β ω} (sound : ledger.Sound) :
    (notes lines inputs ledger).2.Sound := by
  induction inputs generalizing ledger with
  | nil => exact sound
  | cons input rest later => exact later (note_sound input sound)

/-- The lines that have arrived are taken as recorded. -/
theorem takeAll_eq (texts : List String) (ledger : Ledger β ω) :
    takeAll ledger.bridge texts =
        ((notes lines (texts.map .line) ledger).1.flatMap Record.written,
          (notes lines (texts.map .line) ledger).2.bridge) ∧
      (notes lines (texts.map .line) ledger).2.world = ledger.world ∧
      (notes lines (texts.map .line) ledger).1.any Record.restart = false := by
  induction texts generalizing ledger with
  | nil => exact ⟨rfl, rfl, rfl⟩
  | cons text rest later =>
    obtain ⟨bridge, world⟩ := @receive_eq _ _ _ lines text ledger
    obtain ⟨taken, untouched, goesOn⟩ := later (receive lines text ledger)
    simp only [List.map_cons, notes_cons, note_line]
    refine ⟨?_, untouched.trans world, goesOn⟩
    rw [bridge] at taken
    simp only [takeAll, take_eq, taken, List.flatMap_cons]
    rfl

/-- The poll of a turn tells what the turn did first, and without a poll it did nothing. -/
theorem poll_eq (now : Nat) {ledger : Ledger β ω} (sound : ledger.Sound) :
    (∃ poll, (step lines (.turn now) ledger).1.poll? = some poll ∧
        poll.turn = (Bridge.runNext lines now (ledger.bridge, ledger.world)).1) ∨
      ((step lines (.turn now) ledger).1.poll? = none ∧
        (Bridge.runNext lines now (ledger.bridge, ledger.world)).1 = .idle) := by
  cases front : ledger.waiting with
  | nil =>
    have empty : ledger.bridge.queue.items = [] := by rw [← sound.queued, front, List.map_nil]
    refine .inr ⟨?_, by rw [runNext_nil lines empty]⟩
    show ledger.waiting.head?.map _ = none
    rw [front]
    rfl
  | cons entry rest =>
    refine .inl ?_
    show ∃ poll, ledger.waiting.head?.map _ = some poll ∧ _
    rw [front]
    exact ⟨_, rfl, rfl⟩

/-- A turn goes as recorded. -/
theorem turn_eq (now : Nat) {ledger : Ledger β ω} (sound : ledger.Sound) :
    (note lines (.turn now) ledger).1.restart =
        (Bridge.runNext lines now (ledger.bridge, ledger.world)).1.restart ∧
      (note lines (.turn now) ledger).1.written =
        (Bridge.runNext lines now (ledger.bridge, ledger.world)).1.deliveries.map Delivery.line ++
          (late lines now ledger).map Delivery.line := by
  rw [note_turn]
  rcases @poll_eq _ _ _ lines now ledger sound with ⟨poll, found, turn⟩ | ⟨none, idle⟩
  · rw [found, ← turn]
    simp [Record.restart, Record.written]
  · rw [none, idle]
    exact ⟨rfl, rfl⟩

/-- A round writes what is recorded of it, and goes on from there. -/
theorem round_eq (look : Look) {ledger : Ledger β ω} (sound : ledger.Sound) :
    let output := round lines look.arrived look.now (ledger.bridge, ledger.world)
    let noted := notes lines look.inputs ledger
    output.1.written = noted.1.flatMap Record.written ∧
      output.1.restart = noted.1.any Record.restart ∧
      (output.1.restart = false → output.2 = (noted.2.bridge, noted.2.world)) := by
  obtain ⟨taken, untouched, quiet⟩ := @takeAll_eq _ _ _ lines look.arrived ledger
  have accepted := @notes_sound _ _ _ lines (look.arrived.map .line) ledger sound
  rw [Look.inputs, notes_append, notes_cons, notes]
  generalize notes lines (look.arrived.map .line) ledger = received
    at taken untouched quiet accepted ⊢
  obtain ⟨records, reached⟩ := received
  simp only at taken untouched quiet accepted ⊢
  obtain ⟨restart, written⟩ := @turn_eq _ _ _ lines look.now reached accepted
  simp only [List.flatMap_append, List.any_append, quiet, List.flatMap_singleton, written,
    List.any_cons, List.any_nil, Bool.or_false, Bool.false_or, restart]
  simp only [round, taken, ← untouched, late]
  have turned (now : Nat) : (note lines (.turn now) reached).2.bridge =
      ((Bridge.runNext lines now (reached.bridge, reached.world)).2.1.wake now).2 := rfl
  have moved (now : Nat) : (note lines (.turn now) reached).2.world =
      (Bridge.runNext lines now (reached.bridge, reached.world)).2.2 := rfl
  rw [turned, moved]
  generalize Bridge.runNext lines look.now (reached.bridge, reached.world) = first
  obtain ⟨turn, ran, world⟩ := first
  cases turn.restart <;> simp

/-- **The program writes what is on record and ends when the record does.** -/
theorem loop_eq (looks : List Look) {ledger : Ledger β ω} (sound : ledger.Sound) :
    loop lines looks (ledger.bridge, ledger.world) =
      ((watch lines looks ledger).1.flatMap Record.written, (watch lines looks ledger).2.1) := by
  induction looks generalizing ledger with
  | nil => rfl
  | cons look rest later =>
    have reached := @notes_sound _ _ _ lines look.inputs ledger sound
    obtain ⟨written, restart, goesOn⟩ := @round_eq _ _ _ lines look ledger sound
    have stops : ending? look.closed
        (round lines look.arrived look.now (ledger.bridge, ledger.world)).1.restart
        (round lines look.arrived look.now (ledger.bridge, ledger.world)).2.1 =
          over? lines look ledger := by
      rw [over?, ← restart]
      cases again : (round lines look.arrived look.now (ledger.bridge, ledger.world)).1.restart with
      | true => rfl
      | false => rw [goesOn again]
    rw [loop]
    simp only [stops, written]
    cases ended : over? lines look ledger with
    | some ending => rw [watch_over ended]
    | none =>
      have quiet : (round lines look.arrived look.now (ledger.bridge, ledger.world)).1.restart =
          false := by
        refine Bool.eq_false_iff.mpr fun again => ?_
        rw [ended, again] at stops
        cases stops
      rw [watch_going ended, goesOn quiet]
      simp only [later reached, List.flatMap_append]

end

end WireBridge.Session
