/-
**Runs of a bridge.**

Clients hand commands to a bridge and give it turns, in any order and at any times. A command that
gets into the queue has a number, by which it is told from other commands that ask for the same.

* `Bridge.Taking`: what a turn does with the command that it takes, one case for each way out;
* `Bridge.wake_eq`: the reads of subscriptions are queued as long as there is room;
* `Bridge.step`, `Bridge.run`: what comes of the things that clients do;
* `Bridge.Ledger.Sound`: the numbers are those of the queued commands and all different, and the
  queue has room for its commands. Every step keeps this (`Bridge.step_sound`).
-/

import WireBridge.Bridge.Turn
import WireBridge.Proofs.Schedule.Filing

namespace WireBridge

namespace Bridge

variable {β ω ε : Type}

/-- The bridge with other commands in its queue. -/
def queueing (bridge : Bridge β) (commands : List Command) : Bridge β :=
  { bridge with queue := { bridge.queue with items := commands } }

variable (lines : ChannelId → Master (β × ω) ε)

/-- What a turn does with the command that it takes, given the bridge without that command. -/
inductive Taking (now : Nat) (command : Command) (bridge : Bridge β) (world : ω) :
    Turn × Bridge β × ω → Prop
  | waits (early : command.timer.expired now = false) :
    Taking now command bridge world
      (⟨some command, some command, [], [], false⟩,
        bridge.queueing (bridge.queue.items ++ [command]), world)
  | restarts (due : command.timer.expired now = true) (verb : command.verb = .restart) :
    Taking now command bridge world
      (⟨some command, none, [],
          [.success command { verb := .restart, acknowledged := true }], true⟩, bridge, world)
  | scans {outcome : Except CommandError Response} {registry : Registry β} {reached : ω}
      (due : command.timer.expired now = true) (verb : command.verb = .scan)
      (ran : (discover lines command).perform (bridge.registry, world) =
        (outcome, (registry, reached))) :
    Taking now command bridge world
      (⟨some command, none, [], [.ofOutcome command outcome], false⟩,
        { bridge with registry := registry }, reached)
  | goesOn {next : Command} {registry : Registry β} {reached : ω}
      (due : command.timer.expired now = true) (verb : command.verb = .read)
      (ran : (Command.advance lines command now).perform (bridge.registry, world) =
        (.ok (.waiting next), (registry, reached))) :
    Taking now command bridge world
      (⟨some command, some next, [], [], false⟩,
        { bridge with registry := registry }.queueing (bridge.queue.items ++ [next]), reached)
  | reads {response : Response} {registry : Registry β} {reached : ω}
      (due : command.timer.expired now = true) (verb : command.verb = .read)
      (ran : (Command.advance lines command now).perform (bridge.registry, world) =
        (.ok (.answer response), (registry, reached))) :
    Taking now command bridge world
      (⟨some command, none, [], [.success command response], false⟩,
        { bridge with registry := registry }, reached)
  | fails {error : CommandError} {registry : Registry β} {reached : ω}
      (due : command.timer.expired now = true) (verb : command.verb = .read)
      (ran : (Command.advance lines command now).perform (bridge.registry, world) =
        (.error error, (registry, reached))) :
    Taking now command bridge world
      (⟨some command, none, [], [.failure command error], false⟩,
        { bridge with registry := registry }, reached)
  | subscribes {change : SubscriptionChange} (due : command.timer.expired now = true)
      (verb : command.verb = .subscribe)
      (changed : bridge.subscriptions.subscribe command now = change) :
    Taking now command bridge world
      (⟨some command, none, change.copies, [change.delivery], false⟩,
        { bridge with subscriptions := change.subscriptions }.queueing
          (bridge.queue.items ++ change.copies), world)
  | unsubscribes {change : SubscriptionChange} (due : command.timer.expired now = true)
      (verb : command.verb = .unsubscribe)
      (changed : bridge.subscriptions.unsubscribe command = change) :
    Taking now command bridge world
      (⟨some command, none, [], [change.delivery], false⟩,
        { bridge with subscriptions := change.subscriptions }, world)

theorem putBack_eq (bridge : Bridge β) (room : bridge.queue.items.length < bridge.queue.capacity)
    (command returned : Command) :
    bridge.putBack command returned =
      (⟨some command, some returned, [], [], false⟩,
        bridge.queueing (bridge.queue.items ++ [returned])) := by
  have one : bridge.queue.items.length + [returned].length ≤ bridge.queue.capacity := room
  unfold putBack
  rw [Queue.file_of_room one]
  rfl

theorem changed_eq {bridge : Bridge β} {command : Command} {change : SubscriptionChange}
    (room : bridge.queue.items.length + change.copies.length ≤ bridge.queue.capacity) :
    bridge.changed command change =
      (⟨some command, none, change.copies, [change.delivery], false⟩,
        { bridge with subscriptions := change.subscriptions }.queueing
          (bridge.queue.items ++ change.copies)) := by
  unfold changed
  rw [Queue.file_of_room room]
  rfl

/-- A command whose timer has expired is run. -/
theorem execute_taking {now : Nat} {command : Command} {bridge : Bridge β} {world : ω}
    (room : bridge.queue.items.length < bridge.queue.capacity)
    (due : command.timer.expired now = true) :
    Taking lines now command bridge world (execute lines bridge command now world) := by
  unfold execute
  cases verb : command.verb with
  | restart => exact .restarts due verb
  | scan =>
    cases ran : (discover lines command).perform (bridge.registry, world) with
    | mk outcome reached =>
      have taking := Taking.scans due verb ran
      simp only [work, ran]
      cases outcome with
      | ok response => exact taking
      | error error => exact taking
  | read =>
    cases ran : (Command.advance lines command now).perform (bridge.registry, world) with
    | mk outcome reached =>
      simp only [work, ran]
      cases outcome with
      | error error => exact .fails due verb ran
      | ok result =>
        cases result with
        | answer response => exact .reads due verb ran
        | waiting next =>
          have taking := Taking.goesOn due verb ran
          have put := putBack_eq { bridge with registry := reached.1 } room command next
          simp only [put]
          exact taking
  | subscribe =>
    have fits : bridge.queue.items.length +
        (bridge.subscriptions.subscribe command now).copies.length ≤ bridge.queue.capacity := by
      rcases (bridge.subscriptions.change_subscribe command now).copies with none | one
      · rw [none]
        exact Nat.le_of_lt room
      · rw [one]
        exact room
    simp only [changed_eq fits]
    exact .subscribes due verb rfl
  | unsubscribe =>
    have none := (bridge.subscriptions.change_unsubscribe command).2
    have fits : bridge.queue.items.length +
        (bridge.subscriptions.unsubscribe command).copies.length ≤ bridge.queue.capacity := by
      rw [none]
      exact Nat.le_of_lt room
    have taking : Taking lines now command bridge world _ := .unsubscribes due verb rfl
    simp only [changed_eq fits, none, List.append_nil]
    exact taking

/-- **What a turn does with the command that it takes.** -/
theorem runNext_taking (now : Nat) {bridge : Bridge β} (world : ω) {command : Command}
    {rest : List Command} (front : bridge.queue.items = command :: rest)
    (fits : bridge.queue.items.length ≤ bridge.queue.capacity) :
    Taking lines now command (bridge.queueing rest) world (runNext lines now (bridge, world)) := by
  have room : rest.length < bridge.queue.capacity := by
    rw [front] at fits
    exact fits
  have popped : bridge.queue.pop? = some (command, { bridge.queue with items := rest }) := by
    simp only [Queue.pop?, front]
  simp only [runNext, popped]
  by_cases due : command.timer.expired now = true
  · rw [if_pos due]
    exact execute_taking lines room due
  · have early : command.timer.expired now = false := Bool.eq_false_iff.mpr due
    rw [if_neg due]
    have put := putBack_eq (bridge.queueing rest) room command command
    show Taking lines now command (bridge.queueing rest) world
      (((bridge.queueing rest).putBack command command).1,
        ((bridge.queueing rest).putBack command command).2, world)
    rw [put]
    exact .waits early

section Taken

variable {lines} {now : Nat} {command : Command} {bridge reached : Bridge β} {world after : ω}
  {turn : Turn}

/-- What was put back and what is repeated goes to the end of the queue. -/
theorem Taking.items_eq (taking : Taking lines now command bridge world (turn, reached, after)) :
    reached.queue.items = bridge.queue.items ++ (turn.returned.toList ++ turn.copies) := by
  cases taking <;> simp [queueing]

theorem Taking.capacity_eq (taking : Taking lines now command bridge world (turn, reached, after)) :
    reached.queue.capacity = bridge.queue.capacity := by
  cases taking <;> rfl

/-- At most one command comes in the place of the one that was taken. -/
theorem Taking.length_le (taking : Taking lines now command bridge world (turn, reached, after)) :
    (turn.returned.toList ++ turn.copies).length ≤ 1 := by
  cases taking with
  | subscribes due verb changed =>
    subst changed
    rcases (bridge.subscriptions.change_subscribe command now).copies with none | one
    · simp [none]
    · simp [one]
  | _ => simp

theorem Taking.mem_copies (taking : Taking lines now command bridge world (turn, reached, after))
    {copy : Command} (member : copy ∈ turn.copies) : copy = command.plainRead := by
  cases taking with
  | subscribes due verb changed =>
    subst changed
    rcases (bridge.subscriptions.change_subscribe command now).copies with none | one
    · exact absurd (none ▸ member) List.not_mem_nil
    · exact List.mem_singleton.mp (one ▸ member)
  | _ => exact absurd member List.not_mem_nil

theorem Taking.mem_templates (taking : Taking lines now command bridge world (turn, reached, after))
    {template : Command} (member : template ∈ reached.subscriptions.templates) :
    template ∈ bridge.subscriptions.templates ∨ template = command.plainRead := by
  cases taking with
  | subscribes due verb changed =>
    subst changed
    exact (bridge.subscriptions.change_subscribe command now).templates template member
  | unsubscribes due verb changed =>
    subst changed
    exact (bridge.subscriptions.change_unsubscribe command).1.templates template member
  | _ => exact .inl member

end Taken

/-- A turn without a command to take. -/
theorem runNext_nil {now : Nat} {bridge : Bridge β} {world : ω} (none : bridge.queue.items = []) :
    runNext lines now (bridge, world) = (.idle, (bridge, world)) := by
  simp only [runNext, Queue.pop?, none]

/-- Of the reads that are due, those for which there is room are queued, and the others fail. -/
theorem wake_eq (now : Nat) (bridge : Bridge β) :
    bridge.wake now =
      let copies := bridge.subscriptions.due now
      let room := bridge.queue.capacity - bridge.queue.items.length
      (⟨none, none, copies,
          (copies.drop room).map fun command => .failure command .queueFull, false⟩,
        { bridge with subscriptions := bridge.subscriptions.advance now }.queueing
          (bridge.queue.items ++ copies.take room)) := by
  unfold wake Queue.file
  simp only [Filing.foldl_add, List.nil_append]
  rfl

/-! ### Runs -/

/-- What a client does. -/
inductive Event where
  | accept (command : Command)
  | turn (now : Nat)

/-- A bridge in its world, with a number for each command in the queue. -/
structure Ledger (β ω : Type) where
  /-- The bridge. -/
  bridge : Bridge β
  /-- What all channels share. -/
  world : ω
  /-- The commands in the queue with their numbers. -/
  waiting : List (Command × Nat)
  /-- The next number. -/
  issued : Nat

/-- A turn that took a command, with what the command found and left. -/
structure Poll (β ω : Type) where
  /-- The number of the command. -/
  number : Nat
  /-- The command. -/
  command : Command
  /-- When it was taken. -/
  now : Nat
  /-- What happened to it. -/
  turn : Turn
  /-- The registry and the world before. -/
  before : Registry β × ω
  /-- The registry and the world after. -/
  after : Registry β × ω

/-- What came of an event. -/
inductive Entry (β ω : Type) where
  | offered (command : Command) (outcome : Except CommandError Unit) (deliveries : List Delivery)
  | turned (turn : Turn) (poll : Option (Poll β ω))

/-- The poll of an entry. -/
def Entry.poll? : Entry β ω → Option (Poll β ω)
  | .offered .. => none
  | .turned _ poll => poll

/-- The answers that an entry tells. -/
def Entry.deliveries : Entry β ω → List Delivery
  | .offered _ _ deliveries => deliveries
  | .turned turn _ => turn.deliveries

/-- The polls of a run. -/
def polls (entries : List (Entry β ω)) : List (Poll β ω) := entries.filterMap Entry.poll?

namespace Ledger

/-- A bridge with an empty queue. -/
def start (bridge : Bridge β) (world : ω) : Ledger β ω := ⟨bridge, world, [], 0⟩

/-- The ledger after an event that left some of the commands in the queue, at its front. The others
get new numbers. -/
def settle (kept : List (Command × Nat)) (issued : Nat) (bridge : Bridge β) (world : ω) :
    Ledger β ω :=
  let fresh := (bridge.queue.items.drop kept.length).zipIdx issued
  ⟨bridge, world, kept ++ fresh, issued + fresh.length⟩

end Ledger

/-- The commands that a turn leaves in the queue. One that is put back keeps its number. -/
def left (turn : Turn) : List (Command × Nat) → List (Command × Nat)
  | [] => []
  | (_, number) :: rest => rest ++ (turn.returned.map fun next => (next, number)).toList

/-- One event. -/
def step (event : Event) (ledger : Ledger β ω) : Entry β ω × Ledger β ω :=
  match event with
  | .accept command =>
    let (outcome, deliveries, bridge) := ledger.bridge.accept command
    (.offered command outcome deliveries,
      .settle ledger.waiting ledger.issued bridge ledger.world)
  | .turn now =>
    let first := runNext lines now (ledger.bridge, ledger.world)
    let (whole, bridge, world) := turn lines now (ledger.bridge, ledger.world)
    let poll := ledger.waiting.head?.map fun (command, number) =>
      ⟨number, command, now, first.1, (ledger.bridge.registry, ledger.world),
        (first.2.1.registry, first.2.2)⟩
    (.turned whole poll, .settle (left first.1 ledger.waiting) ledger.issued bridge world)

/-- Events one after the other. -/
def run : List Event → Ledger β ω → List (Entry β ω) × Ledger β ω
  | [], ledger => ([], ledger)
  | event :: rest, ledger =>
    let (entry, reached) := step lines event ledger
    let (entries, last) := run rest reached
    (entry :: entries, last)

theorem run_cons (event : Event) (rest : List Event) (ledger : Ledger β ω) :
    run lines (event :: rest) ledger =
      ((step lines event ledger).1 :: (run lines rest (step lines event ledger).2).1,
        (run lines rest (step lines event ledger).2).2) := rfl

/-- Every entry of a run is that of an event after some earlier ones. -/
theorem run_split (events : List Event) {ledger : Ledger β ω} {before rest : List (Entry β ω)}
    {entry : Entry β ω} (place : (run lines events ledger).1 = before ++ entry :: rest) :
    ∃ earlier event later, before = (run lines earlier ledger).1 ∧
      entry = (step lines event (run lines earlier ledger).2).1 ∧
      events = earlier ++ event :: later := by
  induction events generalizing ledger before with
  | nil => exact absurd place (by simp [run])
  | cons event others ih =>
    rw [run_cons] at place
    cases before with
    | nil =>
      obtain ⟨rfl, _⟩ := List.cons.inj place
      exact ⟨[], event, others, rfl, rfl, rfl⟩
    | cons head tail =>
      obtain ⟨rfl, restPlace⟩ := List.cons.inj place
      obtain ⟨earlier, there, later, beforeEq, entryEq, rfl⟩ := ih restPlace
      exact ⟨event :: earlier, there, later, by rw [run_cons, beforeEq], entryEq, rfl⟩

/-! ### The numbers -/

/-- The commands in the queue are those that wait, with different numbers that have been issued, and
the queue has room for them. Only commands that have not been looked at are repeated. -/
structure Ledger.Sound (ledger : Ledger β ω) : Prop where
  queued : ledger.waiting.map Prod.fst = ledger.bridge.queue.items
  fits : ledger.bridge.queue.items.length ≤ ledger.bridge.queue.capacity
  distinct : (ledger.waiting.map Prod.snd).Nodup
  below : ∀ entry ∈ ledger.waiting, entry.2 < ledger.issued
  plain : ∀ template ∈ ledger.bridge.subscriptions.templates, template.phase = .initial

/-- A bridge that has just been made. -/
theorem Ledger.start_sound {registry : Registry β} {capacity : Nat} {bridge : Bridge β}
    (made : ofRegistry? registry capacity = some bridge) (world : ω) :
    (Ledger.start bridge world).Sound := by
  obtain ⟨queue, queueEq, rfl⟩ := Option.map_eq_some_iff.mp made
  unfold Queue.ofCapacity? at queueEq
  split at queueEq
  · obtain rfl := Option.some.inj queueEq
    exact ⟨rfl, Nat.zero_le _, .nil, fun _ member => absurd member List.not_mem_nil,
      fun _ member => absurd member List.not_mem_nil⟩
  · exact absurd queueEq (Option.some_ne_none _).symm

/-- Commands that stay in the queue keep their numbers, and new ones get new numbers. -/
theorem Ledger.settle_sound {kept : List (Command × Nat)} {issued : Nat} {bridge : Bridge β}
    {fresh : List Command} (items : bridge.queue.items = kept.map Prod.fst ++ fresh)
    (fits : bridge.queue.items.length ≤ bridge.queue.capacity)
    (distinct : (kept.map Prod.snd).Nodup) (below : ∀ entry ∈ kept, entry.2 < issued)
    (plain : ∀ template ∈ bridge.subscriptions.templates, template.phase = .initial) (world : ω) :
    (Ledger.settle kept issued bridge world).waiting = kept ++ fresh.zipIdx issued ∧
      (Ledger.settle kept issued bridge world).Sound := by
  have dropped : bridge.queue.items.drop kept.length = fresh := by
    rw [items]
    exact List.drop_left' (List.length_map _)
  refine ⟨by simp only [settle, dropped], ?_, fits, ?_, ?_, plain⟩
  · simp only [settle, dropped, List.map_append, List.zipIdx_map_fst]
    exact items.symm
  · simp only [settle, dropped, List.map_append, List.zipIdx_map_snd]
    refine List.nodup_append.mpr ⟨distinct, List.nodup_range', ?_⟩
    intro old oldMember new newMember
    obtain ⟨entry, member, rfl⟩ := List.mem_map.mp oldMember
    have under := below entry member
    have least := (List.mem_range'_1.mp newMember).1
    omega
  · intro entry member
    simp only [settle, dropped] at member ⊢
    rcases List.mem_append.mp member with old | new
    · exact Nat.lt_add_right _ (below entry old)
    · have under := List.snd_lt_add_of_mem_zipIdx new
      rw [List.length_zipIdx]
      omega

/-! ### Steps -/

/-- What becomes of a command that is handed to a bridge. -/
inductive Accepting (command : Command) (bridge : Bridge β) :
    Except CommandError Unit × List Delivery × Bridge β → Prop
  | invalid {error : CommandError} (check : command.check = .error error) :
    Accepting command bridge (.error error, [.failure command error], bridge)
  | full (check : command.check = .ok ())
      (full : bridge.queue.capacity ≤ bridge.queue.items.length) :
    Accepting command bridge (.error .queueFull, [], bridge)
  | queued (check : command.check = .ok ())
      (room : bridge.queue.items.length < bridge.queue.capacity) :
    Accepting command bridge (.ok (), [], bridge.queueing (bridge.queue.items ++ [command]))

theorem accept_accepting (bridge : Bridge β) (command : Command) :
    Accepting command bridge (bridge.accept command) := by
  unfold accept
  cases check : command.check with
  | error error => exact .invalid check
  | ok done =>
    by_cases room : bridge.queue.items.length < bridge.queue.capacity
    · simp only [Queue.push?, if_pos room]
      exact .queued check room
    · simp only [Queue.push?, if_neg room]
      exact .full check (Nat.le_of_not_lt room)

/-- A command that is handed to a bridge leaves the numbers of the others as they are. -/
theorem step_accept {ledger : Ledger β ω} (sound : ledger.Sound) (command : Command) :
    ∃ fresh, (fresh = [] ∨ fresh = [command]) ∧
      (step lines (.accept command) ledger).2.waiting =
        ledger.waiting ++ fresh.zipIdx ledger.issued ∧
      (step lines (.accept command) ledger).2.Sound := by
  have accepting := accept_accepting ledger.bridge command
  simp only [step]
  generalize ledger.bridge.accept command = result at accepting
  have same : ledger.bridge.queue.items = ledger.waiting.map Prod.fst ++ [] := by
    rw [List.append_nil, sound.queued]
  cases accepting with
  | invalid check =>
    exact ⟨[], .inl rfl, Ledger.settle_sound same sound.fits sound.distinct sound.below
      sound.plain ledger.world⟩
  | full check full =>
    exact ⟨[], .inl rfl, Ledger.settle_sound same sound.fits sound.distinct sound.below
      sound.plain ledger.world⟩
  | queued check room =>
    have items : (ledger.bridge.queueing (ledger.bridge.queue.items ++ [command])).queue.items =
        ledger.waiting.map Prod.fst ++ [command] := by
      rw [sound.queued]
      rfl
    have fits : (ledger.bridge.queue.items ++ [command]).length ≤ ledger.bridge.queue.capacity := by
      rw [List.length_append]
      exact room
    exact ⟨[command], .inr rfl, Ledger.settle_sound items fits sound.distinct sound.below
      sound.plain ledger.world⟩

/-- The numbers of the commands that a turn leaves in the queue. -/
theorem left_cons (turn : Turn) (command : Command) (number : Nat)
    (rest : List (Command × Nat)) :
    left turn ((command, number) :: rest) =
      rest ++ turn.returned.toList.map fun next => (next, number) := by
  cases returned : turn.returned <;> simp [left, returned]

theorem mem_left {turn : Turn} {command : Command} {number : Nat} {rest : List (Command × Nat)}
    {entry : Command × Nat} (member : entry ∈ left turn ((command, number) :: rest)) :
    entry ∈ rest ∨ entry.2 = number ∧ turn.returned = some entry.1 := by
  rw [left_cons] at member
  rcases List.mem_append.mp member with stays | back
  · exact .inl stays
  · obtain ⟨next, returned, rfl⟩ := List.mem_map.mp back
    exact .inr ⟨rfl, Option.mem_toList.mp returned⟩

/-- A command that is put back does not get the number of another one. -/
theorem left_distinct {turn : Turn} {command : Command} {number : Nat}
    {rest : List (Command × Nat)}
    (distinct : (((command, number) :: rest).map Prod.snd).Nodup) :
    ((left turn ((command, number) :: rest)).map Prod.snd).Nodup := by
  obtain ⟨fresh, restDistinct⟩ := List.nodup_cons.mp distinct
  rw [left_cons, List.map_append]
  cases returned : turn.returned with
  | none => simpa using restDistinct
  | some next =>
    refine List.nodup_append.mpr ⟨restDistinct, List.pairwise_singleton _ _, ?_⟩
    intro old oldMember new newMember same
    rw [List.mem_singleton.mp newMember] at same
    exact fresh (same ▸ oldMember)

/-- Queueing the reads that are due leaves the numbers of the others as they are. -/
theorem wake_settle (now : Nat) {kept : List (Command × Nat)} {issued : Nat} {bridge : Bridge β}
    {fresh : List Command} (items : bridge.queue.items = kept.map Prod.fst ++ fresh)
    (fits : bridge.queue.items.length ≤ bridge.queue.capacity)
    (distinct : (kept.map Prod.snd).Nodup) (below : ∀ entry ∈ kept, entry.2 < issued)
    (plain : ∀ template ∈ bridge.subscriptions.templates, template.phase = .initial)
    (initial : ∀ command ∈ fresh, command.phase = .initial) (world : ω) :
    ∃ new : List Command, (∀ command ∈ new, command.phase = .initial) ∧
      (Ledger.settle kept issued (bridge.wake now).2 world).waiting = kept ++ new.zipIdx issued ∧
      (Ledger.settle kept issued (bridge.wake now).2 world).Sound := by
  have woken := wake_eq now bridge
  generalize bridge.wake now = result at woken
  subst woken
  dsimp only
  generalize roomEq : bridge.queue.capacity - bridge.queue.items.length = room
  refine ⟨fresh ++ (bridge.subscriptions.due now).take room, fun command member => ?_,
    Ledger.settle_sound ?_ ?_ distinct below ?_ world⟩
  · rcases List.mem_append.mp member with old | new
    · exact initial command old
    · exact plain command (Subscriptions.mem_templates_of_mem_due (List.mem_of_mem_take new))
  · rw [← List.append_assoc, ← items]
    rfl
  · have few := List.length_take_le room (bridge.subscriptions.due now)
    show (bridge.queue.items ++ (bridge.subscriptions.due now).take room).length ≤ _
    rw [List.length_append]
    show _ ≤ bridge.queue.capacity
    omega
  · show ∀ template ∈ (bridge.subscriptions.advance now).templates, template.phase = .initial
    rw [Subscriptions.templates_advance]
    exact plain

/-- **A turn.** It takes the command that has waited longest, if there is one, and puts only
commands that have not been looked at behind those that were left. -/
theorem step_turn {ledger : Ledger β ω} (sound : ledger.Sound) (now : Nat) :
    (step lines (.turn now) ledger).2.Sound ∧
      ∃ kept, ∃ fresh : List Command, (∀ command ∈ fresh, command.phase = .initial) ∧
        (step lines (.turn now) ledger).2.waiting = kept ++ fresh.zipIdx ledger.issued ∧
        ((ledger.waiting = [] ∧ kept = [] ∧
            (step lines (.turn now) ledger).1 =
              .turned (Turn.idle.followedBy (ledger.bridge.wake now).1) none) ∨
          ∃ command number rest turn reached world,
            ledger.waiting = (command, number) :: rest ∧
            kept = left turn ((command, number) :: rest) ∧
            Taking lines now command (ledger.bridge.queueing (rest.map Prod.fst)) ledger.world
              (turn, reached, world) ∧
            (step lines (.turn now) ledger).1 =
              .turned (turn.followedBy (reached.wake now).1)
                (some ⟨number, command, now, turn, (ledger.bridge.registry, ledger.world),
                  (reached.registry, world)⟩)) := by
  cases front : ledger.waiting with
  | nil =>
    have none : ledger.bridge.queue.items = [] := by rw [← sound.queued, front, List.map_nil]
    have stays : runNext lines now (ledger.bridge, ledger.world) =
      (.idle, (ledger.bridge, ledger.world)) := runNext_nil lines none
    have items : ledger.bridge.queue.items = ([] : List (Command × Nat)).map Prod.fst ++ [] := none
    obtain ⟨fresh, initial, waiting, woken⟩ :=
      wake_settle now items sound.fits .nil (fun _ member => absurd member List.not_mem_nil)
        sound.plain (fun _ member => absurd member List.not_mem_nil) ledger.world
    simp only [step, turn, stays, front]
    exact ⟨woken, [], fresh, initial, waiting, .inl ⟨trivial, rfl, rfl⟩⟩
  | cons entry rest =>
    obtain ⟨command, number⟩ := entry
    have head : ledger.bridge.queue.items = command :: rest.map Prod.fst := by
      rw [← sound.queued, front, List.map_cons]
    have taking := runNext_taking lines now ledger.world head sound.fits
    generalize runEq : runNext lines now (ledger.bridge, ledger.world) = result at taking
    obtain ⟨turn, reached, world⟩ := result
    have items : reached.queue.items =
        (left turn ((command, number) :: rest)).map Prod.fst ++ turn.copies := by
      rw [taking.items_eq, left_cons, ← List.append_assoc]
      simp [queueing, Function.comp_def]
    have fits : reached.queue.items.length ≤ reached.queue.capacity := by
      have few := taking.length_le
      have before := sound.fits
      rw [head, List.length_cons] at before
      rw [taking.items_eq, taking.capacity_eq, List.length_append]
      show (rest.map Prod.fst).length + _ ≤ ledger.bridge.queue.capacity
      omega
    have below : ∀ entry ∈ left turn ((command, number) :: rest), entry.2 < ledger.issued := by
      intro entry member
      rcases mem_left member with stays | ⟨same, _⟩
      · exact sound.below entry (front ▸ List.mem_cons_of_mem _ stays)
      · rw [same]
        exact sound.below (command, number) (front ▸ List.mem_cons_self)
    have plain : ∀ template ∈ reached.subscriptions.templates, template.phase = .initial := by
      intro template member
      rcases taking.mem_templates member with old | new
      · exact sound.plain template old
      · rw [new]
        rfl
    have initial : ∀ copy ∈ turn.copies, copy.phase = .initial := by
      intro copy member
      rw [taking.mem_copies member]
      rfl
    obtain ⟨fresh, freshInitial, waiting, woken⟩ :=
      wake_settle now items fits (left_distinct (front ▸ sound.distinct)) below plain
        initial world
    have turned : Bridge.turn lines now (ledger.bridge, ledger.world) =
        (turn.followedBy (reached.wake now).1, (reached.wake now).2, world) := by
      simp only [Bridge.turn, runEq]
    simp only [step, turned, runEq, front, List.head?_cons, Option.map_some]
    exact ⟨woken, _, fresh, freshInitial, waiting,
      .inr ⟨command, number, rest, turn, reached, world, rfl, rfl, taking, rfl⟩⟩

/-- Numbers are not issued again. -/
theorem issued_le_step (event : Event) (ledger : Ledger β ω) :
    ledger.issued ≤ (step lines event ledger).2.issued := by
  cases event <;> exact Nat.le_add_right _ _

/-- **The numbers stay those of the queued commands.** -/
theorem step_sound {ledger : Ledger β ω} (sound : ledger.Sound) (event : Event) :
    (step lines event ledger).2.Sound := by
  cases event with
  | accept command =>
    obtain ⟨_, _, _, after⟩ := step_accept lines sound command
    exact after
  | turn now => exact (step_turn lines sound now).1

/-- A turn took a command with what it found, and left what it made of it. -/
def Poll.Took (poll : Poll β ω) : Prop :=
  ∃ bridge reached, (bridge.registry, poll.before.2) = poll.before ∧
    (reached.registry, poll.after.2) = poll.after ∧
    Taking lines poll.now poll.command bridge poll.before.2 (poll.turn, reached, poll.after.2)

/-- A turn wakes subscriptions, which does not touch the registry. -/
theorem registry_turn (now : Nat) (ledger : Ledger β ω) :
    (step lines (.turn now) ledger).2.bridge.registry =
      (runNext lines now (ledger.bridge, ledger.world)).2.1.registry := rfl

/-- The poll of an event begins with the registry before it and ends with the one after it. -/
theorem step_took {ledger : Ledger β ω} (sound : ledger.Sound) (event : Event) {poll : Poll β ω}
    (found : (step lines event ledger).1.poll? = some poll) :
    poll.Took lines ∧ poll.before.1 = ledger.bridge.registry ∧
      poll.after.1 = (step lines event ledger).2.bridge.registry := by
  cases event with
  | accept command => exact absurd found.symm (Option.some_ne_none poll)
  | turn now =>
    rw [registry_turn]
    change ledger.waiting.head?.map _ = some poll at found
    cases front : ledger.waiting with
    | nil =>
      rw [front] at found
      exact absurd found.symm (Option.some_ne_none poll)
    | cons entry rest =>
      rw [front] at found
      obtain ⟨command, number⟩ := entry
      obtain rfl := Option.some.inj found
      have head : ledger.bridge.queue.items = command :: rest.map Prod.fst := by
        rw [← sound.queued, front, List.map_cons]
      have taking := runNext_taking lines now ledger.world head sound.fits
      exact ⟨⟨ledger.bridge.queueing (rest.map Prod.fst), _, rfl, rfl, taking⟩, rfl, rfl⟩

/-- An event without a poll leaves the registry. -/
theorem step_idle {ledger : Ledger β ω} (sound : ledger.Sound) (event : Event)
    (idle : (step lines event ledger).1.poll? = none) :
    (step lines event ledger).2.bridge.registry = ledger.bridge.registry := by
  cases event with
  | accept command =>
    have accepting := accept_accepting ledger.bridge command
    show (ledger.bridge.accept command).2.2.registry = ledger.bridge.registry
    generalize ledger.bridge.accept command = result at accepting
    cases accepting <;> rfl
  | turn now =>
    rw [registry_turn]
    change ledger.waiting.head?.map _ = none at idle
    have empty : ledger.waiting = [] := List.head?_eq_none_iff.mp (Option.map_eq_none_iff.mp idle)
    have nothing : ledger.bridge.queue.items = [] := by rw [← sound.queued, empty, List.map_nil]
    rw [runNext_nil lines nothing]

/-- A result is told only in a turn that took a command, as what came of it. -/
theorem step_result {ledger : Ledger β ω} (sound : ledger.Sound) (event : Event) {sink : Sink}
    {response : Response}
    (delivered : .result sink response ∈ (step lines event ledger).1.deliveries) :
    ∃ poll, (step lines event ledger).1.poll? = some poll ∧
      .result sink response ∈ poll.turn.deliveries := by
  cases event with
  | accept command =>
    have accepting := accept_accepting ledger.bridge command
    simp only [step] at delivered
    generalize ledger.bridge.accept command = result at accepting delivered
    cases accepting with
    | invalid check => exact absurd (List.mem_singleton.mp delivered) Delivery.noConfusion
    | full check full => exact absurd delivered List.not_mem_nil
    | queued check room => exact absurd delivered List.not_mem_nil
  | turn now =>
    have notFull : ∀ {copies : List Command}, ¬ .result sink response ∈
        copies.map fun copy => Delivery.failure copy .queueFull := by
      intro copies member
      obtain ⟨copy, _, other⟩ := List.mem_map.mp member
      exact Delivery.noConfusion other
    obtain ⟨_, _, _, _, _, ⟨_, _, entryEq⟩ | taken⟩ := step_turn lines sound now
    · rw [entryEq, wake_eq] at delivered
      exact absurd delivered notFull
    · obtain ⟨command, number, rest, turn, reached, world, _, _, _, entryEq⟩ := taken
      rw [entryEq, wake_eq] at delivered
      rw [entryEq]
      rcases List.mem_append.mp delivered with first | second
      · exact ⟨_, rfl, first⟩
      · exact absurd second notFull

theorem run_sound (events : List Event) {ledger : Ledger β ω} (sound : ledger.Sound) :
    (run lines events ledger).2.Sound := by
  induction events generalizing ledger with
  | nil => exact sound
  | cons event rest ih =>
    rw [run_cons]
    exact ih (step_sound lines sound event)

end Bridge

end WireBridge
