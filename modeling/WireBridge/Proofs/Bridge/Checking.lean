/-
**Only checked commands circulate.**

A command is checked when it is handed to a bridge, and rewritten on its way: a read that waits gets
another phase and timer, and a subscription is stored as a plain read that is queued again and
again. The checks that follow later never refuse such a command.

* `Command.check_plainRead`: the read that a checked command repeats is checked;
* `Bridge.Checked`: the commands that wait and the reads that are repeated are checked;
* `Bridge.Taking.checked`, `Bridge.Checked.wake`: both halves of a turn keep this and refuse no
  command;
* `Bridge.run_checked`: so does every run, in which only commands that are handed over are refused.
-/

import WireBridge.Proofs.Bridge.Accounting
import WireBridge.Proofs.Bridge.Fairness

namespace WireBridge

/-! ### Answers -/

namespace Delivery

/-- An answer that does not tell a refusal. -/
def NoRefusal (delivery : Delivery) : Prop :=
  ∀ error : CommandError, error.Refusal → ¬ delivery.Tells error

theorem noRefusal_success (command : Command) (response : Response) :
    (success command response).NoRefusal :=
  fun _ _ => id

theorem noRefusal_failure {command : Command} {error : CommandError} (other : ¬ error.Refusal) :
    (failure command error).NoRefusal := by
  intro refusal refused tells
  have same : error = refusal := (tells_failure refused).mp tells
  exact other (same ▸ refused)

end Delivery

/-! ### Rewritten commands -/

namespace Command

variable {command : Command}

/-- **The read that a checked command repeats is checked.** -/
theorem check_plainRead (checked : command.check = .ok ()) (running : command.verb ≠ .restart)
    (measuring : command.verb ≠ .scan) : command.plainRead.check = .ok () := by
  obtain ⟨one, measured, _⟩ := check_eq_ok_iff.mp checked
  refine check_eq_ok_iff.mpr ⟨one, fun _ _ => measured running measuring, fun subscribes => ?_⟩
  exact Verb.noConfusion subscribes

/-- A checked command of a verb about subscriptions repeats a checked read. -/
theorem check_plainRead_of_verb (checked : command.check = .ok ())
    (about : command.verb = .subscribe ∨ command.verb = .unsubscribe) :
    command.plainRead.check = .ok () := by
  refine check_plainRead checked ?_ ?_
  · rcases about with verb | verb <;> rw [verb] <;> exact Verb.noConfusion
  · rcases about with verb | verb <;> rw [verb] <;> exact Verb.noConfusion

/-- The check does not look at the phase and the timer. -/
theorem check_progress (command : Command) (phase : ReadPhase) (timer : Timer) :
    { command with phase := phase, timer := timer }.check = command.check := rfl

end Command

namespace Subscriptions

variable {subscriptions : Subscriptions} {command : Command}

theorem noRefusal_stored (changed : Subscriptions) (template : Command) (fresh family : Bool) :
    (changed.stored command template fresh family).delivery.NoRefusal := by
  cases fresh with
  | true => exact Delivery.noRefusal_success _ _
  | false => exact Delivery.noRefusal_failure (nomatch ·)

theorem noRefusal_removed (changed : Subscriptions) (found family : Bool) :
    (changed.removed command found family).delivery.NoRefusal := by
  cases found with
  | true => exact Delivery.noRefusal_success _ _
  | false => exact Delivery.noRefusal_failure (nomatch ·)

/-- A checked subscription is not refused. -/
theorem noRefusal_subscribe (checked : command.check = .ok ()) (verb : command.verb = .subscribe)
    (now : Nat) : (subscriptions.subscribe command now).delivery.NoRefusal := by
  obtain ⟨named, period⟩ := Command.of_check checked
  obtain ⟨key, keyEq⟩ := named (.inl verb)
  obtain ⟨interval, intervalEq⟩ := period verb
  rw [subscribe_eq keyEq intervalEq]
  exact noRefusal_stored _ _ _ _

/-- Nor is its end. -/
theorem noRefusal_unsubscribe (checked : command.check = .ok ())
    (verb : command.verb = .unsubscribe) :
    (subscriptions.unsubscribe command).delivery.NoRefusal := by
  obtain ⟨key, keyEq⟩ := (Command.of_check checked).1 (.inr verb)
  rw [unsubscribe_eq keyEq]
  exact noRefusal_removed _ _ _

end Subscriptions

namespace Bridge

variable {β ω ε : Type} {lines : ChannelId → Master (β × ω) ε}

/-- The commands that wait and the reads that are repeated pass the check. -/
structure Checked (bridge : Bridge β) : Prop where
  queued : ∀ command ∈ bridge.queue.items, command.check = .ok ()
  repeated : ∀ template ∈ bridge.subscriptions.templates, template.check = .ok ()

/-! ### One turn -/

/-- A command that is taken leaves nothing but checked commands behind. -/
theorem Taking.checked {now : Nat} {command : Command} {bridge reached : Bridge β}
    {world after : ω} {turn : Turn}
    (taking : Taking lines now command bridge world (turn, reached, after))
    (checked : command.check = .ok ()) (before : bridge.Checked) : reached.Checked := by
  have repeats : (∀ copy ∈ turn.copies, copy.check = .ok ()) ∧
      ∀ template ∈ reached.subscriptions.templates, template.check = .ok () := by
    cases taking with
    | subscribes due verb changed =>
      have changes := changed ▸ bridge.subscriptions.change_subscribe command now
      have plain := Command.check_plainRead_of_verb checked (.inl verb)
      refine ⟨fun copy member => ?_, fun template member => ?_⟩
      · rcases changes.copies with none | one
        · exact absurd (none ▸ member) List.not_mem_nil
        · exact List.mem_singleton.mp (one ▸ member) ▸ plain
      · rcases changes.templates template member with old | new
        · exact before.repeated template old
        · exact new ▸ plain
    | unsubscribes due verb changed =>
      have changes := changed ▸ (bridge.subscriptions.change_unsubscribe command).1
      refine ⟨fun copy member => absurd member List.not_mem_nil, fun template member => ?_⟩
      rcases changes.templates template member with old | new
      · exact before.repeated template old
      · exact new ▸ Command.check_plainRead_of_verb checked (.inr verb)
    | _ => exact ⟨fun copy member => absurd member List.not_mem_nil, before.repeated⟩
  refine ⟨fun queued member => ?_, repeats.2⟩
  rw [taking.items_eq] at member
  rcases List.mem_append.mp member with old | fresh
  · exact before.queued queued old
  · rcases List.mem_append.mp fresh with back | copy
    · obtain ⟨_, ⟨phase, timer, returned, _⟩ | ⟨returned, _⟩⟩ := taking.answers
      · rw [returned] at back
        obtain rfl := List.mem_singleton.mp back
        rw [Command.check_progress, checked]
      · rw [returned] at back
        exact absurd back List.not_mem_nil
    · exact repeats.1 queued copy

/-- A checked command that is taken is not refused. -/
theorem Taking.noRefusal {now : Nat} {command : Command} {bridge reached : Bridge β}
    {world after : ω} {turn : Turn}
    (taking : Taking lines now command bridge world (turn, reached, after))
    (checked : command.check = .ok ()) : ∀ delivery ∈ turn.deliveries, delivery.NoRefusal := by
  intro delivery member
  cases taking with
  | waits early => exact absurd member List.not_mem_nil
  | goesOn due verb ran => exact absurd member List.not_mem_nil
  | restarts due verb =>
    obtain rfl := List.mem_singleton.mp member
    exact Delivery.noRefusal_success _ _
  | reads due verb ran =>
    obtain rfl := List.mem_singleton.mp member
    exact Delivery.noRefusal_success _ _
  | @scans outcome registry reached due verb ran =>
    obtain rfl := List.mem_singleton.mp member
    cases outcome with
    | ok response => exact Delivery.noRefusal_success _ _
    | error error =>
      have work := causes_discover command (bridge.registry, world) trivial error _ ran
      exact Delivery.noRefusal_failure work.not_refusal
  | @fails error registry reached due verb ran =>
    obtain rfl := List.mem_singleton.mp member
    -- the read names a key, so that its own checks of the parameters are not reached
    obtain ⟨key, keyEq⟩ := Command.key_of_check checked (verb ▸ Verb.noConfusion)
      (verb ▸ Verb.noConfusion)
    rcases Command.causes_advance command now (bridge.registry, world) trivial error _ ran with
      work | ⟨_, unnamed⟩
    · exact Delivery.noRefusal_failure work.not_refusal
    · exact absurd (keyEq.symm.trans unnamed) (Option.some_ne_none key)
  | subscribes due verb changed =>
    obtain rfl := List.mem_singleton.mp member
    exact changed ▸ Subscriptions.noRefusal_subscribe checked verb now
  | unsubscribes due verb changed =>
    obtain rfl := List.mem_singleton.mp member
    exact changed ▸ Subscriptions.noRefusal_unsubscribe checked verb

/-- Waking subscriptions queues checked reads and refuses nothing. -/
theorem Checked.wake {bridge : Bridge β} (checked : bridge.Checked) (now : Nat) :
    (bridge.wake now).2.Checked ∧
      ∀ delivery ∈ (bridge.wake now).1.deliveries, delivery.NoRefusal := by
  refine ⟨?_, fun delivery member => ?_⟩
  · rw [wake_eq]
    refine ⟨fun command member => ?_, fun template member => ?_⟩
    · rcases List.mem_append.mp member with old | copy
      · exact checked.queued command old
      · exact checked.repeated command
          (Subscriptions.mem_templates_of_mem_due (List.mem_of_mem_take copy))
    · change template ∈ (bridge.subscriptions.advance now).templates at member
      rw [Subscriptions.templates_advance] at member
      exact checked.repeated template member
  · obtain ⟨copy, _, rfl⟩ := mem_deliveries_wake member
    exact Delivery.noRefusal_failure (nomatch ·)

variable (lines)

/-- **A turn keeps the commands checked and refuses none.** -/
theorem Checked.turn {bridge : Bridge β} (checked : bridge.Checked)
    (fits : bridge.queue.items.length ≤ bridge.queue.capacity) (now : Nat) (world : ω) :
    (turn lines now (bridge, world)).2.1.Checked ∧
      ∀ delivery ∈ (turn lines now (bridge, world)).1.deliveries, delivery.NoRefusal := by
  have first : (runNext lines now (bridge, world)).2.1.Checked ∧
      ∀ delivery ∈ (runNext lines now (bridge, world)).1.deliveries, delivery.NoRefusal := by
    cases front : bridge.queue.items with
    | nil =>
      rw [runNext_nil lines front]
      exact ⟨checked, fun delivery member => absurd member List.not_mem_nil⟩
    | cons command rest =>
      have taking := runNext_taking lines now world front fits
      have taken : command.check = .ok () := checked.queued command (front ▸ List.mem_cons_self)
      have left : (bridge.queueing rest).Checked :=
        ⟨fun other member => checked.queued other (front ▸ List.mem_cons_of_mem _ member),
          checked.repeated⟩
      exact ⟨taking.checked taken left, taking.noRefusal taken⟩
  have second := first.1.wake now
  refine ⟨second.1, fun delivery member => ?_⟩
  rcases List.mem_append.mp member with run | woken
  · exact first.2 delivery run
  · exact second.2 delivery woken

/-! ### Runs -/

/-- A refusal comes of handing over the command that is refused, and nothing else comes of it. -/
def RefusesOffers (event : Event) (ledger : Ledger β ω) : Prop :=
  ∀ delivery ∈ (step lines event ledger).1.deliveries, ∀ error : CommandError, error.Refusal →
    delivery.Tells error → ∃ command, event = .accept command ∧ command.check = .error error ∧
      (step lines event ledger).1 =
        .offered command (.error error) [.failure command error] ∧
      (step lines event ledger).2.bridge = ledger.bridge

/-- **An event keeps the commands checked, and refuses only one that is handed over.** -/
theorem step_checked {ledger : Ledger β ω} (sound : ledger.Sound)
    (checked : ledger.bridge.Checked) (event : Event) :
    (step lines event ledger).2.bridge.Checked ∧ RefusesOffers lines event ledger := by
  cases event with
  | turn now =>
    have kept := checked.turn lines sound.fits now ledger.world
    exact ⟨kept.1, fun delivery member error refused tells =>
      absurd tells (kept.2 delivery member error refused)⟩
  | accept command =>
    have accepting := accept_accepting ledger.bridge command
    simp only [step, RefusesOffers]
    generalize ledger.bridge.accept command = result at accepting
    cases accepting with
    | @invalid cause check =>
      refine ⟨checked, fun delivery member error refused tells => ⟨command, rfl, ?_⟩⟩
      obtain rfl := List.mem_singleton.mp member
      obtain rfl := (Delivery.tells_failure refused).mp tells
      exact ⟨check, rfl, rfl⟩
    | full check full =>
      exact ⟨checked, fun delivery member => absurd member List.not_mem_nil⟩
    | queued check room =>
      refine ⟨⟨fun other member => ?_, checked.repeated⟩,
        fun delivery member => absurd member List.not_mem_nil⟩
      rcases List.mem_append.mp member with old | new
      · exact checked.queued other old
      · exact List.mem_singleton.mp new ▸ check

/-- **Only checked commands circulate.** At any point of any run, the commands in the queue and the
reads that are repeated pass the check, and the next event refuses no command but one that is handed
over, which leaves the bridge as it is. -/
theorem run_checked {registry : Registry β} {capacity : Nat} {bridge : Bridge β}
    (made : ofRegistry? registry capacity = some bridge) (world : ω) (events : List Event) :
    let ledger := (run lines events (.start bridge world)).2
    ledger.bridge.Checked ∧ ∀ event, RefusesOffers lines event ledger := by
  have kept (events : List Event) {ledger : Ledger β ω} (sound : ledger.Sound)
      (checked : ledger.bridge.Checked) : (run lines events ledger).2.bridge.Checked := by
    induction events generalizing ledger with
    | nil => exact checked
    | cons event rest ih =>
      rw [run_cons]
      exact ih (step_sound lines sound event) (step_checked lines sound checked event).1
  have start := Ledger.start_sound made world
  have empty : bridge.Checked := by
    obtain ⟨queue, _, rfl⟩ := Option.map_eq_some_iff.mp made
    have none : queue.items = [] := start.queued.symm
    exact ⟨fun command member => absurd (none ▸ member) List.not_mem_nil,
      fun template member => absurd member List.not_mem_nil⟩
  have reached := kept events start empty
  exact ⟨reached, fun event => (step_checked lines (run_sound lines events start) reached event).2⟩

/-- A subscription is stored as a read that passes the check, and a read without a quantity is
refused without a trace in the queue. -/
theorem run_checked_subscription :
    let bridge : Bridge Sim.Line := ⟨.ofChannels [⟨1, .empty, []⟩], ⟨[], 2⟩, .empty⟩
    let lines : ChannelId → Master (Sim.Line × Unit) Empty := fun _ => Sim.master.beside
    let subscription : Command :=
      { verb := .subscribe, device := some ⟨0x28⟩, quantity := some .temperature
        interval := some 1000, results := 1, errors := 2 }
    let read : Command := { verb := .read, device := some ⟨0x28⟩, results := 3, errors := 4 }
    let ledger := (run lines [.accept subscription, .turn 0] (.start bridge ())).2
    ofRegistry? (Registry.ofChannels [⟨1, .empty, []⟩]) 2 = some bridge ∧
      ledger.bridge.subscriptions.templates = [subscription.plainRead] ∧
      ledger.bridge.Checked ∧
      Delivery.failure read .missingQuantity ∈ (step lines (.accept read) ledger).1.deliveries ∧
      (step lines (.accept read) ledger).2.bridge = ledger.bridge := by
  intro bridge lines subscription read ledger
  have made : ofRegistry? (Registry.ofChannels [⟨1, .empty, []⟩]) 2 = some bridge := rfl
  have stored : ledger.bridge.subscriptions.templates = [subscription.plainRead] := by decide
  obtain ⟨checked, refuses⟩ := run_checked lines made () [.accept subscription, .turn 0]
  have told : Delivery.failure read .missingQuantity ∈
      (step lines (.accept read) ledger).1.deliveries := List.mem_singleton_self _
  obtain ⟨_, _, _, _, same⟩ := refuses (.accept read) _ told _ .quantity rfl
  exact ⟨made, stored, checked, told, same⟩

end Bridge

end WireBridge
