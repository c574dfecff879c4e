/-
**Subscriptions follow the commands.**

* `Command.Changes`: a command that is run at some time and is about the subscription under a key;
* `Bridge.lastOn`: the last poll of a run with such a command;
* `Bridge.Taking.content?`: what a command makes of the table of subscriptions;
* `Bridge.SubscriptionAnswered`: how a command about a subscription is answered, and what its turn
  queues;
* `Bridge.run_subscriptions`: in every run, what is stored under a key is what the last command
  about it asked for, and only reads that are stored are queued.
-/

import WireBridge.Proofs.Bridge.Accounting
import WireBridge.Proofs.Bridge.Fairness
import WireBridge.Proofs.Schedule.Table
import WireBridge.Sim.Line

namespace WireBridge

variable {β ω ε : Type} {lines : ChannelId → Master (β × ω) ε}

/-! ### What is asked for -/

namespace Command

variable {command : Command} {key : SubscriptionKey} {now : Nat}

/-- The command is due and stores or removes the subscription under a key. -/
def Changes (key : SubscriptionKey) (now : Nat) (command : Command) : Prop :=
  command.timer.expired now = true ∧ command.key? = some key ∧
    (command.verb = .subscribe ∨ command.verb = .unsubscribe)

instance (key : SubscriptionKey) (now : Nat) (command : Command) :
    Decidable (command.Changes key now) :=
  inferInstanceAs (Decidable (_ ∧ _ ∧ _))

/-- The period and the read that a subscription asks for. -/
def asks (command : Command) : Option (Nat × Command) :=
  match command.verb with
  | .subscribe => command.interval.map (·, command.plainRead)
  | _ => none

theorem asks_eq_some {command : Command} {period : Nat} {read : Command}
    (asks : command.asks = some (period, read)) :
    command.verb = .subscribe ∧ command.interval = some period ∧ read = command.plainRead := by
  unfold Command.asks at asks
  split at asks
  · next subscribes =>
    obtain ⟨interval, given, same⟩ := Option.map_eq_some_iff.mp asks
    obtain ⟨rfl, rfl⟩ := Prod.mk.inj same
    exact ⟨subscribes, given, rfl⟩
  · exact absurd asks (Option.some_ne_none _).symm

/-- A command about a subscription names its key, and a new one has a period that is not zero. -/
structure Complete (command : Command) : Prop where
  keyed : command.verb = .subscribe ∨ command.verb = .unsubscribe →
    ∃ key, command.key? = some key
  period : command.verb = .subscribe →
    ∃ interval, command.interval = some interval ∧ 0 < interval

theorem complete_of_check (checked : command.check = .ok ())
    (positive : command.verb = .subscribe → ∀ interval, command.interval = some interval →
      0 < interval) : command.Complete := by
  obtain ⟨keyed, period⟩ := of_check checked
  refine ⟨keyed, fun subscribes => ?_⟩
  obtain ⟨interval, given⟩ := period subscribes
  exact ⟨interval, given, positive subscribes interval given⟩

theorem complete_of_read (reads : command.verb = .read) : command.Complete := by
  constructor
  · intro about
    rw [reads] at about
    rcases about with subscribes | unsubscribes
    · exact absurd subscribes Verb.noConfusion
    · exact absurd unsubscribes Verb.noConfusion
  · intro subscribes
    exact absurd (reads.symm.trans subscribes) Verb.noConfusion

end Command

/-- What a subscription repeats: its period and its read. -/
def Subscription.content (entry : Subscription) : Nat × Command :=
  (entry.timer.delay, entry.template)

theorem Subscription.content_advance (entry : Subscription) (now : Nat) :
    (entry.advance now).content = entry.content := by
  unfold advance
  split <;> rfl

namespace Subscriptions

/-- What is repeated under a key. -/
def content? (subscriptions : Subscriptions) (key : SubscriptionKey) : Option (Nat × Command) :=
  (subscriptions.find? key).map Subscription.content

/-- Waking subscriptions does not change what they repeat. -/
theorem content?_advance (subscriptions : Subscriptions) (now : Nat) (key : SubscriptionKey) :
    (subscriptions.advance now).content? key = subscriptions.content? key := by
  unfold content?
  rw [find?_advance, Option.map_map]
  refine Option.map_congr fun entry _ => ?_
  exact entry.content_advance now

/-- Reads are stored under the keys that they name. -/
def Keyed (subscriptions : Subscriptions) : Prop :=
  ∀ key entry, subscriptions.find? key = some entry →
    entry.template.key? = some key ∧ entry.template.verb = .read

theorem Keyed.advance {subscriptions : Subscriptions} (keyed : subscriptions.Keyed) (now : Nat) :
    (subscriptions.advance now).Keyed := by
  intro key entry found
  rw [find?_advance] at found
  obtain ⟨before, stored, rfl⟩ := Option.map_eq_some_iff.mp found
  have same : (before.advance now).template = before.template :=
    congrArg Prod.snd (before.content_advance now)
  rw [same]
  exact keyed key before stored

theorem Keyed.insert {subscriptions : Subscriptions} (keyed : subscriptions.Keyed)
    {command : Command} {key : SubscriptionKey} (named : command.key? = some key)
    (timer : Timer) : (subscriptions.insert ⟨timer, command.plainRead⟩ key).Keyed := by
  intro other entry found
  rw [find?_insert] at found
  split at found
  · next same =>
    obtain rfl := Option.some.inj found
    exact ⟨same ▸ named, rfl⟩
  · exact keyed other entry found

theorem Keyed.erase {subscriptions : Subscriptions} (keyed : subscriptions.Keyed)
    (key : SubscriptionKey) : (subscriptions.erase key).Keyed := by
  intro other entry found
  rw [find?_erase] at found
  split at found
  · exact absurd found (Option.some_ne_none _).symm
  · exact keyed other entry found

end Subscriptions

namespace Bridge

/-! ### One command -/

/-- What a turn makes of the table of subscriptions, what it queues at once and what it answers,
given the command that it took: one case for each way out. -/
inductive Tabling (now : Nat) (command : Command) (before : Subscriptions) :
    Subscriptions → List Command → List Delivery → Prop
  | other {deliveries : List Delivery} (idle : ∀ key, ¬ command.Changes key now) :
    Tabling now command before before [] deliveries
  | fresh {key : SubscriptionKey} {interval : Nat} (changes : command.Changes key now)
      (verb : command.verb = .subscribe) (period : command.interval = some interval)
      (positive : 0 < interval) (absent : before.find? key = none) :
    Tabling now command before (before.insert ⟨⟨interval, now⟩, command.plainRead⟩ key)
      [command.plainRead]
      [.success command (Subscriptions.acknowledgement .subscribe command)]
  | replaced {key : SubscriptionKey} {interval : Nat} (changes : command.Changes key now)
      (verb : command.verb = .subscribe) (period : command.interval = some interval)
      (positive : 0 < interval) (known : before.find? key ≠ none) :
    Tabling now command before (before.insert ⟨⟨interval, now⟩, command.plainRead⟩ key) []
      [.failure command (.alreadySubscribed key.isRight)]
  | ended {key : SubscriptionKey} (changes : command.Changes key now)
      (verb : command.verb = .unsubscribe) (known : before.find? key ≠ none) :
    Tabling now command before (before.erase key) []
      [.success command (Subscriptions.acknowledgement .unsubscribe command)]
  | missing {key : SubscriptionKey} (changes : command.Changes key now)
      (verb : command.verb = .unsubscribe) (absent : before.find? key = none) :
    Tabling now command before before [] [.failure command (.notSubscribed key.isRight)]

/-- **What a turn makes of the table**, given that the command has what it needs. -/
theorem Taking.tabling {now : Nat} {command : Command} {bridge reached : Bridge β} {world after : ω}
    {turn : Turn} (taking : Taking lines now command bridge world (turn, reached, after))
    (complete : command.Complete) :
    Tabling now command bridge.subscriptions reached.subscriptions turn.copies turn.deliveries := by
  have notAbout {verb : Verb} (is : command.verb = verb) (notStored : verb ≠ .subscribe)
      (notRemoved : verb ≠ .unsubscribe) (key : SubscriptionKey) : ¬ command.Changes key now := by
    rintro ⟨_, _, stores | removes⟩
    · exact notStored (is.symm.trans stores)
    · exact notRemoved (is.symm.trans removes)
  cases taking with
  | waits early =>
    exact .other fun key changes => absurd (early.symm.trans changes.1) Bool.noConfusion
  | restarts due verb => exact .other (notAbout verb Verb.noConfusion Verb.noConfusion)
  | scans due verb ran => exact .other (notAbout verb Verb.noConfusion Verb.noConfusion)
  | goesOn due verb ran => exact .other (notAbout verb Verb.noConfusion Verb.noConfusion)
  | reads due verb ran => exact .other (notAbout verb Verb.noConfusion Verb.noConfusion)
  | fails due verb ran => exact .other (notAbout verb Verb.noConfusion Verb.noConfusion)
  | subscribes due verb changed =>
    obtain ⟨key, named⟩ := complete.keyed (.inl verb)
    obtain ⟨interval, period, positive⟩ := complete.period verb
    rw [Subscriptions.subscribe_eq named period] at changed
    subst changed
    cases known : bridge.subscriptions.find? key with
    | none => exact .fresh ⟨due, named, .inl verb⟩ verb period positive known
    | some entry =>
      exact .replaced ⟨due, named, .inl verb⟩ verb period positive (by simp [known])
  | unsubscribes due verb changed =>
    obtain ⟨key, named⟩ := complete.keyed (.inr verb)
    rw [Subscriptions.unsubscribe_eq named] at changed
    subst changed
    cases known : bridge.subscriptions.find? key with
    | none =>
      rw [Subscriptions.erase_of_none known]
      exact .missing ⟨due, named, .inr verb⟩ verb known
    | some entry => exact .ended ⟨due, named, .inr verb⟩ verb (by simp [known])

namespace Tabling

variable {now : Nat} {command : Command} {before after : Subscriptions} {copies : List Command}
  {deliveries : List Delivery} {key : SubscriptionKey}

/-- **The last write wins.** -/
theorem content? (tabling : Tabling now command before after copies deliveries)
    (key : SubscriptionKey) :
    after.content? key = if command.Changes key now then command.asks else before.content? key := by
  have only {first : SubscriptionKey} (changes : command.Changes first now) :
      command.Changes key now ↔ first = key :=
    ⟨fun also => Option.some.inj (changes.2.1.symm.trans also.2.1), fun same => same ▸ changes⟩
  cases tabling with
  | other idle => rw [if_neg (idle key)]
  | @fresh first interval changes verb period positive absent =>
    simp only [Subscriptions.content?, Subscriptions.find?_insert, only changes]
    split
    · simp [Command.asks, verb, period, Subscription.content]
    · rfl
  | @replaced first interval changes verb period positive known =>
    simp only [Subscriptions.content?, Subscriptions.find?_insert, only changes]
    split
    · simp [Command.asks, verb, period, Subscription.content]
    · rfl
  | @ended first changes verb known =>
    simp only [Subscriptions.content?, Subscriptions.find?_erase, only changes]
    split
    · simp [Command.asks, verb]
    · rfl
  | @missing first changes verb absent =>
    simp only [Subscriptions.content?, only changes]
    split
    · next same => simp [← same, absent, Command.asks, verb]
    · rfl

/-- Reads are stored under the keys that they name. -/
theorem keyed (tabling : Tabling now command before after copies deliveries)
    (keyed : before.Keyed) : after.Keyed := by
  cases tabling with
  | other idle => exact keyed
  | fresh changes verb period positive absent => exact keyed.insert changes.2.1 _
  | replaced changes verb period positive known => exact keyed.insert changes.2.1 _
  | missing changes verb absent => exact keyed
  | ended changes verb known => exact keyed.erase _

/-- What is queued at once is stored. -/
theorem stored (tabling : Tabling now command before after copies deliveries) {copy : Command}
    (member : copy ∈ copies) :
    ∃ key entry, after.find? key = some entry ∧ copy = entry.template := by
  cases tabling with
  | @fresh key interval changes verb period positive absent =>
    obtain rfl := List.mem_singleton.mp member
    refine ⟨key, ⟨⟨interval, now⟩, command.plainRead⟩, ?_, rfl⟩
    rw [Subscriptions.find?_insert, if_pos rfl]
  | _ => exact absurd member List.not_mem_nil

/-- A subscription that was stored or removed is not due at once. -/
theorem not_due (tabling : Tabling now command before after copies deliveries)
    (keyed : before.Keyed) (changes : command.Changes key now) :
    ∀ copy ∈ after.due now, copy.key? ≠ some key := by
  intro copy due named
  obtain ⟨other, entry, found, expired, rfl⟩ := Subscriptions.mem_due.mp due
  have stored := (tabling.keyed keyed other entry found).1
  obtain rfl : other = key := Option.some.inj (stored.symm.trans named)
  have only {first : SubscriptionKey} (also : command.Changes first now) : first = other :=
    Option.some.inj (also.2.1.symm.trans changes.2.1)
  have notExpired {interval : Nat} (positive : 0 < interval) :
      Timer.expired ⟨interval, now⟩ now = false := by
    simp only [Timer.expired, Nat.sub_self, decide_eq_false_iff_not]
    omega
  cases tabling with
  | other idle => exact idle other changes
  | fresh also verb period positive absent =>
    rw [Subscriptions.find?_insert, if_pos (only also)] at found
    obtain rfl := Option.some.inj found
    exact absurd ((notExpired positive).symm.trans expired) Bool.noConfusion
  | replaced also verb period positive known =>
    rw [Subscriptions.find?_insert, if_pos (only also)] at found
    obtain rfl := Option.some.inj found
    exact absurd ((notExpired positive).symm.trans expired) Bool.noConfusion
  | ended also verb known =>
    rw [Subscriptions.find?_erase, if_pos (only also)] at found
    exact absurd found (Option.some_ne_none _).symm
  | missing also verb absent =>
    obtain rfl := only also
    exact absurd (absent.symm.trans found) (Option.some_ne_none _).symm

end Tabling

/-- How a command about the subscription under a key is answered, and what its turn queues at once
and then as periodic reads. A new subscription is acknowledged and its read is queued once; one that
replaces another gets a warning and queues nothing. The end of a subscription is acknowledged if
there is one, and otherwise it is an error that leaves the table as it is. -/
structure SubscriptionAnswered (key : SubscriptionKey) (command : Command)
    (before after : Subscriptions) (deliveries : List Delivery) (atOnce periodic : List Command) :
    Prop where
  fresh : command.verb = .subscribe → before.find? key = none →
    deliveries = [.success command (Subscriptions.acknowledgement .subscribe command)] ∧
      atOnce = [command.plainRead]
  replaced : command.verb = .subscribe → before.find? key ≠ none →
    deliveries = [.failure command (.alreadySubscribed key.isRight)] ∧ atOnce = []
  ended : command.verb = .unsubscribe → before.find? key ≠ none →
    deliveries = [.success command (Subscriptions.acknowledgement .unsubscribe command)] ∧
      atOnce = []
  missing : command.verb = .unsubscribe → before.find? key = none →
    deliveries = [.failure command (.notSubscribed key.isRight)] ∧ atOnce = [] ∧ after = before
  notDue : ∀ copy ∈ periodic, copy.key? ≠ some key

/-- **A command about a subscription** is answered by what is stored under its key. -/
theorem Tabling.answered {now : Nat} {command : Command} {before after : Subscriptions}
    {copies : List Command} {deliveries : List Delivery} {key : SubscriptionKey}
    (tabling : Tabling now command before after copies deliveries) (keyed : before.Keyed)
    (changes : command.Changes key now) :
    SubscriptionAnswered key command before after deliveries copies (after.due now) := by
  have notDue := tabling.not_due keyed changes
  have only {first : SubscriptionKey} (also : command.Changes first now) : first = key :=
    Option.some.inj (also.2.1.symm.trans changes.2.1)
  have not_both {one : Prop} (stores : command.verb = .subscribe)
      (removes : command.verb = .unsubscribe) : one :=
    absurd (stores.symm.trans removes) Verb.noConfusion
  cases tabling with
  | other idle => exact absurd changes (idle key)
  | fresh also verb period positive absent =>
    obtain rfl := only also
    exact ⟨fun _ _ => ⟨rfl, rfl⟩, fun _ known => absurd absent known,
      fun removes _ => not_both verb removes, fun removes _ => not_both verb removes, notDue⟩
  | replaced also verb period positive known =>
    obtain rfl := only also
    exact ⟨fun _ absent => absurd absent known, fun _ _ => ⟨rfl, rfl⟩,
      fun removes _ => not_both verb removes, fun removes _ => not_both verb removes, notDue⟩
  | ended also verb known =>
    obtain rfl := only also
    exact ⟨fun stores _ => not_both stores verb, fun stores _ => not_both stores verb,
      fun _ _ => ⟨rfl, rfl⟩, fun _ absent => absurd absent known, notDue⟩
  | missing also verb absent =>
    obtain rfl := only also
    exact ⟨fun stores _ => not_both stores verb, fun stores _ => not_both stores verb,
      fun _ known => absurd absent known, fun _ _ => ⟨rfl, rfl, rfl⟩, notDue⟩

/-! ### One turn -/

/-- The commands in the queue have what they need, and reads are stored under their keys. -/
structure Ledger.Tabled (ledger : Ledger β ω) : Prop where
  complete : ∀ command ∈ ledger.bridge.queue.items, command.Complete
  keyed : ledger.bridge.subscriptions.Keyed

/-- The bridge between the two halves of a turn. -/
def halfway (lines : ChannelId → Master (β × ω) ε) (now : Nat) (ledger : Ledger β ω) : Bridge β :=
  (runNext lines now (ledger.bridge, ledger.world)).2.1

variable (lines)

section Turn

variable {ledger : Ledger β ω} (sound : ledger.Sound) (tabled : ledger.Tabled) (now : Nat)

include sound tabled

/-- The first half of a turn changes the table as its command says, or not at all. -/
theorem halfway_tabling :
    ((step lines (.turn now) ledger).1.poll? = none ∧
      runNext lines now (ledger.bridge, ledger.world) = (.idle, ledger.bridge, ledger.world)) ∨
    ∃ poll, (step lines (.turn now) ledger).1.poll? = some poll ∧ poll.now = now ∧
      poll.turn = (runNext lines now (ledger.bridge, ledger.world)).1 ∧
      Tabling now poll.command ledger.bridge.subscriptions (halfway lines now ledger).subscriptions
        poll.turn.copies poll.turn.deliveries := by
  have pollEq : (step lines (.turn now) ledger).1.poll? = ledger.waiting.head?.map _ := rfl
  rw [pollEq]
  cases front : ledger.waiting with
  | nil =>
    have nothing : ledger.bridge.queue.items = [] := by rw [← sound.queued, front, List.map_nil]
    exact .inl ⟨rfl, runNext_nil lines nothing⟩
  | cons entry rest =>
    have head : ledger.bridge.queue.items = entry.1 :: rest.map Prod.fst := by
      rw [← sound.queued, front, List.map_cons]
    have complete := tabled.complete entry.1 (head ▸ List.mem_cons_self)
    have taking := runNext_taking lines now ledger.world head sound.fits
    exact .inr ⟨_, rfl, rfl, rfl, taking.tabling complete⟩

theorem halfway_keyed : (halfway lines now ledger).subscriptions.Keyed := by
  rcases halfway_tabling lines sound tabled now with ⟨_, idle⟩ | ⟨poll, _, _, _, tabling⟩
  · rw [halfway, idle]
    exact tabled.keyed
  · exact tabling.keyed tabled.keyed

theorem halfway_complete :
    ∀ command ∈ (halfway lines now ledger).queue.items, command.Complete := by
  intro other member
  unfold halfway at member
  cases front : ledger.bridge.queue.items with
  | nil =>
    rw [runNext_nil lines front] at member
    exact tabled.complete other member
  | cons command rest =>
    have complete := tabled.complete command (front ▸ List.mem_cons_self)
    have taking := runNext_taking lines now ledger.world front sound.fits
    generalize runNext lines now (ledger.bridge, ledger.world) = result at taking member
    obtain ⟨turn, reached, after⟩ := result
    rw [show reached.queue.items = _ from taking.items_eq] at member
    rcases List.mem_append.mp member with waiting | new
    · exact tabled.complete other (front ▸ List.mem_cons_of_mem _ waiting)
    · rcases List.mem_append.mp new with back | copied
      · obtain ⟨_, ⟨phase, timer, returned, _⟩ | ⟨returned, _⟩⟩ := taking.answers
        · rw [returned] at back
          obtain rfl := List.mem_singleton.mp back
          exact ⟨complete.keyed, complete.period⟩
        · rw [returned] at back
          exact absurd back List.not_mem_nil
      · rw [taking.mem_copies copied]
        exact Command.complete_of_read rfl

/-- Everything that a turn repeats is stored. -/
theorem stored_of_repeated {copy : Command}
    (member : copy ∈ (turn lines now (ledger.bridge, ledger.world)).1.copies) :
    ∃ key entry, (halfway lines now ledger).subscriptions.find? key = some entry ∧
      copy = entry.template := by
  have halves : (turn lines now (ledger.bridge, ledger.world)).1.copies =
      (runNext lines now (ledger.bridge, ledger.world)).1.copies ++
        (halfway lines now ledger).subscriptions.due now := rfl
  rw [halves] at member
  rcases List.mem_append.mp member with first | second
  · rcases halfway_tabling lines sound tabled now with
      ⟨_, idle⟩ | ⟨poll, _, _, same, tabling⟩
    · rw [idle] at first
      exact absurd first List.not_mem_nil
    · rw [← same] at first
      exact tabling.stored first
  · obtain ⟨key, entry, found, _, rfl⟩ := Subscriptions.mem_due.mp second
    exact ⟨key, entry, found, rfl⟩

end Turn

/-! ### Events -/

/-- The last poll with a command about the subscription under a key. -/
def lastOn (key : SubscriptionKey) (polls : List (Poll β ω)) : Option (Poll β ω) :=
  polls.reverse.find? fun poll => poll.command.Changes key poll.now

theorem lastOn_append (key : SubscriptionKey) (first second : List (Poll β ω)) :
    lastOn key (first ++ second) = (lastOn key second).or (lastOn key first) := by
  simp only [lastOn, List.reverse_append, List.find?_append]

theorem polls_append (first second : List (Entry β ω)) :
    polls (first ++ second) = polls first ++ polls second :=
  List.filterMap_append

/-- What a command asks for, or else what was stored before. -/
theorem step_content? {ledger : Ledger β ω} (sound : ledger.Sound) (tabled : ledger.Tabled)
    (event : Event) (key : SubscriptionKey) :
    (step lines event ledger).2.bridge.subscriptions.content? key =
      (lastOn key (polls [(step lines event ledger).1])).elim
        (ledger.bridge.subscriptions.content? key) fun poll => poll.command.asks := by
  cases event with
  | accept command =>
    have accepting := accept_accepting ledger.bridge command
    show (ledger.bridge.accept command).2.2.subscriptions.content? key = _
    generalize ledger.bridge.accept command = result at accepting
    cases accepting <;> rfl
  | turn now =>
    have woken : (step lines (.turn now) ledger).2.bridge.subscriptions =
        (halfway lines now ledger).subscriptions.advance now := by
      show ((halfway lines now ledger).wake now).2.subscriptions = _
      rw [wake_eq]
      rfl
    rw [woken, Subscriptions.content?_advance]
    rcases halfway_tabling lines sound tabled now with
      ⟨none, idle⟩ | ⟨poll, found, rfl, same, tabling⟩
    · simp only [polls, List.filterMap_cons, none, halfway, idle]
      rfl
    · simp only [polls, List.filterMap_cons, found, List.filterMap_nil, lastOn,
        List.reverse_singleton, List.find?_singleton]
      rw [tabling.content? key]
      by_cases changes : poll.command.Changes key poll.now
      · simp [changes]
      · simp [changes]

/-- Subscriptions that are handed over have periods that are not zero. -/
def Event.Positive : Event → Prop
  | .accept command => command.verb = .subscribe →
      ∀ interval, command.interval = some interval → 0 < interval
  | .turn _ => True

theorem step_tabled {ledger : Ledger β ω} (sound : ledger.Sound) (tabled : ledger.Tabled)
    {event : Event} (positive : event.Positive) : (step lines event ledger).2.Tabled := by
  cases event with
  | accept command =>
    have accepting := accept_accepting ledger.bridge command
    constructor
    · show ∀ other ∈ (ledger.bridge.accept command).2.2.queue.items, other.Complete
      generalize ledger.bridge.accept command = result at accepting
      intro other member
      cases accepting with
      | invalid check => exact tabled.complete other member
      | full check full => exact tabled.complete other member
      | queued check room =>
        rcases List.mem_append.mp member with before | new
        · exact tabled.complete other before
        · obtain rfl := List.mem_singleton.mp new
          exact Command.complete_of_check check positive
    · show (ledger.bridge.accept command).2.2.subscriptions.Keyed
      generalize ledger.bridge.accept command = result at accepting
      cases accepting <;> exact tabled.keyed
  | turn now =>
    have woken : (step lines (.turn now) ledger).2.bridge =
        ((halfway lines now ledger).wake now).2 := rfl
    have keyed := halfway_keyed lines sound tabled now
    rw [wake_eq] at woken
    constructor
    · intro other member
      rw [woken] at member
      rcases List.mem_append.mp member with before | periodic
      · exact halfway_complete lines sound tabled now other before
      · obtain ⟨key, entry, found, _, rfl⟩ :=
          Subscriptions.mem_due.mp (List.mem_of_mem_take periodic)
        exact Command.complete_of_read (keyed key entry found).2
    · rw [woken]
      exact keyed.advance now

/-! ### Runs -/

theorem run_tabled (events : List Event) (positive : ∀ event ∈ events, event.Positive)
    {ledger : Ledger β ω} (sound : ledger.Sound) (tabled : ledger.Tabled) :
    (run lines events ledger).2.Tabled := by
  induction events generalizing ledger with
  | nil => exact tabled
  | cons event rest ih =>
    rw [run_cons]
    have next := step_tabled lines sound tabled (positive event List.mem_cons_self)
    exact ih (fun other member => positive other (List.mem_cons_of_mem _ member))
      (step_sound lines sound event) next

theorem run_content? (events : List Event) (positive : ∀ event ∈ events, event.Positive)
    {ledger : Ledger β ω} (sound : ledger.Sound) (tabled : ledger.Tabled) (key : SubscriptionKey) :
    (run lines events ledger).2.bridge.subscriptions.content? key =
      (lastOn key (polls (run lines events ledger).1)).elim
        (ledger.bridge.subscriptions.content? key) fun poll => poll.command.asks := by
  induction events generalizing ledger with
  | nil => rfl
  | cons event rest ih =>
    have first := step_content? lines sound tabled event key
    have later := ih (fun other member => positive other (List.mem_cons_of_mem _ member))
      (step_sound lines sound event)
      (step_tabled lines sound tabled (positive event List.mem_cons_self))
    have split : polls (run lines (event :: rest) ledger).1 =
        polls [(step lines event ledger).1] ++
          polls (run lines rest (step lines event ledger).2).1 := by
      rw [← polls_append]
      rfl
    rw [split, lastOn_append]
    show (run lines rest (step lines event ledger).2).2.bridge.subscriptions.content? key = _
    rw [later, first]
    cases lastOn key (polls (run lines rest (step lines event ledger).2).1) <;> rfl

/-- The table of subscriptions follows the commands that were run: what is stored under a key is
what the last command about it asked for; a turn repeats only reads that the last command under
their key asked for; and commands about subscriptions, which all name a key, are answered by what is
stored under it. -/
structure Ledger.Repeats (lines : ChannelId → Master (β × ω) ε) (entries : List (Entry β ω))
    (ledger : Ledger β ω) : Prop where
  complete : ∀ command ∈ ledger.bridge.queue.items, command.Complete
  stored : ∀ key, ledger.bridge.subscriptions.content? key =
    (lastOn key (polls entries)).bind fun poll => poll.command.asks
  repeated : ∀ now, ∀ copy ∈ (turn lines now (ledger.bridge, ledger.world)).1.copies,
    ∃ key poll, copy.key? = some key ∧
      lastOn key (polls (entries ++ [(step lines (.turn now) ledger).1])) = some poll ∧
      poll.command.verb = .subscribe ∧ copy = poll.command.plainRead
  answered : ∀ now poll key, (step lines (.turn now) ledger).1.poll? = some poll →
    poll.command.Changes key now →
      ∃ periodic, (turn lines now (ledger.bridge, ledger.world)).1.copies =
          poll.turn.copies ++ periodic ∧
        (∀ copy ∈ poll.turn.copies, copy ∈ (step lines (.turn now) ledger).2.bridge.queue.items) ∧
        SubscriptionAnswered key poll.command ledger.bridge.subscriptions
          (halfway lines now ledger).subscriptions poll.turn.deliveries poll.turn.copies periodic

/-- What a turn queues at once is in the queue afterwards. -/
theorem mem_items_of_atOnce {ledger : Ledger β ω} (sound : ledger.Sound) (now : Nat)
    {copy : Command} (member : copy ∈ (runNext lines now (ledger.bridge, ledger.world)).1.copies) :
    copy ∈ (step lines (.turn now) ledger).2.bridge.queue.items := by
  have woken : (step lines (.turn now) ledger).2.bridge =
      ((halfway lines now ledger).wake now).2 := rfl
  rw [woken, wake_eq]
  refine List.mem_append_left _ ?_
  show copy ∈ (runNext lines now (ledger.bridge, ledger.world)).2.1.queue.items
  rw [(lossless now sound.fits ledger.world).queued]
  exact List.mem_append_right _ (List.mem_append_right _ member)

/-- What a turn repeats is what the last command under its key asked for, that of the turn
included. -/
theorem repeated_lastOn {entries : List (Entry β ω)} {ledger : Ledger β ω} (sound : ledger.Sound)
    (tabled : ledger.Tabled)
    (stored : ∀ key, ledger.bridge.subscriptions.content? key =
      (lastOn key (polls entries)).bind fun poll => poll.command.asks) (now : Nat) {copy : Command}
    (member : copy ∈ (turn lines now (ledger.bridge, ledger.world)).1.copies) :
    ∃ key poll, copy.key? = some key ∧
      lastOn key (polls (entries ++ [(step lines (.turn now) ledger).1])) = some poll ∧
      poll.command.verb = .subscribe ∧ copy = poll.command.plainRead := by
  obtain ⟨key, entry, found, rfl⟩ := stored_of_repeated lines sound tabled now member
  refine ⟨key, ?_⟩
  have named := (halfway_keyed lines sound tabled now key entry found).1
  have woken : (step lines (.turn now) ledger).2.bridge =
      ((halfway lines now ledger).wake now).2 := rfl
  rw [wake_eq] at woken
  have after : (step lines (.turn now) ledger).2.bridge.subscriptions.content? key =
      some entry.content := by
    rw [woken]
    show ((halfway lines now ledger).subscriptions.advance now).content? key = _
    rw [Subscriptions.content?_advance, Subscriptions.content?, found]
    rfl
  have asked : (lastOn key (polls (entries ++ [(step lines (.turn now) ledger).1]))).bind
      (fun poll => poll.command.asks) = some entry.content := by
    rw [polls_append, lastOn_append, ← after, step_content? lines sound tabled, stored]
    cases lastOn key (polls [(step lines (.turn now) ledger).1]) <;> rfl
  obtain ⟨poll, last, asks⟩ := Option.bind_eq_some_iff.mp asked
  obtain ⟨subscribes, _, read⟩ := Command.asks_eq_some asks
  exact ⟨poll, named, last, subscribes, read⟩

/-- **Subscriptions follow the commands.** -/
theorem run_subscriptions {registry : Registry β} {capacity : Nat} {bridge : Bridge β}
    (made : ofRegistry? registry capacity = some bridge) (world : ω) (events : List Event)
    (positive : ∀ event ∈ events, event.Positive) :
    (run lines events (.start bridge world)).2.Repeats lines
      (run lines events (.start bridge world)).1 := by
  have start := Ledger.start_sound made world
  have empty : bridge.subscriptions = .empty := by
    obtain ⟨queue, _, rfl⟩ := Option.map_eq_some_iff.mp made
    rfl
  have tabled : (Ledger.start bridge world).Tabled := by
    constructor
    · intro command member
      rw [← start.queued] at member
      exact absurd member List.not_mem_nil
    · intro key entry found
      rw [Ledger.start, empty, Subscriptions.find?_empty] at found
      exact absurd found (Option.some_ne_none _).symm
  have sound := run_sound lines events start
  have after := run_tabled lines events positive start tabled
  have stored (key : SubscriptionKey) :
      (run lines events (.start bridge world)).2.bridge.subscriptions.content? key =
        (lastOn key (polls (run lines events (.start bridge world)).1)).bind
          fun poll => poll.command.asks := by
    rw [run_content? lines events positive start tabled]
    have nothing : (Ledger.start bridge world).bridge.subscriptions.content? key = none := by
      rw [Ledger.start, empty, Subscriptions.content?, Subscriptions.find?_empty, Option.map_none]
    rw [nothing]
    cases lastOn key (polls (run lines events (.start bridge world)).1) <;> rfl
  refine ⟨after.complete, stored, fun now copy member => ?_, fun now poll key found changes => ?_⟩
  · exact repeated_lastOn lines sound after stored now member
  · rcases halfway_tabling lines sound after now with
      ⟨none, _⟩ | ⟨other, otherFound, rfl, same, tabling⟩
    · exact absurd (none.symm.trans found) (Option.some_ne_none _).symm
    · obtain rfl := Option.some.inj (otherFound.symm.trans found)
      refine ⟨_, ?_, fun copy member => ?_, tabling.answered after.keyed changes⟩
      · rw [same]
        rfl
      · rw [same] at member
        exact mem_items_of_atOnce lines sound other.now member

/-- A family is subscribed to, then again with another period, and a device is unsubscribed from.
The family's new period is the one that is stored. -/
theorem run_subscriptions_renewed :
    let bridge : Bridge Sim.Line := ⟨.ofChannels [⟨1, .empty, []⟩], ⟨[], 3⟩, .empty⟩
    let lines : ChannelId → Master (Sim.Line × Unit) Empty := fun _ => Sim.master.beside
    let first : Command :=
      { verb := .subscribe, family := some 0x28, quantity := some .temperature
        interval := some 1000, results := 1, errors := 2 }
    let renewed : Command := { first with interval := some 250, results := 3 }
    let other : Command :=
      { verb := .unsubscribe, device := some ⟨0x28⟩, quantity := some .temperature
        results := 4, errors := 5 }
    let events : List Event :=
      [.accept first, .accept renewed, .accept other, .turn 0, .turn 1, .turn 2]
    ofRegistry? (Registry.ofChannels [⟨1, .empty, []⟩]) 3 = some bridge ∧
      (∀ event ∈ events, event.Positive) ∧
      (run lines events (.start bridge ())).2.bridge.subscriptions.content?
        (.inr (0x28, .temperature)) = some (250, renewed.plainRead) := by
  intro bridge lines first renewed other events
  have made : ofRegistry? (Registry.ofChannels [⟨1, .empty, []⟩]) 3 = some bridge := rfl
  have positive : ∀ event ∈ events, event.Positive := by
    simp [events, Event.Positive, first, renewed, other]
  have repeats : (run lines events (.start bridge ())).2.Repeats lines
      (run lines events (.start bridge ())).1 := run_subscriptions lines made () events positive
  have asked : (lastOn (.inr (0x28, .temperature)) (polls (run lines events
      (.start bridge ())).1)).bind (fun poll => poll.command.asks) =
        some (250, renewed.plainRead) := by decide +kernel
  exact ⟨made, positive, (repeats.stored (.inr (0x28, .temperature))).trans asked⟩

end Bridge

end WireBridge
