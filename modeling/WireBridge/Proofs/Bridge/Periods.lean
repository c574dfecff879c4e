/-
**Subscriptions keep their periods.**

A turn ends by waking the subscriptions. Whatever happens between two wakes, and however the clock
goes, a subscription is read once at a wake if its period has passed since it was last read or
stored, and otherwise not at all.

* `SubscriptionKey.Before`, `Command.Precedes`: devices before families, each in key order;
* `Subscriptions.due_ordered`, `Subscriptions.filter_due`: the reads that are due at a time, all of
  them and those of one key;
* `Bridge.wakes`: the wakes of a run, each with the bridge that it finds;
* `Bridge.lastCopied`: when a key was last read, by the wakes since some time;
* `Bridge.Wakes`: what a wake does for the subscription under a key;
* `Bridge.run_periodic`: **every wake of a run keeps the period** of a subscription that is neither
  replaced nor removed.
-/

import WireBridge.Proofs.Bridge.Subscribing

namespace WireBridge

/-! ### The order of keys -/

theorem Ranked.rank_pair_lt {κ : Type} [Ranked κ] {first second : κ × Quantity}
    (below : rank first < rank second) :
    rank first.1 < rank second.1 ∨ first.1 = second.1 ∧ first.2.index < second.2.index := by
  have small : ∀ quantity : Quantity, quantity.index < 4 := by
    intro quantity
    cases quantity <;> decide
  have firstSmall := small first.2
  have secondSmall := small second.2
  change 4 * rank first.1 + first.2.index < 4 * rank second.1 + second.2.index at below
  by_cases same : rank first.1 = rank second.1
  · exact .inr ⟨rank_injective _ _ same, by omega⟩
  · exact .inl (by omega)

/-- Devices come before families, devices and families in the order of their codes, and quantities
of one in their own order. -/
def SubscriptionKey.Before : SubscriptionKey → SubscriptionKey → Prop
  | .inl first, .inl second =>
    first.1.raw < second.1.raw ∨ first.1 = second.1 ∧ first.2.index < second.2.index
  | .inl _, .inr _ => True
  | .inr _, .inl _ => False
  | .inr first, .inr second =>
    first.1 < second.1 ∨ first.1 = second.1 ∧ first.2.index < second.2.index

theorem SubscriptionKey.Before.irrefl (key : SubscriptionKey) : ¬ Before key key := by
  cases key <;> simp [Before]

/-- A read whose key comes before that of another. -/
def Command.Precedes (first second : Command) : Prop :=
  ∃ one other, first.key? = some one ∧ second.key? = some other ∧
    SubscriptionKey.Before one other

/-! ### Reads that are due -/

namespace Subscriptions

variable {subscriptions : Subscriptions} {command : Command} {key : SubscriptionKey} {now : Nat}

/-- All subscriptions by their keys, in key order. -/
def listing (subscriptions : Subscriptions) : List (SubscriptionKey × Subscription) :=
  subscriptions.byDevice.entries.map (Prod.map .inl id) ++
    subscriptions.byFamily.entries.map (Prod.map .inr id)

theorem listing_ordered (subscriptions : Subscriptions) :
    subscriptions.listing.Pairwise fun first second =>
      SubscriptionKey.Before first.1 second.1 := by
  refine List.pairwise_append.mpr ⟨List.pairwise_map.mpr ?_, List.pairwise_map.mpr ?_, ?_⟩
  · exact subscriptions.byDevice.ascending.imp fun below => Ranked.rank_pair_lt below
  · exact subscriptions.byFamily.ascending.imp fun below => Ranked.rank_pair_lt below
  · intro first firstMember second secondMember
    obtain ⟨device, _, rfl⟩ := List.mem_map.mp firstMember
    obtain ⟨family, _, rfl⟩ := List.mem_map.mp secondMember
    trivial

theorem find?_of_mem_listing {entry : SubscriptionKey × Subscription}
    (member : entry ∈ subscriptions.listing) : subscriptions.find? entry.1 = some entry.2 := by
  rcases List.mem_append.mp member with device | family
  · obtain ⟨stored, listed, rfl⟩ := List.mem_map.mp device
    exact KeyMap.mem_entries_iff.mp listed
  · obtain ⟨stored, listed, rfl⟩ := List.mem_map.mp family
    exact KeyMap.mem_entries_iff.mp listed

theorem due_eq (subscriptions : Subscriptions) (now : Nat) :
    subscriptions.due now =
      (subscriptions.listing.filter fun entry => entry.2.timer.expired now).map
        (·.2.template) := by
  simp [due, dueOf, listing, List.filter_append, List.filter_map, Function.comp_def]

/-- **Reads that are due come in key order**, so at most one for a key. -/
theorem due_ordered (keyed : subscriptions.Keyed) (now : Nat) :
    (subscriptions.due now).Pairwise Command.Precedes := by
  rw [due_eq, List.pairwise_map]
  have ordered := (subscriptions.listing_ordered).filter fun entry => entry.2.timer.expired now
  refine ordered.imp_of_mem fun {first second} firstMember secondMember before => ?_
  have stored {entry : SubscriptionKey × Subscription}
      (member : entry ∈ subscriptions.listing.filter fun entry => entry.2.timer.expired now) :
      entry.2.template.key? = some entry.1 :=
    (keyed _ _ (find?_of_mem_listing (List.mem_filter.mp member).1)).1
  exact ⟨first.1, second.1, stored firstMember, stored secondMember, before⟩

/-- **The reads of a key that are due**: one if its period has passed. -/
theorem filter_due {entry : Subscription} (keyed : subscriptions.Keyed)
    (found : subscriptions.find? key = some entry) (now : Nat) :
    (subscriptions.due now).filter (fun copy => copy.key? = some key) =
      if entry.timer.expired now = true then [entry.template] else [] := by
  have only {copy : Command}
      (member : copy ∈ (subscriptions.due now).filter fun copy => copy.key? = some key) :
      entry.timer.expired now = true ∧ copy = entry.template := by
    obtain ⟨due, named⟩ := List.mem_filter.mp member
    obtain ⟨other, stored, otherFound, expired, rfl⟩ := mem_due.mp due
    have same : other = key := Option.some.inj
      ((keyed other stored otherFound).1.symm.trans (of_decide_eq_true named))
    obtain rfl := Option.some.inj ((same ▸ otherFound).symm.trans found)
    exact ⟨expired, rfl⟩
  have ordered := (due_ordered keyed now).filter fun copy => copy.key? = some key
  split
  · next expired =>
    have there : entry.template ∈ (subscriptions.due now).filter fun copy => copy.key? = some key :=
      List.mem_filter.mpr ⟨mem_due.mpr ⟨key, entry, found, expired, rfl⟩,
        decide_eq_true (keyed key entry found).1⟩
    generalize (subscriptions.due now).filter (fun copy => copy.key? = some key) = copies at *
    match copies with
    | [] => exact absurd there List.not_mem_nil
    | [copy] => rw [(only List.mem_cons_self).2]
    | first :: second :: rest =>
      -- Two reads of one key would be in order.
      have before := List.rel_of_pairwise_cons ordered List.mem_cons_self
      obtain ⟨one, other, firstNamed, secondNamed, before⟩ := before
      rw [(only List.mem_cons_self).2] at firstNamed
      rw [(only (List.mem_cons_of_mem _ List.mem_cons_self)).2] at secondNamed
      obtain rfl := Option.some.inj (firstNamed.symm.trans secondNamed)
      exact absurd before (SubscriptionKey.Before.irrefl _)
  · next early =>
    exact List.eq_nil_iff_forall_not_mem.mpr fun copy member => early (only member).1

/-! ### Commands about other keys -/

theorem stored_subscriptions (subscriptions : Subscriptions) (command template : Command)
    (fresh family : Bool) :
    (subscriptions.stored command template fresh family).subscriptions = subscriptions := by
  unfold stored
  split <;> rfl

theorem removed_subscriptions (subscriptions : Subscriptions) (command : Command)
    (found family : Bool) :
    (subscriptions.removed command found family).subscriptions = subscriptions := by
  unfold removed
  split <;> rfl

/-- What a subscription makes of the table: an entry under its key, if it names one and a period. -/
theorem subscribe_subscriptions (subscriptions : Subscriptions) (command : Command) (now : Nat) :
    (subscriptions.subscribe command now).subscriptions = subscriptions ∨
      ∃ key interval, command.key? = some key ∧ command.interval = some interval ∧
        (subscriptions.subscribe command now).subscriptions =
          subscriptions.insert ⟨⟨interval, now⟩, command.plainRead⟩ key := by
  cases named : command.key? with
  | some key =>
    cases period : command.interval with
    | some interval =>
      rw [subscribe_eq named period, stored_subscriptions]
      exact .inr ⟨key, interval, rfl, rfl, rfl⟩
    | none => exact .inl (by unfold subscribe; simp [period, refuse])
  | none =>
    left
    unfold Command.key? at named
    unfold subscribe
    split
    · next measured period =>
      rw [measured] at named
      dsimp only
      split <;> simp_all [refuse]
    · rfl

/-- What the end of a subscription makes of the table: no entry under its key, if it names one. -/
theorem unsubscribe_subscriptions (subscriptions : Subscriptions) (command : Command) :
    (subscriptions.unsubscribe command).subscriptions = subscriptions ∨
      ∃ key, command.key? = some key ∧
        (subscriptions.unsubscribe command).subscriptions = subscriptions.erase key := by
  cases named : command.key? with
  | some key =>
    rw [unsubscribe_eq named, removed_subscriptions]
    exact .inr ⟨key, rfl, rfl⟩
  | none =>
    left
    unfold Command.key? at named
    unfold unsubscribe
    split
    · rfl
    · next measured =>
      rw [measured] at named
      dsimp only
      split <;> simp_all [refuse]

end Subscriptions

namespace Bridge

variable {β ω ε : Type} {lines : ChannelId → Master (β × ω) ε}

/-! ### One command -/

section Taken

variable {now : Nat} {command : Command} {bridge reached : Bridge β} {world after : ω}
  {turn : Turn} {key : SubscriptionKey}

/-- What a command that is not about a key leaves under it. -/
theorem Taking.find?_eq (taking : Taking lines now command bridge world (turn, reached, after))
    (other : ¬ command.Changes key now) :
    reached.subscriptions.find? key = bridge.subscriptions.find? key := by
  cases taking with
  | subscribes due verb changed =>
    subst changed
    show (bridge.subscriptions.subscribe command now).subscriptions.find? key = _
    rcases bridge.subscriptions.subscribe_subscriptions command now with
      same | ⟨named, interval, namedEq, _, same⟩
    · rw [same]
    · rw [same, Subscriptions.find?_insert, if_neg]
      rintro rfl
      exact other ⟨due, namedEq, .inl verb⟩
  | unsubscribes due verb changed =>
    subst changed
    show (bridge.subscriptions.unsubscribe command).subscriptions.find? key = _
    rcases bridge.subscriptions.unsubscribe_subscriptions command with same | ⟨named, namedEq, same⟩
    · rw [same]
    · rw [same, Subscriptions.find?_erase, if_neg]
      rintro rfl
      exact other ⟨due, namedEq, .inr verb⟩
  | _ => rfl

/-- What a command that subscribes leaves under its key. -/
theorem Taking.find?_stored (taking : Taking lines now command bridge world (turn, reached, after))
    (changes : command.Changes key now) {period : Nat} {read : Command}
    (asks : command.asks = some (period, read)) :
    reached.subscriptions.find? key = some ⟨⟨period, now⟩, read⟩ := by
  obtain ⟨stores, given, rfl⟩ := Command.asks_eq_some asks
  obtain ⟨due, named, _⟩ := changes
  have otherwise {verb : Verb} {result : Prop} (is : command.verb = verb)
      (different : verb ≠ .subscribe) : result :=
    absurd (is.symm.trans stores) different
  cases taking with
  | waits early => exact absurd (early.symm.trans due) Bool.noConfusion
  | restarts _ verb => exact otherwise verb Verb.noConfusion
  | scans _ verb _ => exact otherwise verb Verb.noConfusion
  | goesOn _ verb _ => exact otherwise verb Verb.noConfusion
  | reads _ verb _ => exact otherwise verb Verb.noConfusion
  | fails _ verb _ => exact otherwise verb Verb.noConfusion
  | unsubscribes _ verb _ => exact otherwise verb Verb.noConfusion
  | subscribes _ verb changed =>
    rw [Subscriptions.subscribe_eq named given] at changed
    subst changed
    show (Subscriptions.stored _ _ _ _ _).subscriptions.find? key = _
    rw [Subscriptions.stored_subscriptions, Subscriptions.find?_insert, if_pos rfl]

theorem Taking.keyed (taking : Taking lines now command bridge world (turn, reached, after))
    (keyed : bridge.subscriptions.Keyed) : reached.subscriptions.Keyed := by
  cases taking with
  | subscribes due verb changed =>
    subst changed
    show (bridge.subscriptions.subscribe command now).subscriptions.Keyed
    rcases bridge.subscriptions.subscribe_subscriptions command now with
      same | ⟨named, interval, namedEq, _, same⟩
    · rw [same]
      exact keyed
    · rw [same]
      exact keyed.insert namedEq ⟨interval, now⟩
  | unsubscribes due verb changed =>
    subst changed
    show (bridge.subscriptions.unsubscribe command).subscriptions.Keyed
    rcases bridge.subscriptions.unsubscribe_subscriptions command with same | ⟨named, _, same⟩
    · rw [same]
      exact keyed
    · rw [same]
      exact keyed.erase named
  | _ => exact keyed

end Taken

/-! ### One wake -/

/-- What a wake does for the subscription under a key whose period started at some time: it queues
one copy of the read if the period has passed, and then the period starts again, whether or not
there is room for the copy. All copies come in key order, and those for which there is no room
fail. -/
structure Wakes (key : SubscriptionKey) (period : Nat) (read : Command) (started now : Nat)
    (bridge : Bridge β) : Prop where
  once : (bridge.wake now).1.copies.filter (fun copy => copy.key? = some key) =
    if period ≤ now - started then [read] else []
  restarts : (bridge.wake now).2.subscriptions.find? key =
    some ⟨⟨period, if period ≤ now - started then now else started⟩, read⟩
  ordered : (bridge.wake now).1.copies.Pairwise Command.Precedes
  queued : (bridge.wake now).2.queue.items = bridge.queue.items ++
    (bridge.wake now).1.copies.take (bridge.queue.capacity - bridge.queue.items.length)
  failed : (bridge.wake now).1.deliveries =
    ((bridge.wake now).1.copies.drop (bridge.queue.capacity - bridge.queue.items.length)).map
      fun copy => .failure copy .queueFull

theorem wakes_of_stored {key : SubscriptionKey} {period started : Nat} {read : Command}
    {bridge : Bridge β} (keyed : bridge.subscriptions.Keyed)
    (stored : bridge.subscriptions.find? key = some ⟨⟨period, started⟩, read⟩) (now : Nat) :
    Wakes key period read started now bridge := by
  constructor
  · rw [wake_eq]
    refine (Subscriptions.filter_due keyed stored now).trans ?_
    simp only [Timer.expired, decide_eq_true_eq]
  · rw [wake_eq]
    refine (Subscriptions.find?_advance _ now key).trans ?_
    rw [stored, Option.map_some, Subscription.advance]
    simp only [Timer.expired, decide_eq_true_eq, Timer.restart]
    split <;> rfl
  · rw [wake_eq]
    exact Subscriptions.due_ordered keyed now
  · rw [wake_eq]
    rfl
  · rw [wake_eq]

/-! ### Runs -/

/-- When a read of a key was last queued by some wakes, or else the time from which on they are. -/
def lastCopied (key : SubscriptionKey) (start : Nat) (wakes : List (Nat × Bridge β)) : Nat :=
  wakes.foldl (fun last (now, bridge) =>
    if (bridge.wake now).1.copies.any (·.key? = some key) then now else last) start

theorem lastCopied_cons (key : SubscriptionKey) (start now : Nat) (bridge : Bridge β)
    (wakes : List (Nat × Bridge β)) :
    lastCopied key start ((now, bridge) :: wakes) =
      lastCopied key
        (if (bridge.wake now).1.copies.any (·.key? = some key) then now else start) wakes := rfl

variable (lines)

/-- The times at which a run wakes its subscriptions, with the bridge that is found then. -/
def wakes : List Event → Ledger β ω → List (Nat × Bridge β)
  | [], _ => []
  | .accept command :: rest, ledger => wakes rest (step lines (.accept command) ledger).2
  | .turn now :: rest, ledger =>
    (now, halfway lines now ledger) :: wakes rest (step lines (.turn now) ledger).2

/-- The first half of a turn is what a command makes of the bridge, or nothing. -/
theorem halfway_taking {ledger : Ledger β ω} (sound : ledger.Sound) (now : Nat) :
    ((step lines (.turn now) ledger).1.poll? = none ∧ halfway lines now ledger = ledger.bridge) ∨
    ∃ poll rest world, (step lines (.turn now) ledger).1.poll? = some poll ∧ poll.now = now ∧
      Taking lines now poll.command (ledger.bridge.queueing rest) ledger.world
        (poll.turn, halfway lines now ledger, world) := by
  have pollEq : (step lines (.turn now) ledger).1.poll? = ledger.waiting.head?.map _ := rfl
  rw [pollEq]
  cases front : ledger.waiting with
  | nil =>
    have nothing : ledger.bridge.queue.items = [] := by rw [← sound.queued, front, List.map_nil]
    exact .inl ⟨rfl, by rw [halfway, runNext_nil lines nothing]⟩
  | cons entry rest =>
    have head : ledger.bridge.queue.items = entry.1 :: rest.map Prod.fst := by
      rw [← sound.queued, front, List.map_cons]
    exact .inr ⟨_, _, _, rfl, rfl, runNext_taking lines now ledger.world head sound.fits⟩

section Step

variable {ledger : Ledger β ω} (sound : ledger.Sound) {key : SubscriptionKey} {now : Nat}

include sound

theorem find?_halfway (kept : ∀ poll ∈ (step lines (.turn now) ledger).1.poll?,
      ¬ poll.command.Changes key poll.now) :
    (halfway lines now ledger).subscriptions.find? key =
      ledger.bridge.subscriptions.find? key := by
  rcases halfway_taking lines sound now with ⟨_, same⟩ | ⟨poll, rest, world, found, rfl, taking⟩
  · rw [same]
  · exact taking.find?_eq (kept poll found)

theorem keyed_halfway (keyed : ledger.bridge.subscriptions.Keyed) :
    (halfway lines now ledger).subscriptions.Keyed := by
  rcases halfway_taking lines sound now with ⟨_, same⟩ | ⟨poll, rest, world, _, _, taking⟩
  · rw [same]
    exact keyed
  · exact taking.keyed keyed

omit sound in
/-- A turn ends with a wake. -/
theorem subscriptions_turn (now : Nat) :
    (step lines (.turn now) ledger).2.bridge.subscriptions =
      ((halfway lines now ledger).wake now).2.subscriptions := rfl

omit sound in
/-- A command that is handed over leaves the subscriptions. -/
theorem subscriptions_accept (command : Command) :
    (step lines (.accept command) ledger).2.bridge.subscriptions =
      ledger.bridge.subscriptions := by
  have accepting := accept_accepting ledger.bridge command
  show (ledger.bridge.accept command).2.2.subscriptions = _
  generalize ledger.bridge.accept command = result at accepting
  cases accepting <;> rfl

theorem step_keyed (keyed : ledger.bridge.subscriptions.Keyed) (event : Event) :
    (step lines event ledger).2.bridge.subscriptions.Keyed := by
  cases event with
  | accept command =>
    rw [subscriptions_accept lines]
    exact keyed
  | turn now =>
    rw [subscriptions_turn lines, wake_eq]
    exact (keyed_halfway lines sound keyed).advance now

end Step

theorem run_keyed (events : List Event) {ledger : Ledger β ω} (sound : ledger.Sound)
    (keyed : ledger.bridge.subscriptions.Keyed) :
    (run lines events ledger).2.bridge.subscriptions.Keyed := by
  induction events generalizing ledger with
  | nil => exact keyed
  | cons event rest ih =>
    rw [run_cons]
    exact ih (step_sound lines sound event) (step_keyed lines sound keyed event)

/-- A wake queues a read of the key exactly if the period has passed. -/
theorem Wakes.any_eq {key : SubscriptionKey} {period started now : Nat} {read : Command}
    {bridge : Bridge β} (wakes : Wakes key period read started now bridge) :
    (bridge.wake now).1.copies.any (·.key? = some key) = decide (period ≤ now - started) := by
  have once := wakes.once
  split at once
  · next passed =>
    have there : read ∈ (bridge.wake now).1.copies.filter fun copy => copy.key? = some key := by
      rw [once]
      exact List.mem_singleton_self read
    rw [decide_eq_true passed]
    exact List.any_eq_true.mpr ⟨read, List.mem_filter.mp there⟩
  · next early =>
    rw [decide_eq_false early, List.any_eq_false]
    exact List.filter_eq_nil_iff.mp once

/-- What the wakes of some events do for a subscription that no command is about. -/
theorem wakes_periodic {key : SubscriptionKey} {period : Nat} {read : Command}
    (events : List Event) {ledger : Ledger β ω} (sound : ledger.Sound)
    (keyed : ledger.bridge.subscriptions.Keyed) {started : Nat}
    (stored : ledger.bridge.subscriptions.find? key = some ⟨⟨period, started⟩, read⟩)
    (kept : ∀ poll ∈ polls (run lines events ledger).1, ¬ poll.command.Changes key poll.now)
    {before after : List (Nat × Bridge β)} {now : Nat} {bridge : Bridge β}
    (place : wakes lines events ledger = before ++ (now, bridge) :: after) :
    Wakes key period read (lastCopied key started before) now bridge := by
  induction events generalizing ledger started before with
  | nil => exact absurd place (by simp [wakes])
  | cons event rest ih =>
    have later : ∀ poll ∈ polls (run lines rest (step lines event ledger).2).1,
        ¬ poll.command.Changes key poll.now := by
      intro poll member
      obtain ⟨entry, entryMember, found⟩ := List.mem_filterMap.mp member
      exact kept poll (List.mem_filterMap.mpr ⟨entry, List.mem_cons_of_mem _ entryMember, found⟩)
    have nextSound := step_sound lines sound event
    have nextKeyed := step_keyed lines sound keyed event
    cases event with
    | accept command =>
      exact ih nextSound nextKeyed ((subscriptions_accept lines command).symm ▸ stored) later place
    | turn time =>
      have here : ∀ poll ∈ (step lines (.turn time) ledger).1.poll?,
          ¬ poll.command.Changes key poll.now := fun poll found =>
        kept poll (List.mem_filterMap.mpr ⟨_, List.mem_cons_self, found⟩)
      have halfStored := (find?_halfway lines sound here).trans stored
      have halfKeyed := @keyed_halfway _ _ _ lines _ sound time keyed
      have first := wakes_of_stored halfKeyed halfStored time
      cases before with
      | nil =>
        obtain ⟨same, _⟩ := List.cons.inj place
        obtain ⟨rfl, rfl⟩ := Prod.mk.inj same
        exact first
      | cons head before =>
        obtain ⟨rfl, placeLater⟩ := List.cons.inj place
        have last : lastCopied key started ((time, halfway lines time ledger) :: before) =
            lastCopied key (if period ≤ time - started then time else started) before := by
          simp only [lastCopied_cons, first.any_eq, decide_eq_true_eq]
        rw [last]
        exact ih nextSound nextKeyed first.restarts later placeLater

/-- **Subscriptions keep their periods.** Let a turn store a subscription with a period, and let no
later command replace or remove it. Then a wake at any later time, that of the turn included, queues
one copy of its read if the period has passed since the last wake that did, or else since it was
stored; and queues no copy otherwise. -/
theorem run_periodic {registry : Registry β} {capacity : Nat} {bridge : Bridge β}
    (made : ofRegistry? registry capacity = some bridge) (world : ω) (earlier later : List Event)
    {key : SubscriptionKey} {period start : Nat} {read : Command} {poll : Poll β ω}
    (taken : (step lines (.turn start) (run lines earlier (.start bridge world)).2).1.poll? =
      some poll)
    (changes : poll.command.Changes key start) (asks : poll.command.asks = some (period, read))
    (kept : ∀ other ∈ polls (run lines later
        (step lines (.turn start) (run lines earlier (.start bridge world)).2).2).1,
      ¬ other.command.Changes key other.now) :
    ∀ before now woken after,
      wakes lines (.turn start :: later) (run lines earlier (.start bridge world)).2 =
        before ++ (now, woken) :: after →
      Wakes key period read (lastCopied key start before) now woken := by
  intro before now woken after place
  have begun := Ledger.start_sound made world
  have empty : (Ledger.start bridge world).bridge.subscriptions.Keyed := by
    obtain ⟨queue, _, rfl⟩ := Option.map_eq_some_iff.mp made
    intro other entry found
    exact absurd found (by simp [Ledger.start])
  have sound := run_sound lines earlier begun
  have keyed := run_keyed lines earlier begun empty
  generalize (run lines earlier (.start bridge world)).2 = ledger at *
  have stored : (halfway lines start ledger).subscriptions.find? key =
      some ⟨⟨period, start⟩, read⟩ := by
    rcases halfway_taking lines sound start with
      ⟨none, _⟩ | ⟨other, rest, world, found, _, taking⟩
    · exact absurd (none.symm.trans taken) (Option.some_ne_none _).symm
    · obtain rfl := Option.some.inj (found.symm.trans taken)
      exact taking.find?_stored changes asks
  have first := wakes_of_stored (keyed_halfway lines sound keyed) stored start
  cases before with
  | nil =>
    obtain ⟨same, _⟩ := List.cons.inj place
    obtain ⟨rfl, rfl⟩ := Prod.mk.inj same
    exact first
  | cons head before =>
    obtain ⟨rfl, placeLater⟩ := List.cons.inj place
    -- The period starts at the time of the turn, whether or not its own wake queues a read.
    have last : lastCopied key start ((start, halfway lines start ledger) :: before) =
        lastCopied key start before := by
      rw [lastCopied_cons, ite_self]
    have restarted := first.restarts
    rw [ite_self] at restarted
    rw [last]
    have nextSound := step_sound lines sound (.turn start)
    have nextKeyed := step_keyed lines sound keyed (.turn start)
    exact wakes_periodic lines later nextSound nextKeyed restarted kept placeLater

/-- Reads of a family every 100 milliseconds. The queue is full of commands that wait when the read
of 500 is due, so that read fails, and the next one is due at 600; the clock goes back between. -/
theorem run_periodic_full :
    let bridge : Bridge Sim.Line := ⟨.ofChannels [⟨1, .empty, []⟩], ⟨[], 2⟩, .empty⟩
    let lines : ChannelId → Master (Sim.Line × Unit) Empty := fun _ => Sim.master.beside
    let command : Command :=
      { verb := .subscribe, family := some 0x28, quantity := some .temperature
        interval := some 100, results := 1, errors := 2 }
    let waiting : Command := { verb := .restart, timer := ⟨100000, 0⟩, results := 3, errors := 4 }
    let subscribed := (run lines [.accept command] (.start bridge ())).2
    let later : List Event :=
      [.accept waiting, .turn 50, .accept waiting, .turn 500, .turn 550, .turn 7, .turn 600]
    let found := wakes lines (.turn 10 :: later) subscribed
    found.map (fun wake => (wake.1, (wake.2.wake wake.1).1.copies.length)) =
        [(10, 0), (50, 0), (500, 1), (550, 0), (7, 0), (600, 1)] ∧
      ∀ before now woken after, found = before ++ (now, woken) :: after →
        Wakes (.inr (0x28, .temperature)) 100 command.plainRead
          (lastCopied (.inr (0x28, .temperature)) 10 before) now woken := by
  intro bridge lines command waiting subscribed later found
  have made : ofRegistry? (Registry.ofChannels [⟨1, .empty, []⟩]) 2 = some bridge := rfl
  have polled : ((step lines (.turn 10) subscribed).1.poll?.map (·.command)) = some command := by
    decide +kernel
  obtain ⟨poll, taken, same⟩ := Option.map_eq_some_iff.mp polled
  have changes : command.Changes (.inr (0x28, .temperature)) 10 := by decide +kernel
  have kept : ∀ other ∈ polls (run lines later (step lines (.turn 10) subscribed).2).1,
      ¬ other.command.Changes (.inr (0x28, .temperature)) other.now := by decide +kernel
  exact ⟨by decide +kernel, run_periodic lines made () [.accept command] later taken
    (by rw [same]; exact changes) (by rw [same]; rfl) kept⟩

end Bridge

end WireBridge
