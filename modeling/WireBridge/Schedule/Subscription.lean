/-
**Subscriptions.**

A subscription repeats a read with a period. There is at most one for a device and quantity, and one
for a family and quantity. Whenever its period has passed, a copy of its template is queued.

* `Subscriptions.subscribe`, `Subscriptions.unsubscribe`: what the two verbs do;
* `Subscriptions.due`, `Subscriptions.advance`: the copies to queue at a time, and the periods that
  start then.
-/

import WireBridge.Schedule.Queue

namespace WireBridge

/-- A read that is repeated. -/
structure Subscription where
  /-- The period. -/
  timer : Timer
  /-- The read. -/
  template : Command
deriving DecidableEq

/-- The subscription with a period that starts again if it has passed. -/
def Subscription.advance (subscription : Subscription) (now : Nat) : Subscription :=
  if subscription.timer.expired now then
    { subscription with timer := subscription.timer.restart now }
  else subscription

/-- The subscriptions of a bridge. -/
structure Subscriptions where
  /-- Those of devices. -/
  byDevice : KeyMap (Address × Quantity) Subscription
  /-- Those of families. -/
  byFamily : KeyMap (FamilyCode × Quantity) Subscription

/-- What a verb did to the subscriptions. -/
structure SubscriptionChange where
  /-- The subscriptions afterwards. -/
  subscriptions : Subscriptions
  /-- The answer. -/
  delivery : Delivery
  /-- The reads to queue. -/
  copies : List Command

namespace Subscriptions

/-- No subscription. -/
def empty : Subscriptions := ⟨.empty, .empty⟩

/-- The number of subscriptions. -/
def size (subscriptions : Subscriptions) : Nat :=
  subscriptions.byDevice.size + subscriptions.byFamily.size

/-- Whether there is none. -/
def isEmpty (subscriptions : Subscriptions) : Bool := subscriptions.size == 0

/-- The period of the subscription for a device. -/
def devicePeriod? (subscriptions : Subscriptions) (address : Address) (quantity : Quantity) :
    Option Nat :=
  (subscriptions.byDevice.find? (address, quantity)).map (·.timer.delay)

/-- The period of the subscription for a family. -/
def familyPeriod? (subscriptions : Subscriptions) (family : FamilyCode) (quantity : Quantity) :
    Option Nat :=
  (subscriptions.byFamily.find? (family, quantity)).map (·.timer.delay)

/-- The acknowledgement of what was done to the subscription that a command names. -/
def acknowledgement (verb : Verb) (command : Command) : Response :=
  match command.device, command.family with
  | some address, _ => { verb, acknowledged := true, device := some { address } }
  | none, family => { verb, acknowledged := true, family }

/-- Nothing but an error. -/
def refuse (subscriptions : Subscriptions) (command : Command) (error : CommandError) :
    SubscriptionChange :=
  ⟨subscriptions, .failure command error, []⟩

/-- A stored subscription: a new one is acknowledged and its first read is queued at once; one that
replaces another is answered with a warning. -/
def stored (subscriptions : Subscriptions) (command template : Command) (fresh family : Bool) :
    SubscriptionChange :=
  if fresh then ⟨subscriptions, .success command (acknowledgement .subscribe command), [template]⟩
  else subscriptions.refuse command (.alreadySubscribed family)

/-- Store a subscription. -/
def subscribe (subscriptions : Subscriptions) (command : Command) (now : Nat) :
    SubscriptionChange :=
  match command.quantity, command.interval with
  | some quantity, some interval =>
    let entry : Subscription := ⟨⟨interval, now⟩, command.plainRead⟩
    match command.device, command.family with
    | some address, none =>
      let key := (address, quantity)
      stored { subscriptions with byDevice := subscriptions.byDevice.insert key entry } command
        entry.template (!subscriptions.byDevice.contains key) false
    | none, some family =>
      let key := (family, quantity)
      stored { subscriptions with byFamily := subscriptions.byFamily.insert key entry } command
        entry.template (!subscriptions.byFamily.contains key) true
    | some _, some _ => subscriptions.refuse command .conflictingSelector
    | none, none => subscriptions.refuse command .missingSelector
  | _, _ => subscriptions.refuse command .missingQuantityOrInterval

/-- A removed subscription is acknowledged; it is an error if there was none. -/
def removed (subscriptions : Subscriptions) (command : Command) (found family : Bool) :
    SubscriptionChange :=
  if found then ⟨subscriptions, .success command (acknowledgement .unsubscribe command), []⟩
  else subscriptions.refuse command (.notSubscribed family)

/-- Remove a subscription. -/
def unsubscribe (subscriptions : Subscriptions) (command : Command) : SubscriptionChange :=
  match command.quantity with
  | none => subscriptions.refuse command .missingQuantity
  | some quantity =>
    match command.device, command.family with
    | some address, none =>
      let key := (address, quantity)
      removed { subscriptions with byDevice := subscriptions.byDevice.erase key } command
        (subscriptions.byDevice.contains key) false
    | none, some family =>
      let key := (family, quantity)
      removed { subscriptions with byFamily := subscriptions.byFamily.erase key } command
        (subscriptions.byFamily.contains key) true
    | some _, some _ => subscriptions.refuse command .conflictingSelector
    | none, none => subscriptions.refuse command .missingSelector

/-- The templates of subscriptions whose period has passed. -/
def dueOf {κ : Type} [Ranked κ] (map : KeyMap κ Subscription) (now : Nat) : List Command :=
  (map.entries.filter fun entry => entry.2.timer.expired now).map fun entry => entry.2.template

/-- The reads to queue at a time: those of devices before those of families, in key order. -/
def due (subscriptions : Subscriptions) (now : Nat) : List Command :=
  dueOf subscriptions.byDevice now ++ dueOf subscriptions.byFamily now

/-- The subscriptions after the reads that are due were queued. -/
def advance (subscriptions : Subscriptions) (now : Nat) : Subscriptions :=
  ⟨subscriptions.byDevice.mapValues fun _ subscription => subscription.advance now,
    subscriptions.byFamily.mapValues fun _ subscription => subscription.advance now⟩

end Subscriptions

end WireBridge
