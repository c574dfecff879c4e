/-
**Turns of the bridge.**

A bridge takes commands into its queue and runs at most one at each turn; a command whose timer has
not expired, or that waits for a conversion, goes to the end of the queue. After that the reads of
subscriptions whose period has passed are queued.

* `Bridge.accept`: accept a command, or tell why not;
* `Bridge.runNext`, `Bridge.wake`, `Bridge.turn`: one turn and its two halves;
* `Turn`: what happened in a turn, with all answers that were given.
-/

import WireBridge.Bridge.Reading
import WireBridge.Schedule.Subscription

namespace WireBridge

/-- The registry, queue and subscriptions of a bridge. -/
structure Bridge (β : Type) where
  /-- The devices. -/
  registry : Registry β
  /-- The commands that wait. -/
  queue : Queue
  /-- The reads that are repeated. -/
  subscriptions : Subscriptions

/-- What happened in a turn. -/
structure Turn where
  /-- The command that was taken from the queue. -/
  taken : Option Command
  /-- The command that was put back in its place. -/
  returned : Option Command
  /-- The reads of subscriptions that were to be queued. -/
  copies : List Command
  /-- The answers, in order. -/
  deliveries : List Delivery
  /-- The bridge is to be restarted. -/
  restart : Bool

namespace Turn

/-- A turn in which nothing happened. -/
def idle : Turn := ⟨none, none, [], [], false⟩

/-- Two turns in one, the first of which took a command. -/
def followedBy (first second : Turn) : Turn :=
  { first with
    copies := first.copies ++ second.copies
    deliveries := first.deliveries ++ second.deliveries }

end Turn

namespace Bridge

variable {β ω ε : Type}

/-- A bridge with a queue of some capacity; nothing if the queue cannot be had. -/
def ofRegistry? (registry : Registry β) (capacity : Nat) : Option (Bridge β) :=
  (Queue.ofCapacity? capacity).map fun queue => ⟨registry, queue, .empty⟩

/-- Accept a command. One that lacks a parameter fails at once; a full queue is only told. -/
def accept (bridge : Bridge β) (command : Command) :
    Except CommandError Unit × List Delivery × Bridge β :=
  match command.check with
  | .error error => (.error error, [.failure command error], bridge)
  | .ok _ =>
    match bridge.queue.push? command with
    | some queue => (.ok (), [], { bridge with queue := queue })
    | none => (.error .queueFull, [], bridge)

/-- What a scan tells about a device that was or was not found. -/
def sighting (address : Address) (found : Bool) : DeviceReport :=
  { address, presence := some found, quantities := some (Family.quantities address.family) }

variable (lines : ChannelId → Master (β × ω) ε)

/-- Look for devices. -/
def discover (command : Command) : Work β ω Response :=
  match command.device, command.family with
  | some address, _ => do
    let channel ← (Registry.locate lines address).mapError fun _ => .scanFailed .device
    pure { verb := .scan, device := some (sighting address channel.isSome) }
  | none, some family => do
    (Registry.scan lines (some family)).mapError fun _ => .scanFailed .family
    let known ← Work.registry
    let reports := (known.ofFamily family).keys.map fun address => sighting address true
    pure { verb := .scan, family := some family, devices := some reports }
  | none, none => do
    (Registry.scan lines none).mapError fun _ => .scanFailed .all
    let known ← Work.registry
    let reports := known.devices.keys.map fun address => sighting address true
    pure { verb := .scan, devices := some reports }

/-- Do some work on the registry. -/
def work {α ε' : Type} (action : Action (Registry β × ω) ε' α) (bridge : Bridge β)
    (world : ω) : Except ε' α × Bridge β × ω :=
  let (outcome, (registry, reached)) := action.perform (bridge.registry, world)
  (outcome, { bridge with registry := registry }, reached)

/-- Put a command back at the end of the queue. -/
def putBack (bridge : Bridge β) (command returned : Command) : Turn × Bridge β :=
  let filing := bridge.queue.file [returned]
  (⟨some command, some returned, [], filing.deliveries, false⟩,
    { bridge with queue := filing.queue })

/-- A turn whose command was answered. -/
def answered (command : Command) (delivery : Delivery) : Turn :=
  ⟨some command, none, [], [delivery], false⟩

/-- A turn whose command changed the subscriptions. -/
def changed (bridge : Bridge β) (command : Command) (change : SubscriptionChange) :
    Turn × Bridge β :=
  let filing := bridge.queue.file change.copies
  (⟨some command, none, change.copies, change.delivery :: filing.deliveries, false⟩,
    { bridge with queue := filing.queue, subscriptions := change.subscriptions })

/-- Run a command. -/
def execute (bridge : Bridge β) (command : Command) (now : Nat) (world : ω) :
    Turn × Bridge β × ω :=
  match command.verb with
  | .restart =>
    let delivery := Delivery.success command { verb := .restart, acknowledged := true }
    ({ answered command delivery with restart := true }, bridge, world)
  | .scan =>
    match work (discover lines command) bridge world with
    | (.ok response, reached) => (answered command (.success command response), reached)
    | (.error error, reached) => (answered command (.failure command error), reached)
  | .read =>
    match work (Command.advance lines command now) bridge world with
    | (.ok (.answer response), reached) => (answered command (.success command response), reached)
    | (.ok (.waiting next), (reached, world)) =>
      let (turn, filed) := reached.putBack command next
      (turn, filed, world)
    | (.error error, reached) => (answered command (.failure command error), reached)
  | .subscribe =>
    let (turn, filed) := bridge.changed command (bridge.subscriptions.subscribe command now)
    (turn, filed, world)
  | .unsubscribe =>
    let (turn, filed) := bridge.changed command (bridge.subscriptions.unsubscribe command)
    (turn, filed, world)

/-- Take the oldest command, if there is one, and run it if its timer has expired. -/
def runNext (now : Nat) (state : Bridge β × ω) : Turn × Bridge β × ω :=
  let (bridge, world) := state
  match bridge.queue.pop? with
  | none => (.idle, state)
  | some (command, queue) =>
    let popped := { bridge with queue := queue }
    if command.timer.expired now then popped.execute lines command now world
    else
      let (turn, filed) := popped.putBack command command
      (turn, filed, world)

/-- Queue the reads of subscriptions whose period has passed. -/
def wake (now : Nat) (bridge : Bridge β) : Turn × Bridge β :=
  let copies := bridge.subscriptions.due now
  let filing := bridge.queue.file copies
  (⟨none, none, copies, filing.deliveries, false⟩,
    { bridge with
      queue := filing.queue, subscriptions := bridge.subscriptions.advance now })

/-- One turn. -/
def turn (now : Nat) (state : Bridge β × ω) : Turn × Bridge β × ω :=
  let (first, bridge, world) := runNext lines now state
  let (second, woken) := bridge.wake now
  (first.followedBy second, woken, world)

end Bridge

end WireBridge
