/-
**The queue of commands.**

A queue holds commands in the order in which they came, up to a number that is fixed when it is
made.

* `Queue.ofCapacity?`: a queue whose storage fits the address space;
* `Queue.push?`, `Queue.pop?`: the two ends;
* `Filing`: commands that are put into a queue one after the other, with the errors of those that
  found it full.
-/

import WireBridge.Command.Answer

namespace WireBridge

/-- Commands in the order in which they came. -/
structure Queue where
  /-- The commands, oldest first. -/
  items : List Command
  /-- How many commands there may be. -/
  capacity : Nat
deriving DecidableEq

namespace Queue

/-- The storage of a command in bytes. -/
def itemBytes : Nat := 80

/-- The bytes that can be addressed. -/
def addressable : Nat := Nat.pow 2 47

/-- A queue without commands; nothing if its storage cannot be had. -/
def ofCapacity? (capacity : Nat) : Option Queue :=
  if capacity * itemBytes < addressable then some ⟨[], capacity⟩ else none

/-- The queue with one more command, unless it is full. -/
def push? (queue : Queue) (command : Command) : Option Queue :=
  if queue.items.length < queue.capacity then
    some { queue with items := queue.items ++ [command] }
  else none

/-- The oldest command and the queue without it. -/
def pop? (queue : Queue) : Option (Command × Queue) :=
  match queue.items with
  | [] => none
  | command :: rest => some (command, { queue with items := rest })

end Queue

/-- A queue into which commands are put, with the errors of those that found it full. -/
structure Filing where
  /-- The queue. -/
  queue : Queue
  /-- The errors, in the order in which they arose. -/
  deliveries : List Delivery

/-- Put a command that was accepted before into the queue. If the queue is full the command
fails. -/
def Filing.add (filing : Filing) (command : Command) : Filing :=
  match filing.queue.push? command with
  | some queue => { filing with queue := queue }
  | none => { filing with deliveries := filing.deliveries ++ [.failure command .queueFull] }

/-- Put commands into a queue. -/
def Queue.file (queue : Queue) (commands : List Command) : Filing :=
  commands.foldl Filing.add ⟨queue, []⟩

end WireBridge
