/-!
Contract: events for at most one consumer.

Owns: the queue of events that have not been handed over, the consumer that gets them, and the
receiving end of a consumer.
Does not own: the handing over, which may have to wait (`Session.RequestLoop`).
-/

namespace SshServer

/-- Events that a feed holds while nobody takes them. -/
def feedBacklog : Nat := 128

/-- Events of one kind with the consumer that is attached, known by a number. -/
structure Feed (α : Type) where
  consumer : Option Nat := none
  /-- Events that have not been handed over, the oldest first. -/
  pending : List α := []
  closed : Bool := false
deriving DecidableEq, Repr

namespace Feed

variable {α : Type}

/-- Queues an event. It is dropped where the feed is closed or the backlog is full; says which. -/
def push (feed : Feed α) (event : α) : Feed α × Bool :=
  if feed.closed ∨ feedBacklog ≤ feed.pending.length then (feed, false)
  else ({ feed with pending := feed.pending ++ [event] }, true)

/-- Attaches a consumer in place of any other. A closed feed takes none. -/
def attach (feed : Feed α) (consumer : Nat) : Feed α :=
  if feed.closed then feed else { feed with consumer := some consumer }

/-- Takes the next event for the consumer that is attached. -/
def next? (feed : Feed α) : Option ((Nat × α) × Feed α) :=
  match feed.consumer, feed.pending with
  | some consumer, event :: rest => some ((consumer, event), { feed with pending := rest })
  | _, _ => none

/-- Detaches a consumer that went away, unless another one took its place. -/
def detach (feed : Feed α) (consumer : Nat) : Feed α :=
  if feed.consumer = some consumer then { feed with consumer := none } else feed

/-- Drops the consumer and every event, for good. -/
def close (_feed : Feed α) : Feed α :=
  { consumer := none, pending := [], closed := true }

end Feed

/-- The receiving end of a consumer: a bounded queue that its holder may drop. -/
structure Receiver (α : Type) where
  capacity : Nat
  items : List α := []
  held : Bool := true
deriving DecidableEq, Repr

namespace Receiver

variable {α : Type}

def hasRoom (receiver : Receiver α) : Bool :=
  receiver.items.length < receiver.capacity

def put (receiver : Receiver α) (event : α) : Receiver α :=
  { receiver with items := receiver.items ++ [event] }

def take? (receiver : Receiver α) : Option (α × Receiver α) :=
  match receiver.items with
  | [] => none
  | event :: rest => some (event, { receiver with items := rest })

def drop (receiver : Receiver α) : Receiver α :=
  { receiver with held := false, items := [] }

end Receiver

end SshServer
