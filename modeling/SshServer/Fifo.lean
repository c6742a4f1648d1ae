/-!
Contract: a first-in, first-out queue whose operations take constant time on average.

Owns: the queue, its view as a list, and what each operation does to that view.
Does not own: bounds; a queue grows without limit (`Channel.Mailbox` bounds one).
-/

namespace SshServer

/-- A queue as two lists: `front` is taken from, and `back` holds the latest items in reverse. -/
structure Fifo (α : Type) where
  front : List α := []
  back : List α := []
deriving DecidableEq, Repr, Inhabited

namespace Fifo

variable {α : Type}

/-- The items in the order in which they leave. -/
def toList (queue : Fifo α) : List α :=
  queue.front ++ queue.back.reverse

def empty : Fifo α := {}

def push (queue : Fifo α) (item : α) : Fifo α :=
  { queue with back := item :: queue.back }

/-- The item that has waited longest, and the queue without it. -/
def pop? (queue : Fifo α) : Option (α × Fifo α) :=
  match queue.front with
  | item :: rest => some (item, { queue with front := rest })
  | [] =>
    match queue.back.reverse with
    | [] => none
    | item :: rest => some (item, ⟨rest, []⟩)

def length (queue : Fifo α) : Nat :=
  queue.front.length + queue.back.length

def isEmpty (queue : Fifo α) : Bool :=
  queue.front.isEmpty && queue.back.isEmpty

@[simp] theorem toList_empty : (empty : Fifo α).toList = [] := rfl

@[simp] theorem toList_push (queue : Fifo α) (item : α) :
    (queue.push item).toList = queue.toList ++ [item] := by
  simp [toList, push]

@[simp] theorem length_toList (queue : Fifo α) : queue.toList.length = queue.length := by
  simp [toList, length]

theorem isEmpty_iff {queue : Fifo α} : queue.isEmpty ↔ queue.toList = [] := by
  simp [isEmpty, toList]

theorem pop?_eq_none_iff {queue : Fifo α} : queue.pop? = none ↔ queue.toList = [] := by
  unfold pop?
  split
  · simp_all [toList]
  · split <;> simp_all [toList]

theorem toList_of_pop? {queue rest : Fifo α} {item : α} (popped : queue.pop? = some (item, rest)) :
    queue.toList = item :: rest.toList := by
  unfold pop? at popped
  split at popped
  · simp only [Option.some.injEq, Prod.mk.injEq] at popped
    obtain ⟨rfl, rfl⟩ := popped
    simp_all [toList]
  · split at popped
    · simp at popped
    · simp only [Option.some.injEq, Prod.mk.injEq] at popped
      obtain ⟨rfl, rfl⟩ := popped
      simp_all [toList]

end Fifo

end SshServer
