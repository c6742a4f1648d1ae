import SshServer.Fifo

/-!
Contract: a bounded queue between any number of senders and one receiver.

Owns: the items under way, the senders that wait for room in the order in which they came, whether
the receiver is still there, and how many senders are left.
Does not own: who the senders are. A sender that waits is known by a number of its own, and goes on
by `retry` when its turn comes.
-/

namespace SshServer

/-- A bounded queue. A sender that finds it full, or others waiting, waits behind them. -/
structure Mailbox (α : Type) where
  capacity : Nat
  items : Fifo α := .empty
  /-- Senders that wait for room, each with what it sends, first come first. -/
  blocked : List (Nat × α) := []
  attached : Bool := true
  senders : Nat := 1
deriving DecidableEq, Repr

namespace Mailbox

variable {α : Type}

inductive Sent where
  | queued
  | waiting
  | refused
deriving DecidableEq, Repr

def hasRoom (box : Mailbox α) : Bool :=
  box.items.length < box.capacity

/-- Begins to send an item; `sender` names the sender should it have to wait. -/
def offer (box : Mailbox α) (sender : Nat) (item : α) : Mailbox α × Sent :=
  if !box.attached then (box, .refused)
  else if box.blocked.isEmpty && box.hasRoom then
    ({ box with items := box.items.push item }, .queued)
  else ({ box with blocked := box.blocked ++ [(sender, item)] }, .waiting)

def withdraw (box : Mailbox α) (sender : Nat) : Mailbox α :=
  { box with blocked := box.blocked.filter fun entry => entry.1 != sender }

/-- Lets a sender that waits go on: it fails once the receiver is gone, and delivers when there is
room and nobody waits before it. -/
def retry (box : Mailbox α) (sender : Nat) : Mailbox α × Sent :=
  if !box.attached then (box.withdraw sender, .refused)
  else
    match box.blocked with
    | [] => (box, .waiting)
    | (first, item) :: rest =>
      if first = sender ∧ box.hasRoom then
        ({ box with blocked := rest, items := box.items.push item }, .queued)
      else (box, .waiting)

def take? (box : Mailbox α) : Option (α × Mailbox α) :=
  box.items.pop?.map fun (item, items) => (item, { box with items })

/-- Whether nothing more can be received: no item waits and no sender is left. -/
def ended (box : Mailbox α) : Bool :=
  box.items.isEmpty && box.senders == 0

/-- The receiver goes away, and with it what it had not taken. -/
def detach (box : Mailbox α) : Mailbox α :=
  { box with attached := false, items := .empty }

def addSender (box : Mailbox α) : Mailbox α :=
  { box with senders := box.senders + 1 }

def dropSender (box : Mailbox α) : Mailbox α :=
  { box with senders := box.senders - 1 }

/-! ### Laws -/

theorem toList_offer_of_queued {box after : Mailbox α} {sender : Nat} {item : α}
    (queued : box.offer sender item = (after, .queued)) :
    after.items.toList = box.items.toList ++ [item] := by
  unfold offer at queued
  split at queued
  · simp at queued
  · split at queued
    · simp only [Prod.mk.injEq, and_true] at queued
      simp [← queued]
    · simp at queued

theorem toList_of_take? {box rest : Mailbox α} {item : α} (taken : box.take? = some (item, rest)) :
    box.items.toList = item :: rest.items.toList := by
  simp only [take?, Option.map_eq_some_iff, Prod.mk.injEq, Prod.exists] at taken
  obtain ⟨_, items, popped, rfl, rfl⟩ := taken
  exact Fifo.toList_of_pop? popped

end Mailbox

end SshServer
