import SshServer.Channel.Credit
import SshServer.Channel.Message
import SshServer.Failure
import SshServer.Fifo

/-!
Contract: the output of an accepted channel, from its writers to the transport.

Owns: the messages under way with the credit each one holds, the sends and polls that wait for
credit, the closing of the channel by a writer, and the transport's leaving.
Does not own: the exit of a session, which is more than a close (`Session.Basic`).

Data is metered: it takes credit from the output window, which comes back when the transport takes
the message. Control messages are free. Of two faults the close of the channel is reported before
the absence of the transport, and both before the lack of room.
-/

namespace SshServer

/-- A poll that waits for credit: how much it asked for, and its place in the order. -/
structure PollWait where
  amount : Nat
  ticket : Nat
deriving DecidableEq, Repr

/-- The output of an accepted channel. -/
structure Outbox where
  /-- Messages under way, each with the credit that it holds. -/
  queue : Fifo (Message × Nat) := .empty
  credit : Credit := ⟨outputWindow, [], [], false⟩
  closed : Bool := false
  attached : Bool := true
  writers : Nat := 1
  nextTicket : Nat := 0
  /-- The sends that wait for credit, by ticket. -/
  sends : List (Nat × Message) := []
  /-- The polls that wait for credit, by polling writer. -/
  polls : List (Nat × PollWait) := []
deriving DecidableEq

namespace Outbox

inductive Sending where
  | done (result : Except Failure Unit)
  | waiting (ticket : Nat)

/-- How a poll fared. A poll that is ready says how many bytes it took. -/
inductive Polling where
  | ready (result : Except IoFailure Nat)
  | pending

/-- Queues a message with the credit that it holds. -/
def push (box : Outbox) (message : Message) (credit : Nat) : Outbox × Except Failure Unit :=
  if box.closed then (box, .error .streamClosed)
  else if box.attached then
    ({ box with queue := box.queue.push (message, credit) }, .ok ())
  else (box, .error .peerHangup)

/-- Begins to send a metered message. -/
def send (box : Outbox) (message : Message) : Outbox × Sending :=
  if box.closed then (box, .done (.error .streamClosed))
  else
    match box.credit.acquire box.nextTicket message.cost with
    | (_, .closed) => (box, .done (.error .peerHangup))
    | (credit, .granted) =>
      let (box, result) := { box with credit }.push message message.cost
      (box, .done result)
    | (credit, .waiting) =>
      ({ box with
          credit
          nextTicket := box.nextTicket + 1
          sends := box.sends ++ [(box.nextTicket, message)] }, .waiting box.nextTicket)

def forgetSend (box : Outbox) (ticket : Nat) : Outbox :=
  { box with sends := box.sends.filter fun entry => entry.1 != ticket }

/-- Lets a send that waited go on. Credit that was granted is spent even where the channel was
closed in the meantime. -/
def resume (box : Outbox) (ticket : Nat) : Outbox × Sending :=
  match box.sends.lookup ticket with
  | none => (box, .waiting ticket)
  | some message =>
    match box.credit.resume ticket with
    | (_, .waiting) => (box, .waiting ticket)
    | (credit, .closed) => ({ box.forgetSend ticket with credit }, .done (.error .peerHangup))
    | (credit, .granted) =>
      let (box, result) := { box.forgetSend ticket with credit }.push message message.cost
      (box, .done result)

/-- A send that waits is given up, and its credit returned. -/
def cancel (box : Outbox) (ticket : Nat) : Outbox :=
  { box.forgetSend ticket with credit := box.credit.cancel ticket }

/-- Sends a metered message only if that is possible at once. -/
def trySend (box : Outbox) (message : Message) : Outbox × Except Failure Unit :=
  if box.closed then (box, .error .streamClosed)
  else
    match box.credit.tryAcquire message.cost with
    | (_, .closed) => (box, .error .peerHangup)
    | (_, .waiting) => (box, .error .wouldBlock)
    | (credit, .granted) => { box with credit }.push message message.cost

def eof (box : Outbox) : Outbox × Except Failure Unit :=
  box.push .eof 0

def exitStatus (box : Outbox) (status : UInt32) : Outbox × Except Failure Unit :=
  box.push (.exitStatus status) 0

/-- Closes the channel. The first close counts, also where the transport is gone and it fails. -/
def close (box : Outbox) : Outbox × Except Failure Unit :=
  if box.closed then (box, .error .streamClosed)
  else if box.attached then
    ({ box with closed := true, queue := box.queue.push (.close, 0) }, .ok ())
  else ({ box with closed := true }, .error .peerHangup)

/-- The transport takes a message, and its credit comes back. -/
def take? (box : Outbox) : Option (Message × Outbox) :=
  box.queue.pop?.map fun ((message, credit), queue) =>
    (message, { box with queue, credit := box.credit.release credit })

/-- The transport goes away, and nothing that waits for credit will have it. -/
def detach (box : Outbox) : Outbox :=
  { box with attached := false, queue := .empty, credit := box.credit.close }

/-- Whether the transport has taken everything that will ever be sent. -/
def ended (box : Outbox) : Bool :=
  box.queue.isEmpty && box.writers == 0

def addWriter (box : Outbox) : Outbox :=
  { box with writers := box.writers + 1 }

def dropWriter (box : Outbox) : Outbox :=
  { box with writers := box.writers - 1 }

/-! ### Polled writes -/

def forgetPoll (box : Outbox) (writer : Nat) : Outbox :=
  { box with polls := box.polls.filter fun entry => entry.1 != writer }

/-- Gives up the wait of a polling writer, if it waits, and returns its credit. -/
def dropPoll (box : Outbox) (writer : Nat) : Outbox :=
  match box.polls.lookup writer with
  | none => box
  | some wait => { box.forgetPoll writer with credit := box.credit.cancel wait.ticket }

/-- Asks for credit on behalf of a polling writer, which keeps its place only while it asks for the
same amount. -/
def pollCredit (box : Outbox) (writer amount : Nat) : Outbox × Credit.Acquired :=
  match box.polls.lookup writer with
  | some wait =>
    if wait.amount = amount then
      match box.credit.resume wait.ticket with
      | (_, .waiting) => (box, .waiting)
      | (credit, acquired) => ({ box.forgetPoll writer with credit }, acquired)
    else askAnew (box.dropPoll writer)
  | none => askAnew box
where
  /-- Asks for credit behind everybody who waits. -/
  askAnew (box : Outbox) : Outbox × Credit.Acquired :=
    match box.credit.acquire box.nextTicket amount with
    | (credit, .waiting) =>
      ({ box with
          credit
          nextTicket := box.nextTicket + 1
          polls := box.polls ++ [(writer, ⟨amount, box.nextTicket⟩)] }, .waiting)
    | (credit, acquired) => ({ box with credit }, acquired)

/-- One poll of a writer with the rest of what it writes: takes at most a window's worth. -/
def pollWrite (box : Outbox) (writer : Nat) (code : Option UInt32) (content : ByteArray) :
    Outbox × Polling :=
  if content.size = 0 then (box, .ready (.ok 0))
  else if box.closed then (box, .ready (.error (Failure.toIo .streamClosed)))
  else
    let amount := min content.size outputWindow
    match box.pollCredit writer amount with
    | (box, .waiting) => (box, .pending)
    | (box, .closed) => (box, .ready (.error (Failure.toIo .peerHangup)))
    | (box, .granted) =>
      let (box, result) := box.push (.ofStream code (content.extract 0 amount)) amount
      (box, .ready ((result.map fun _ => amount).mapError Failure.toIo))

end Outbox

end SshServer
