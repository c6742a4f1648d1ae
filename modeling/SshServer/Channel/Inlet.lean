import SshServer.Bytes
import SshServer.Channel.Mailbox

/-!
Contract: the input of an accepted channel, from the transport to whoever reads it.

Owns: the chunks under way, the unread part of a chunk, reading by the chunk and by the byte, and
the one reader that is told when input arrives.
Does not own: how many bytes a reader wants, and what it does with them.

Any number of readers may wait, but only the last of them that found nothing is told when something
arrives or the input ends.
-/

namespace SshServer

/-- Chunks of input that a channel holds before the transport waits. -/
def inputBuffer : Nat := 1024

structure Inlet where
  box : Mailbox ByteArray := { capacity := inputBuffer }
  /-- What is left of a chunk that was read in part. -/
  rest : ByteArray := ByteArray.empty
  /-- The reader that will be told of the next arrival. -/
  waker : Option Nat := none
  /-- Readers that were told and have not read since. -/
  woken : List Nat := []
deriving DecidableEq

namespace Inlet

inductive Reading where
  | got (content : ByteArray)
  | ended
  | waiting
deriving DecidableEq

/-- Tells the reader that waits, if there is something to tell. -/
def notify (inlet : Inlet) : Inlet :=
  match inlet.waker with
  | none => inlet
  | some reader =>
    if inlet.box.items.isEmpty && inlet.box.senders != 0 then inlet
    else { inlet with waker := none, woken := inlet.woken ++ [reader] }

def offer (inlet : Inlet) (sender : Nat) (chunk : ByteArray) : Inlet × Mailbox.Sent :=
  let (box, sent) := inlet.box.offer sender chunk
  (notify { inlet with box }, sent)

def retry (inlet : Inlet) (sender : Nat) : Inlet × Mailbox.Sent :=
  let (box, sent) := inlet.box.retry sender
  (notify { inlet with box }, sent)

def withdraw (inlet : Inlet) (sender : Nat) : Inlet :=
  { inlet with box := inlet.box.withdraw sender }

def addSender (inlet : Inlet) : Inlet :=
  { inlet with box := inlet.box.addSender }

/-- One handle to send with is gone; without any the input ends. -/
def dropSender (inlet : Inlet) : Inlet :=
  notify { inlet with box := inlet.box.dropSender }

def detach (inlet : Inlet) : Inlet :=
  { inlet with box := inlet.box.detach, rest := ByteArray.empty }

/-- A reader that was told looks at the input. -/
def attend (inlet : Inlet) (reader : Nat) : Inlet :=
  { inlet with woken := inlet.woken.erase reader }

/-- A reader that found nothing: it is the one to be told, in place of any other. -/
def await (inlet : Inlet) (reader : Nat) : Inlet :=
  { inlet with waker := some reader }

/-- Takes the unread part of a chunk or else the next chunk, if there is one. -/
def take? (inlet : Inlet) : Option (ByteArray × Inlet) :=
  if inlet.rest.size = 0 then
    inlet.box.take?.map fun (chunk, box) => (chunk, { inlet with box })
  else some (inlet.rest, { inlet with rest := ByteArray.empty })

/-- Receives the unread part of a chunk or else the next chunk, which may be empty. -/
def receive (inlet : Inlet) (reader : Nat) : Inlet × Reading :=
  let inlet := inlet.attend reader
  match inlet.take? with
  | some (chunk, inlet) => (inlet, .got chunk)
  | none => if inlet.box.ended then (inlet, .ended) else (inlet.await reader, .waiting)

/-- Makes the next chunk that is not empty the one that is read from. -/
def advance : (chunks : Nat) → Inlet → Inlet
  | 0, inlet => inlet
  | chunks + 1, inlet =>
    if inlet.rest.size = 0 then
      match inlet.box.take? with
      | some (chunk, box) => advance chunks { inlet with box, rest := chunk }
      | none => inlet
    else inlet

/-- Reads at most `count` bytes of one chunk. Only the end of the input reads as the end. -/
def read (inlet : Inlet) (reader count : Nat) : Inlet × Reading :=
  let inlet := (inlet.attend reader).advance inlet.box.items.length
  if inlet.rest.size = 0 then
    if inlet.box.ended then (inlet, .ended) else (inlet.await reader, .waiting)
  else
    ({ inlet with rest := inlet.rest.extract count inlet.rest.size },
      .got (inlet.rest.extract 0 count))

end Inlet

end SshServer
