import SshServer.Channel.Basic

/-!
Contract: a channel as a stream of bytes in either direction.

Owns: reading to the end, writing all of a text, and copying the input to the output, each as an
operation that can stop and go on.
Does not own: single reads and polls (`Channel.Inlet`, `Channel.Outbox`).

Every operation says whether it is over or what it goes on with.
-/

namespace SshServer

/-- Where an operation on a stream is. -/
inductive Progress (σ α : Type) where
  | waiting (state : σ)
  | finished (result : α)

namespace Inlet

/-- Reads portions until the input ends, adding them to what was read before. -/
def readAll (reader : Nat) : (portions : Nat) → ByteArray → Inlet → Inlet × Progress ByteArray ByteArray
  | 0, soFar, inlet => (inlet.await reader, .waiting soFar)
  | portions + 1, soFar, inlet =>
    match inlet.read reader inputBuffer with
    | (inlet, .got content) => readAll reader portions (soFar ++ content) inlet
    | (inlet, .ended) => (inlet, .finished soFar)
    | (inlet, .waiting) => (inlet, .waiting soFar)

/-- No input that can be waiting has more portions than this. -/
def portions (inlet : Inlet) : Nat :=
  bytesIn inlet.box.items.toList + inlet.rest.size + 1

end Inlet

namespace Outbox

/-- Writes what is left of a text, a window's worth at a time. -/
def writeAll (writer : Nat) (code : Option UInt32) :
    (polls : Nat) → ByteArray → Outbox → Outbox × Progress ByteArray (Except IoFailure Unit)
  | 0, rest, box => (box, .waiting rest)
  | polls + 1, rest, box =>
    if rest.size = 0 then (box, .finished (.ok ()))
    else
      match box.pollWrite writer code rest with
      | (box, .pending) => (box, .waiting rest)
      | (box, .ready (.error cause)) => (box, .finished (.error cause))
      | (box, .ready (.ok count)) =>
        writeAll writer code polls (rest.extract count rest.size) box

/-- No text takes more polls than this. -/
def pollsFor (content : ByteArray) : Nat :=
  content.size / outputWindow + 2

end Outbox

/-- A copy under way. -/
structure Copying where
  /-- What was read and has not been written. -/
  unwritten : ByteArray := ByteArray.empty
  /-- How much of the buffer was filled since it was last empty. -/
  filled : Nat := 0
  ended : Bool := false
  total : Nat := 0
deriving DecidableEq

namespace Copying

def bufferSize : Nat := 8192

def hasRoom (copy : Copying) : Bool :=
  copy.filled < bufferSize && !copy.ended

/-- Reads one portion into the buffer, if there is room. -/
def fill (copy : Copying) (reader : Nat) (inlet : Inlet) : Inlet × Copying :=
  if copy.hasRoom then
    match inlet.read reader (bufferSize - copy.filled) with
    | (inlet, .got content) =>
      (inlet,
        { copy with
            unwritten := copy.unwritten ++ content
            filled := copy.filled + content.size })
    | (inlet, .ended) => (inlet, { copy with ended := true })
    | (inlet, .waiting) => (inlet, copy)
  else (inlet, copy)

/-- Writes out the buffer. While the window is full the buffer is topped up instead. -/
def drain (agent : Nat) (code : Option UInt32) :
    (polls : Nat) → Copying → Channel → Channel × Progress Copying (Except IoFailure Copying)
  | 0, copy, channel => (channel, .waiting copy)
  | polls + 1, copy, channel =>
    if copy.unwritten.size = 0 then (channel, .finished (.ok { copy with filled := 0 }))
    else
      match channel.output.pollWrite agent code copy.unwritten with
      | (output, .pending) =>
        let (input, copy) := copy.fill agent channel.input
        ({ channel with input, output }, .waiting copy)
      | (output, .ready (.error cause)) => ({ channel with output }, .finished (.error cause))
      | (output, .ready (.ok count)) =>
        drain agent code polls
          { copy with
              unwritten := copy.unwritten.extract count copy.unwritten.size
              total := copy.total + count }
          { channel with output }

/-- Copies the input to a stream of the output until the input ends; `rounds` bounds how often the
buffer is filled. -/
def copyWithin (agent : Nat) (code : Option UInt32) :
    (rounds : Nat) → Copying → Channel → Channel × Progress Copying (Except IoFailure Nat)
  | 0, copy, channel => (channel, .waiting copy)
  | rounds + 1, copy, channel =>
    let (input, copy) := copy.fill agent channel.input
    let channel := { channel with input }
    if copy.unwritten.size = 0 && !copy.ended then (channel, .waiting copy)
    else
      match drain agent code (Outbox.pollsFor copy.unwritten) copy channel with
      | (channel, .waiting copy) => (channel, .waiting copy)
      | (channel, .finished (.error cause)) => (channel, .finished (.error cause))
      | (channel, .finished (.ok copy)) =>
        if copy.ended then (channel, .finished (.ok copy.total))
        else copyWithin agent code rounds copy channel

/-- Goes on with a copy for as long as that is possible. -/
def run (agent : Nat) (code : Option UInt32) (copy : Copying) (channel : Channel) :
    Channel × Progress Copying (Except IoFailure Nat) :=
  copyWithin agent code (channel.input.portions + 1) copy
    { channel with input := channel.input.attend agent }

end Copying

end SshServer
