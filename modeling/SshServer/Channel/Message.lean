import SshServer.Bytes

/-!
Contract: what the server sends on a channel.

Owns: the messages of a channel in the direction to the peer, the size of the output window, and the
credit that a message takes from it.
Does not own: the window itself (`Channel.Credit`) and the queue of messages (`Channel.Outbox`).
-/

namespace SshServer

/-- Bytes that a channel queues for its peer before writers wait. -/
def outputWindow : Nat := 262144

/-- The type code of extended data that carries standard error. -/
def standardError : UInt32 := 1

inductive Message where
  | data (content : ByteArray)
  /-- Data of a stream of its own, told apart by a type code. -/
  | extended (code : UInt32) (content : ByteArray)
  | eof
  | exitStatus (status : UInt32)
  | close
deriving DecidableEq

namespace Message

def content : Message → ByteArray
  | .data content => content
  | .extended _ content => content
  | _ => ByteArray.empty

/-- A message of the given stream: plain data, or extended data where a code is given. -/
def ofStream (code : Option UInt32) (content : ByteArray) : Message :=
  match code with
  | none => .data content
  | some code => .extended code content

/-- The credit that a message takes: its length, but never more than the whole window, so that a
message of any length can be sent. -/
def cost (message : Message) : Nat :=
  min message.content.size outputWindow

theorem cost_le (message : Message) : message.cost ≤ outputWindow :=
  Nat.min_le_right _ _

end Message

end SshServer
