import SshServer.Channel.Basic
import SshServer.Channel.Opening
import SshServer.Identity
import SshServer.Terminal

/-!
Contract: what is seen of a rehearsal.

Owns: the observations that a step can make, and the record of one step.
Does not own: how an observation is printed.

A rehearsal plays a script against the library: the script acts for the peer, for the code of the
handlers, or for both, and after each of its steps everything that can go on does so.
-/

namespace SshServer.Rehearsal

inductive Remark where
  | ok | started | blocked | unavailable | nothing | gone | accepted | hungUp | empty | ended
  | closed | pending | running | noSession | notServed | queued | limit | eof
deriving DecidableEq, Repr

inductive Outcome where
  | remark (remark : Remark)
  | flag (value : Bool)
  | bytes (content : ByteArray)
  | text (content : String)
  | maybeText (content : Option String)
  | names (list : List String)
  | written (count : Nat)
  | failed (cause : Failure)
  | ioFailed (cause : IoFailure)
  | message (message : Message)
  /-- The messages that were there, and why there were no more. -/
  | messages (list : List Message) (ending : Remark)
  /-- The bytes that were there, and why there were no more. -/
  | portion (content : ByteArray) (ending : Remark)
  | rejected (rejection : Rejection)
  /-- A channel before the decision about it. -/
  | offered (channelType : String) (extra : ByteArray)
  | serving (channelType : String)
  | request (request : Request)
  /-- A split transport, and whether it can still send input. -/
  | halves (input : Bool)
  | window (size : WindowSize)
  /-- The terminal that was granted, whether its window receiver was handed out, and whether there
  is a terminal at all. -/
  | terminal (terminal : Option Terminal) (receiver : Bool)
  /-- What a session shows of itself. -/
  | session (context : Context) (window : WindowSize) (command : List String)
      (rawCommand : Option String) (subsystem : Option String) (env : List (String × String))
      (closed : Bool)

namespace Outcome

def ok : Outcome := .remark .ok
def started : Outcome := .remark .started
def blocked : Outcome := .remark .blocked
def unavailable : Outcome := .remark .unavailable
def nothing : Outcome := .remark .nothing

/-- The outcome of an operation that succeeds without a value. -/
def ofUnit : Except Failure Unit → Outcome
  | .ok () => .ok
  | .error cause => .failed cause

def ofWritten : Except Failure Nat → Outcome
  | .ok count => .written count
  | .error cause => .failed cause

/-- The outcome of a stream operation that succeeds without a value. -/
def ofIoUnit : Except IoFailure Unit → Outcome
  | .ok () => .ok
  | .error cause => .ioFailed cause

def ofIoWritten : Except IoFailure Nat → Outcome
  | .ok count => .written count
  | .error cause => .ioFailed cause

end Outcome

structure Entry where
  result : Outcome
  /-- Operations that finished during the step, each with its outcome. -/
  done : List (Nat × Outcome) := []
  /-- Operations that still wait, each with the number of repetitions that it has finished. -/
  pending : List (Nat × Nat) := []
  /-- What the library remarked during the step. -/
  log : List String := []

end SshServer.Rehearsal
