import SshServer.Channel.Basic
import SshServer.Identity
import SshServer.Session.State
import SshServer.Text.Quoted

/-!
Contract: a session on an accepted channel, and what its handler can do with it.

Owns: the session with its channel, its receivers and the state of its request loop and handler; the
operations that a handler has; and the end of a session by exit or close.
Does not own: the request loop (`Session.RequestLoop`).

Of the exits and closes of a session the first one counts. It queues the exit status, if any, and
the close as one step, so nothing comes between them.
-/

namespace SshServer

/-- An event on its way to the consumer that was attached when it was taken up. -/
inductive Handover where
  | window (consumer : Nat) (size : WindowSize)
  | signal (consumer : Nat) (signal : Signal)
deriving DecidableEq

/-- What the loop hands over: window sizes until none is left for it, and signals after them. -/
inductive FlushStage where
  | windows
  | signals
deriving DecidableEq

/-- The stage in which an event is handed over. -/
def Handover.stage : Handover → FlushStage
  | .window _ _ => .windows
  | .signal _ _ => .signals

/-- Where the request loop of a session is. -/
inductive LoopPhase where
  | parked
  /-- It hands over events, before it answers the request that it holds, if it holds one. -/
  | flushing (stage : FlushStage) (request : Option (Request × Bool))
  /-- It waits for a consumer to take an event. -/
  | handing (event : Handover) (request : Option (Request × Bool))
  | draining
  | finished
  | cancelled
deriving DecidableEq

inductive HandlerPhase where
  | idle
  | running (program : Program)
  | finished
deriving DecidableEq

structure Session where
  context : Context
  subsystems : List String := []
  channel : Channel
  state : SessionState := {}
  /-- Whether the session exited, was closed or lost its peer. -/
  closed : Bool := false
  /-- Whether a consumer was attached since the loop last looked. -/
  notice : Bool := false
  /-- Receivers of window sizes, numbered in the order in which they were made. -/
  windowReceivers : List (Receiver WindowSize) := []
  /-- Receivers of signals, numbered in the order in which they were registered. -/
  signalReceivers : List (Receiver Signal) := []
  phase : LoopPhase := .parked
  handler : HandlerPhase := .idle
  log : List LogEntry := []
deriving DecidableEq

namespace Session

/-! ### Identity and state -/

def describe (session : Session) : String :=
  let window (size : WindowSize) : String :=
    Text.record "Window"
      [("width", toString size.width.toNat), ("height", toString size.height.toNat)]
  let mode (entry : UInt8 × UInt32) : String :=
    "(" ++ toString entry.1.toNat ++ ", " ++ toString entry.2.toNat ++ ")"
  let terminal (terminal : Terminal) : String :=
    Text.record "Pty"
      [("term", Text.quoted terminal.term), ("window", window terminal.window),
       ("modes", Text.listed (terminal.modes.map mode))]
  Text.record "Session"
    [("user", Text.quoted session.context.user),
     ("remote_addr", session.context.remoteAddress.text),
     ("pty", Text.optional terminal session.state.terminal),
     ("raw_command", Text.optional Text.quoted session.state.rawCommand),
     ("exited", toString session.state.exited)]

/-! ### Receivers -/

/-- The terminal with the receiver of its sizes, which is handed out once. -/
def takeTerminal (session : Session) : Session × Option Terminal × Option Nat :=
  match session.state.terminal with
  | none => (session, none, none)
  | some terminal =>
    if session.state.windowsClaimed then (session, some terminal, none)
    else
      let number := session.windowReceivers.length
      ({ session with
          state :=
            { session.state with
                windowsClaimed := true
                windows := session.state.windows.attach number }
          windowReceivers := session.windowReceivers ++ [{ capacity := 1 }]
          notice := true }, some terminal, some number)

/-- Registers a receiver of signals in place of any other, and returns its number. -/
def registerSignals (session : Session) (capacity : Nat) : Session × Nat :=
  let number := session.signalReceivers.length
  ({ session with
      state := { session.state with signals := session.state.signals.attach number }
      signalReceivers := session.signalReceivers ++ [{ capacity }]
      notice := true }, number)

/-- Registers a receiver of signals that was made before, in place of any other. -/
def reregisterSignals (session : Session) (number : Nat) : Session :=
  if number < session.signalReceivers.length then
    { session with
        state := { session.state with signals := session.state.signals.attach number }
        notice := true }
  else session

/-- Whether the session can still hand a window size to a receiver. -/
def feedsWindows (session : Session) (number : Nat) : Bool :=
  session.state.windows.consumer == some number ||
    match session.phase with
    | .handing (.window consumer _) _ => consumer == number
    | _ => false

/-- Whether the session can still hand a signal to a receiver. -/
def feedsSignals (session : Session) (number : Nat) : Bool :=
  session.state.signals.consumer == some number ||
    match session.phase with
    | .handing (.signal consumer _) _ => consumer == number
    | _ => false

def takeWindow? (session : Session) (number : Nat) : Option (WindowSize × Session) := do
  let receiver ← session.windowReceivers[number]?
  let (size, receiver) ← receiver.take?
  return (size, { session with windowReceivers := session.windowReceivers.set number receiver })

def takeSignal? (session : Session) (number : Nat) : Option (Signal × Session) := do
  let receiver ← session.signalReceivers[number]?
  let (signal, receiver) ← receiver.take?
  return (signal, { session with signalReceivers := session.signalReceivers.set number receiver })

def dropWindows (session : Session) (number : Nat) : Session :=
  { session with windowReceivers := session.windowReceivers.modify number Receiver.drop }

def dropSignals (session : Session) (number : Nat) : Session :=
  { session with signalReceivers := session.signalReceivers.modify number Receiver.drop }

/-! ### Output -/

/-- Does something with the output of the session. -/
def onOutput {ρ : Type} (session : Session) (act : Outbox → Outbox × ρ) : Session × ρ :=
  let (output, result) := act session.channel.output
  ({ session with channel := { session.channel with output } }, result)

/-- Does something with the input of the session. -/
def onInput {ρ : Type} (session : Session) (act : Inlet → Inlet × ρ) : Session × ρ :=
  let (input, result) := act session.channel.input
  ({ session with channel := { session.channel with input } }, result)

/-- Writes to one of the streams without waiting: plain output, or extended data of a code. -/
def write (session : Session) (code : Option UInt32) (content : ByteArray) :
    Session × Except Failure Nat :=
  let (session, result) := session.onOutput fun output => output.trySend (.ofStream code content)
  (session, result.map fun _ => content.size)

/-- Ends the standard output. An output that is closed already counts as ended. -/
def shutdown (session : Session) : Session × Except IoFailure Unit :=
  let (session, result) := session.onOutput Outbox.eof
  (session,
    match result with
    | .ok () | .error .streamClosed => .ok ()
    | .error cause => .error cause.toIo)

/-! ### End -/

/-- Sends the exit status and closes the channel. -/
def exit (session : Session) (status : UInt32) : Session × Except Failure Unit :=
  if session.state.exited || session.channel.output.closed then (session, .error .streamClosed)
  else
    let (session, sent) := session.onOutput fun output => output.exitStatus status
    let (session, shut) := session.onOutput Outbox.close
    ({ session with state := { session.state with exited := true }, closed := true },
      sent.bind fun _ => shut)

def close (session : Session) : Session × Except Failure Unit :=
  let (session, shut) := session.onOutput Outbox.close
  ({ session with state := { session.state with exited := true }, closed := true }, shut)

/-- Ends the feeds: receivers end once they are drained, and no event is queued any more. -/
def terminate (session : Session) : Session :=
  { session with
      state :=
        { session.state with
            windows := session.state.windows.close
            signals := session.state.signals.close }
      closed := true }

/-- Closes the channel if nothing else did. -/
def release (session : Session) : Session :=
  (session.onOutput Outbox.close).1

/-! ### Printing -/

def lineEnd : String := "\x0d\n"

/-- Prints to a stream. What does not fit is lost. -/
def print (session : Session) (code : Option UInt32) (text : String) : Session :=
  (session.write code text.toUTF8).1

/-- Prints to standard error and exits with status one. -/
def fatal (session : Session) (text : String) : Session :=
  ((session.print (some standardError) text).exit 1).1

end Session

end SshServer
