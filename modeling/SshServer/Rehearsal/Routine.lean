import SshServer.Rehearsal.SessionScript
import SshServer.Text.Json

/-!
Contract: routines, the programs that sessions run in a rehearsal.

Owns: what every routine does with its session, step by step.
Does not own: when a routine is started (`Rehearsal.Actor`).

Of the operations that a routine uses only those on streams, the taking of events and the wait for
the close of the session can make it wait.
-/

namespace SshServer.Rehearsal

/-- A program of a session. -/
inductive Routine where
  | describe
  | echo
  | lines (out err : String)
  | fatal (err : String)
  | exit (status : UInt32)
  | close
  | panic
  | windows (count : Nat)
  | signals (count : Nat)
  | bulk (count : Nat)
  | hold
  | untilClosed
  | print (text : String)
  | return
deriving DecidableEq, Repr

inductive Play where
  | absent
  | starting (routine : Routine)
  /-- An operation is under way; afterwards the output is ended, or nothing is left to do. -/
  | busy (task : SessionTask) (thenShutdown : Bool)
  | sizes (receiver left : Nat)
  | signals (receiver left : Nat)
  | holding
  | finished

namespace Routine

def panicText : String := "scripted"

/-- The number under which a routine reads and writes. Nobody else does. -/
def agent : Nat := 0

def sizeText (size : WindowSize) : String :=
  Text.Json.list [toString size.width.toNat, toString size.height.toNat]

def terminalText (terminal : Terminal) : String :=
  Text.Json.object
    [("term", Text.Json.string terminal.term), ("window", sizeText terminal.window),
     ("modes", Text.Json.list (terminal.modes.map fun (code, argument) =>
       Text.Json.list [toString code.toNat, toString argument.toNat]))]

def description (session : Session) : String :=
  let state := session.state
  Text.Json.object
    [("user", Text.Json.string session.context.user),
     ("conn_id", toString session.context.connectionId),
     ("key_type", Text.Json.optional (fun key => Text.Json.string key.keyType)
       session.context.publicKey),
     ("command", Text.Json.list (state.command.map Text.Json.string)),
     ("raw_command", Text.Json.optional Text.Json.string state.rawCommand),
     ("subsystem", Text.Json.optional Text.Json.string state.subsystem),
     ("env", Text.Json.object (state.env.map fun (name, value) => (name, Text.Json.string value))),
     ("is_pty", toString state.terminal.isSome),
     ("pty", Text.Json.optional terminalText state.terminal),
     ("window", sizeText state.window)]

/-- The bytes that a routine writes in bulk. -/
def filler (count : Nat) : ByteArray :=
  ⟨Array.replicate count 0x7A⟩

end Routine

namespace Play

def finish (session : Session) : Session × Play :=
  (session.endHandler .returned, .finished)

/-- The first step of a routine. -/
def begin (session : Session) : Routine → Session × Play
  | .describe => finish (session.print none (Routine.description session))
  | .echo => (session, .busy (.echo {}) true)
  | .lines out err =>
    finish ((session.print none (out ++ Session.lineEnd)).print (some standardError)
      (err ++ Session.lineEnd))
  | .fatal err => finish (session.fatal (err ++ Session.lineEnd))
  | .exit status => finish (session.exit status).1
  | .close => finish session.close.1
  | .panic => (session.endHandler (.panicked Routine.panicText), .finished)
  | .windows count =>
    match session.takeTerminal with
    | (session, _, some receiver) => (session, .sizes receiver count)
    | (session, _, none) => finish session
  | .signals count =>
    let (session, receiver) := session.registerSignals 1
    (session, .signals receiver count)
  | .bulk count => (session, .busy (.writeAll none (Routine.filler count)) false)
  | .hold => (session, .holding)
  | .untilClosed => (session, .busy .untilClosed false)
  | .print text => finish (session.print none text)
  | .return => finish session

/-- One step of a routine; none where it waits or is over. -/
def step? (session : Session) : Play → Option (Session × Play)
  | .absent | .holding | .finished => none
  | .starting routine => some (begin session routine)
  | .busy task thenShutdown =>
    if task.ready Routine.agent session then
      match task.proceed Routine.agent session with
      | (session, .waits task) => some (session, .busy task thenShutdown)
      | (session, .finished _) =>
        if thenShutdown then some (session, .busy .shutdown false) else some (finish session)
    else none
  | .sizes receiver left =>
    match left with
    | 0 => some (finish session)
    | left + 1 =>
      match session.takeWindow? receiver with
      | some (size, session) =>
        let text := toString size.width.toNat ++ "x" ++ toString size.height.toNat ++ ";"
        some (session.print none text, .sizes receiver left)
      | none => if session.feedsWindows receiver then none else some (finish session)
  | .signals receiver left =>
    match left with
    | 0 => some (finish session)
    | left + 1 =>
      match session.takeSignal? receiver with
      | some (signal, session) =>
        some (session.print none (signal.name ++ ";"), .signals receiver left)
      | none => if session.feedsSignals receiver then none else some (finish session)

end Play

end SshServer.Rehearsal
