import SshServer.Log
import SshServer.Session.Feed
import SshServer.Terminal
import SshServer.Text.Blank
import SshServer.Wire.Payload

/-!
Contract: what a session knows, and what it makes of each request.

Owns: the terminal, the window, the environment and the command of a session, the events that wait
to be handed over, and the verdict on a request of any type with any payload.
Does not own: the order in which requests are taken, and the handing over of events
(`Session.RequestLoop`).

A request that is refused leaves what the session knows as it was.
-/

namespace SshServer

/-- Which handler a session starts. -/
inductive Program where
  | main
  | subsystem (name : String)
deriving DecidableEq, Repr

structure SessionState where
  terminal : Option Terminal := none
  /-- The size of the window now. -/
  window : WindowSize := default
  windows : Feed WindowSize := {}
  /-- Whether the receiver of window sizes was handed out. -/
  windowsClaimed : Bool := false
  signals : Feed Signal := {}
  /-- Variables in the order in which they were first set. -/
  env : List (String × String) := []
  rawCommand : Option String := none
  subsystem : Option String := none
  started : Bool := false
  /-- Whether the session exited or was closed by a handler. -/
  exited : Bool := false
deriving DecidableEq

/-- What becomes of a request. -/
structure Verdict where
  answer : Bool
  start : Option Program := none
  /-- Whether events are to be handed over before the answer. -/
  flush : Bool := false
  log : List LogEntry := []
deriving DecidableEq

namespace Verdict

def refused (remark : LogEntry) : Verdict :=
  { answer := false, log := [remark] }

/-- The refusal of a payload that cannot be decoded. -/
def malformed (cause : WireFailure) : Verdict :=
  refused (.requestRejected (.malformedPayload cause))

/-- The refusal of a request that was granted before. -/
def repeated (kind : String) : Verdict :=
  refused (.requestRejected (.duplicateRequest kind))

end Verdict

namespace SessionState

open Wire

/-- Sets a variable; the last value of a name counts. -/
def setEnv (name value : String) : List (String × String) → List (String × String)
  | [] => [(name, value)]
  | (other, old) :: rest =>
    if other = name then (name, value) :: rest else (other, old) :: setEnv name value rest

def envValue (state : SessionState) (name : String) : Option String :=
  state.env.lookup name

/-- The command split into words; a shell has none. -/
def command (state : SessionState) : List String :=
  match state.rawCommand with
  | none => []
  | some raw => Text.words raw

/-- Grants a terminal, once. -/
def judgePty (state : SessionState) (payload : List UInt8) : SessionState × Verdict :=
  match PtyRequest.format.decodeAll payload with
  | .error cause => (state, .malformed cause)
  | .ok request =>
    if state.terminal.isSome then (state, .repeated "pty-req")
    else
      let window : WindowSize := ⟨request.width, request.height⟩
      ({ state with
          terminal := some ⟨request.term, window, request.modes⟩
          window
          windows := (state.windows.push window).1 }, { answer := true })

/-- Resizes the terminal. A full backlog loses the event but not the size. -/
def judgeResize (state : SessionState) (payload : List UInt8) : SessionState × Verdict :=
  match WindowChange.format.decodeAll payload with
  | .error cause => (state, .malformed cause)
  | .ok change =>
    if state.terminal.isNone then (state, .refused .resizeWithoutTerminal)
    else
      let window : WindowSize := ⟨change.width, change.height⟩
      let (windows, kept) := state.windows.push window
      ({ state with window, windows },
        { answer := true, flush := true, log := if kept then [] else [.resizeDropped] })

/-- Accepts a signal. The answer says nothing of its fate. -/
def judgeSignal (state : SessionState) (payload : List UInt8) : SessionState × Verdict :=
  match SignalRequest.format.decodeAll payload with
  | .error cause => (state, { Verdict.malformed cause with answer := true })
  | .ok request =>
    match Signal.ofName? request.name with
    | none => (state, { answer := true, log := [.signalIgnored request.name] })
    | some signal =>
      let (signals, kept) := state.signals.push signal
      if kept then ({ state with signals }, { answer := true, flush := true })
      else (state, { answer := true, log := [.signalDropped signal] })

def judgeEnv (state : SessionState) (payload : List UInt8) : SessionState × Verdict :=
  match EnvRequest.format.decodeAll payload with
  | .error cause => (state, .malformed cause)
  | .ok request =>
    ({ state with env := setEnv request.name request.value state.env }, { answer := true })

def start (state : SessionState) (program : Program) : SessionState × Verdict :=
  ({ state with started := true }, { answer := true, start := some program })

/-- Judges a request to start a handler, of which one is granted in all. -/
def judgeStart (state : SessionState) (subsystems : List String) (kind : String)
    (payload : List UInt8) : SessionState × Verdict :=
  if state.started then (state, .repeated kind)
  else if kind = "exec" then
    match ExecRequest.format.decodeAll payload with
    | .error cause => (state, .malformed cause)
    | .ok request => start { state with rawCommand := some request.command } .main
  else if kind = "subsystem" then
    match SubsystemRequest.format.decodeAll payload with
    | .error cause => (state, .malformed cause)
    | .ok request =>
      if subsystems.contains request.name then
        start { state with subsystem := some request.name } (.subsystem request.name)
      else (state, .refused (.subsystemUnknown request.name))
  else start state .main

/-- Judges a request of any type; `subsystems` are the names that are served. -/
def judge (state : SessionState) (subsystems : List String) (kind : String)
    (payload : List UInt8) : SessionState × Verdict :=
  match kind with
  | "pty-req" => state.judgePty payload
  | "window-change" => state.judgeResize payload
  | "signal" => state.judgeSignal payload
  | "env" => state.judgeEnv payload
  | "shell" | "exec" | "subsystem" => state.judgeStart subsystems kind payload
  | _ => (state, .refused (.requestUnsupported kind))

end SessionState

end SshServer
