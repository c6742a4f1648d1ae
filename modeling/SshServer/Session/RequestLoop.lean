import SshServer.Session.Basic

/-!
Contract: the loop that takes the requests of a session, one after another, and the life of its
handler.

Owns: the steps of the loop, which are small enough that a handler may act between any two of them;
the end of the loop, however it comes about; and the end of the handler.
Does not own: the verdict on a request (`Session.State`).

Events are handed over before the next request is taken, windows before signals. Whenever the loop
waits it looks first whether the session was closed.
-/

namespace SshServer

namespace Session

/-- Answers the request that the loop holds and goes back to waiting. -/
def finishRequest (session : Session) (request : Option (Request × Bool)) : Session :=
  match request with
  | none => { session with phase := .parked }
  | some (request, verdict) =>
    { session with
        phase := .parked
        channel :=
          { session.channel with requests := session.channel.requests.answer request verdict } }

/-- Takes up a request that was received. -/
def dispatch (session : Session) (request : Request) : Session :=
  let (state, verdict) :=
    session.state.judge session.subsystems request.kind request.payload.toList
  let session := { session with state, log := session.log ++ verdict.log }
  let session :=
    match verdict.start with
    | none => session
    | some program => { session with handler := .running program }
  if verdict.flush then
    { session with phase := .flushing .windows (some (request, verdict.answer)) }
  else session.finishRequest (some (request, verdict.answer))

/-- Takes up the next event that has a consumer. Once the loop has turned to signals, a window size
waits for the next time that events are handed over. -/
def nextEvent? (session : Session) (stage : FlushStage) : Option (Handover × Session) :=
  match stage, session.state.windows.next? with
  | .windows, some ((consumer, size), windows) =>
    some (.window consumer size, { session with state := { session.state with windows } })
  | _, _ =>
    match session.state.signals.next? with
    | some ((consumer, signal), signals) =>
      some (.signal consumer signal, { session with state := { session.state with signals } })
    | none => none

inductive Delivery where
  | delivered (session : Session)
  /-- The receiver is gone, and the event with it. -/
  | lost (session : Session)
  | full

/-- Tries to hand over an event. A consumer whose receiver is gone is detached. -/
def deliver (session : Session) : Handover → Delivery
  | .window consumer size =>
    match session.windowReceivers[consumer]? with
    | none => .lost session
    | some receiver =>
      if !receiver.held then
        .lost { session with
          state := { session.state with windows := session.state.windows.detach consumer } }
      else if receiver.hasRoom then
        .delivered { session with
          windowReceivers := session.windowReceivers.set consumer (receiver.put size) }
      else .full
  | .signal consumer signal =>
    match session.signalReceivers[consumer]? with
    | none => .lost session
    | some receiver =>
      if !receiver.held then
        .lost { session with
          state := { session.state with signals := session.state.signals.detach consumer } }
      else if receiver.hasRoom then
        .delivered { session with
          signalReceivers := session.signalReceivers.set consumer (receiver.put signal) }
      else .full

/-- The loop drops the request that it holds, which counts as a refusal. -/
def dropRequest (session : Session) (request : Option (Request × Bool)) : Session :=
  match request with
  | none => session
  | some (request, _) =>
    { session with
        channel := { session.channel with requests := session.channel.requests.discard request } }

def heldRequest (session : Session) : Option (Request × Bool) :=
  match session.phase with
  | .flushing _ request => request
  | .handing _ request => request
  | _ => none

/-- Everything that the end of the loop brings about, however it ends: the feeds are closed, and no
request is left unanswered. -/
def endLoop (session : Session) (phase : LoopPhase) : Session :=
  let session := (session.dropRequest session.heldRequest).terminate
  { session with
      phase
      channel := { session.channel with requests := session.channel.requests.detach } }

/-- One step of the loop; none where it has to wait, or is over. -/
def advanceLoop? (session : Session) : Option Session :=
  match session.phase with
  | .parked =>
    if session.closed then some (session.endLoop .draining)
    else if session.notice then
      some { session with notice := false, phase := .flushing .windows none }
    else
      match session.channel.requests.take? with
      | some (request, requests) =>
        some ({ session with channel := { session.channel with requests } }.dispatch request)
      | none =>
        if session.channel.requests.box.ended then some (session.endLoop .draining) else none
  | .flushing stage request =>
    match session.nextEvent? stage with
    | none => some (session.finishRequest request)
    | some (event, session) =>
      match session.deliver event with
      | .delivered session => some { session with phase := .flushing event.stage request }
      | .lost session => some { session with phase := .flushing event.stage request }
      | .full => some { session with phase := .handing event request }
  | .handing event request =>
    if session.closed then some (session.endLoop .draining)
    else
      match session.deliver event with
      | .delivered session => some { session with phase := .flushing event.stage request }
      | .lost session => some { session with phase := .flushing event.stage request }
      | .full => none
  | .draining =>
    match session.handler with
    | .running _ => none
    | _ => some { session.release with phase := .finished }
  | .finished | .cancelled => none

inductive HandlerEnd where
  | returned
  | panicked (text : String)
deriving DecidableEq

/-- The exit status that the end of a handler stands for. -/
def HandlerEnd.status : HandlerEnd → UInt32
  | .returned => 0
  | .panicked _ => 1

/-- The handler ends. A session that exited or was closed before keeps its outcome. -/
def endHandler (session : Session) (ending : HandlerEnd) : Session :=
  match session.handler with
  | .running _ =>
    let log :=
      match ending with
      | .returned => []
      | .panicked text => [LogEntry.handlerPanicked text]
    let (session, _) := session.exit ending.status
    { session with handler := .finished, log := session.log ++ log }
  | _ => session

/-- The handler's task dies while its handler is being called, before there is anything that catches
the panic. The session goes on without a handler. -/
def loseHandler (session : Session) : Session :=
  match session.handler with
  | .running _ => { session with handler := .finished }
  | _ => session

/-- The task of the session is cancelled, wherever it is, and its handler with it. The channel is
left as it is. -/
def cancel (session : Session) : Session :=
  match session.phase with
  | .finished | .cancelled => session
  | .draining => { session with phase := .cancelled, handler := .finished }
  | _ => { session.endLoop .cancelled with handler := .finished }

def isOver (session : Session) : Bool :=
  session.phase == .finished || session.phase == .cancelled

end Session

end SshServer
