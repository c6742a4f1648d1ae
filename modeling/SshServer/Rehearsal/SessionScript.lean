import SshServer.Channel.Stream
import SshServer.Rehearsal.Peer
import SshServer.Session.RequestLoop

/-!
Contract: a rehearsal of one session, in which the script acts for the client and for the handler.

Owns: what the client has left of the channel, the receivers and polling writers that the handler
keeps, and what every step of the script does.
Does not own: the session itself (`Session.Basic`, `Session.RequestLoop`).

A handler that was started hands its session to the script, which keeps it to the end.
-/

namespace SshServer.Rehearsal

/-- A session with what both sides hold of it. -/
structure SessionWorld where
  session : Session
  canSend : Bool := true
  canRequest : Bool := true
  canReceive : Bool := true
  /-- The receiver of window sizes that the handler has. -/
  windows : Option Nat := none
  /-- The receivers of signals that the handler has, by name. -/
  signals : List (String × Nat) := []
  /-- The polling writers that the handler has: for each name its number and its stream. -/
  pollers : List (String × Nat × Option UInt32) := []

inductive SessionTask where
  | peer (task : PeerTask)
  | untilClosed
  | receive
  | read (count : Nat)
  | readAll (soFar : ByteArray)
  | writeAll (code : Option UInt32) (rest : ByteArray)
  | shutdown
  /-- Ending standard error does nothing. -/
  | shutdownError
  | echo (copy : Copying)
  /-- A task that waits to be told. -/
  | asleep (task : SessionTask)

namespace SessionTask

def afterReading (task : SessionTask) (atEnd : Outcome) : Inlet.Reading → Turn SessionTask
  | .got content => .finished (.bytes content)
  | .ended => .finished atEnd
  | .waiting => .waits (.asleep task)

def proceed (id : Nat) (session : Session) : SessionTask → Session × Turn SessionTask
  | .peer task =>
    match task.proceed id session.channel with
    | (channel, .waits task) => ({ session with channel }, .waits (.peer task))
    | (channel, .finished outcome) => ({ session with channel }, .finished outcome)
  | .untilClosed =>
    if session.closed then (session, .finished (.remark .closed))
    else (session, .waits (.asleep .untilClosed))
  | .receive =>
    let (session, reading) := session.onInput fun input => input.receive id
    (session, afterReading .receive .nothing reading)
  | .read count =>
    let (session, reading) := session.onInput fun input => input.read id count
    (session, afterReading (.read count) (.bytes ByteArray.empty) reading)
  | .readAll soFar =>
    let (session, progress) :=
      session.onInput fun input => input.readAll id input.portions soFar
    match progress with
    | .waiting soFar => (session, .waits (.asleep (.readAll soFar)))
    | .finished content => (session, .finished (.bytes content))
  | .writeAll code rest =>
    let (session, progress) :=
      session.onOutput fun output => output.writeAll id code (Outbox.pollsFor rest) rest
    match progress with
    | .waiting rest => (session, .waits (.asleep (.writeAll code rest)))
    | .finished result => (session, .finished (.ofIoUnit result))
  | .shutdown =>
    let (session, result) := session.shutdown
    (session, .finished (.ofIoUnit result))
  | .shutdownError => (session, .finished .ok)
  | .echo copy =>
    match copy.run id none session.channel with
    | (channel, .waiting copy) => ({ session with channel }, .waits (.asleep (.echo copy)))
    | (channel, .finished result) => ({ session with channel }, .finished (.ofIoWritten result))
  | .asleep task => proceed id session task

/-- Whether a writer that polled and found no credit can go on. -/
def pollReady (id : Nat) (output : Outbox) : Bool :=
  match output.polls.lookup id with
  | none => false
  | some wait => creditReady wait.ticket output

def ready (id : Nat) (task : SessionTask) (session : Session) : Bool :=
  match task with
  | .peer task => task.ready id session.channel
  | .asleep .untilClosed => session.closed
  | .asleep (.writeAll _ _) => pollReady id session.channel.output
  | .asleep (.echo _) =>
    session.channel.input.woken.contains id || pollReady id session.channel.output
  | .asleep _ => session.channel.input.woken.contains id
  | _ => true

def rank (id : Nat) (session : Session) : Nat :=
  match session.channel.output.polls.lookup id with
  | some wait => creditRank wait.ticket session.channel.output
  | none => session.channel.output.credit.granted.length

def abort (id : Nat) (task : SessionTask) (session : Session) : Session :=
  match task with
  | .peer task => { session with channel := task.abort id session.channel }
  | _ => (session.onOutput fun output => (output.dropPoll id, ())).1

def hold (task : SessionTask) (session : Session) : Session :=
  match task with
  | .peer task => { session with channel := task.hold session.channel }
  | _ => session

def retire (task : SessionTask) (session : Session) : Session :=
  match task with
  | .peer task => { session with channel := task.retire session.channel }
  | _ => session

end SessionTask

namespace SessionWorld

def hasSession (world : SessionWorld) : Bool :=
  world.session.state.started

/-- The session's task is over. Unless the script has the session, it is gone with the task. -/
def afterEnd (world : SessionWorld) : SessionWorld :=
  if world.hasSession || !world.session.isOver then world
  else
    let channel := world.session.channel
    { world with
        session :=
          { world.session with
              channel :=
                { channel with
                    input := channel.input.detach
                    output := channel.output.dropWriter } } }

/-- Lets the request loop make a step, if it can. -/
def advance? (world : SessionWorld) : Option SessionWorld :=
  world.session.advanceLoop?.map fun session => { world with session }.afterEnd

def programs (world : SessionWorld) : List String :=
  if world.session.state.started then
    match world.session.state.subsystem with
    | some name => ["subsystem " ++ name]
    | none => ["main"]
  else []

def onChannel (world : SessionWorld) (change : Channel → Channel) : SessionWorld :=
  { world with session := { world.session with channel := change world.session.channel } }

def dropInput (world : SessionWorld) : SessionWorld :=
  if world.canSend then
    { world.onChannel fun channel => { channel with input := channel.input.dropSender } with
        canSend := false }
  else world

def dropRequests (world : SessionWorld) : SessionWorld :=
  if world.canRequest then
    { world.onChannel fun channel => { channel with requests := channel.requests.dropSender } with
        canRequest := false }
  else world

def dropOutput (world : SessionWorld) : SessionWorld :=
  if world.canReceive then
    { world.onChannel fun channel => { channel with output := channel.output.detach } with
        canReceive := false }
  else world

def receive (world : SessionWorld) : SessionWorld × Outcome :=
  if world.canReceive then
    match world.session.channel.output.take? with
    | some (message, output) =>
      (world.onChannel fun channel => { channel with output }, .message message)
    | none => (world, if world.session.channel.output.ended then .nothing else .blocked)
  else (world, .nothing)

def takeTerminal (world : SessionWorld) : SessionWorld × Outcome :=
  let (session, terminal, receiver) := world.session.takeTerminal
  ({ world with session, windows := receiver <|> world.windows },
    .terminal terminal receiver.isSome)

def takeWindow (world : SessionWorld) : SessionWorld × Outcome :=
  match world.windows with
  | none => (world, .unavailable)
  | some number =>
    match world.session.takeWindow? number with
    | some (size, session) => ({ world with session }, .window size)
    | none =>
      (world, .remark (if world.session.feedsWindows number then .empty else .ended))

def dropWindows (world : SessionWorld) : SessionWorld :=
  match world.windows with
  | none => world
  | some number => { world with session := world.session.dropWindows number, windows := none }

def dropSignals (world : SessionWorld) (name : String) : SessionWorld :=
  match world.signals.lookup name with
  | none => world
  | some number =>
    { world with
        session := world.session.dropSignals number
        signals := world.signals.filter fun entry => entry.1 != name }

/-- The handler registers a receiver of signals; one that had the name is dropped then. -/
def registerSignals (world : SessionWorld) (name : String) (capacity : Nat) : SessionWorld :=
  let (session, number) := world.session.registerSignals capacity
  let world := { world with session }.dropSignals name
  { world with signals := world.signals ++ [(name, number)] }

def takeSignal (world : SessionWorld) (name : String) : SessionWorld × Outcome :=
  match world.signals.lookup name with
  | none => (world, .unavailable)
  | some number =>
    match world.session.takeSignal? number with
    | some (signal, session) => ({ world with session }, .text signal.name)
    | none =>
      (world, .remark (if world.session.feedsSignals number then .empty else .ended))

def poll (world : SessionWorld) (index : Nat) (name : String) (code : Option UInt32)
    (content : ByteArray) : SessionWorld × Outcome :=
  let (number, code) := (world.pollers.lookup name).getD (index, code)
  let pollers :=
    if (world.pollers.lookup name).isSome then world.pollers
    else world.pollers ++ [(name, number, code)]
  let (session, polling) :=
    world.session.onOutput fun output => output.pollWrite number code content
  ({ world with session, pollers },
    match polling with
    | .pending => .remark .pending
    | .ready result => .ofIoWritten result)

def dropPoller (world : SessionWorld) (name : String) : SessionWorld :=
  match world.pollers.lookup name with
  | none => world
  | some (number, _) =>
    { world with
        session := (world.session.onOutput fun output => (output.dropPoll number, ())).1
        pollers := world.pollers.filter fun entry => entry.1 != name }

def state (world : SessionWorld) : Outcome :=
  let session := world.session
  .session session.context session.state.window session.state.command session.state.rawCommand
    session.state.subsystem session.state.env session.closed

end SessionWorld

/-- How the tasks act on the session of a rehearsal. -/
def SessionTask.rules : Rules SessionWorld SessionTask where
  proceed id task world :=
    let (session, turn) := task.proceed id world.session
    ({ world with session }, turn)
  ready id task world := task.ready id world.session
  rank id _ world := rank id world.session
  abort id task world := { world with session := task.abort id world.session }
  retire _ task world := { world with session := task.retire world.session }
  own world := world.advance?
  takeLog world :=
    (world.session.log.map LogEntry.text, { world with session := { world.session with log := [] } })

inductive SessionStep where
  | request (kind : String) (payload : ByteArray) (wantReply : Bool) (repetitions : Nat)
  | send (chunk : ByteArray) (repetitions : Nat)
  | sendEof | dropRequests | dropOutput | hangUp
  | receive | receiveAll
  | abort | isOver | programs
  | endHandler (ending : Session.HandlerEnd)
  | state | describe
  | envValue (name : String)
  | takeTerminal | takeWindow | dropWindows
  | registerSignals (name : String) (capacity : Nat)
  | takeSignal (name : String)
  | dropSignals (name : String)
  | write (code : Option UInt32) (content : ByteArray)
  | streamWrite (code : Option UInt32) (content : ByteArray)
  | print (code : Option UInt32) (text : String)
  | fatal (text : String)
  | exit (status : UInt32)
  | close
  | start (task : SessionTask) (repetitions : Nat)
  | poll (name : String) (code : Option UInt32) (content : ByteArray)
  | dropPoller (name : String)
  | cancel (id : Nat)

abbrev SessionStage := Stage SessionWorld SessionTask

namespace SessionStage

def act (stage : SessionStage) (change : SessionWorld → SessionWorld) : SessionStage × Outcome :=
  ({ stage with world := change stage.world }, .ok)

def observe (stage : SessionStage) (change : SessionWorld → SessionWorld × Outcome) :
    SessionStage × Outcome :=
  let (world, outcome) := change stage.world
  ({ stage with world }, outcome)

/-- Does something with the session, and observes the result. -/
def use {ρ : Type} (stage : SessionStage) (act : Session → Session × ρ) (seen : ρ → Outcome) :
    SessionStage × Outcome :=
  let (session, result) := act stage.world.session
  ({ stage with world := { stage.world with session } }, seen result)

def start (stage : SessionStage) (id : Nat) (task : SessionTask) (repetitions : Nat) :
    SessionStage × Outcome :=
  let world := { stage.world with session := task.hold stage.world.session }
  (Stage.start { stage with world } id task repetitions, .started)

/-- The client receives every message that is there, and those that follow from that. -/
def receiveAll : (turns : Nat) → List Message → SessionStage → SessionStage × Outcome
  | 0, seen, stage => (stage, .messages seen.reverse .blocked)
  | turns + 1, seen, stage =>
    match stage.world.receive with
    | (world, .message message) => receiveAll turns (message :: seen) { stage with world }
    | _ =>
      let stage := SessionTask.rules.settle stage
      match stage.world.receive with
      | (world, .message message) => receiveAll turns (message :: seen) { stage with world }
      | (_, .remark ending) => (stage, .messages seen.reverse ending)
      | _ => (stage, .messages seen.reverse .blocked)

/-- Performs a step of the client if what it needs is there. -/
def given (present : Bool) (stage : SessionStage) (perform : SessionStage → SessionStage × Outcome) :
    SessionStage × Outcome :=
  if present then perform stage else (stage, .unavailable)

/-- Performs a step of the handler if the script has the session. -/
def inSession (stage : SessionStage) (perform : SessionStage → SessionStage × Outcome) :
    SessionStage × Outcome :=
  if stage.world.hasSession then perform stage else (stage, .remark .noSession)

def perform (index : Nat) (step : SessionStep) (stage : SessionStage) : SessionStage × Outcome :=
  let world := stage.world
  match step with
  | .request kind payload wantReply repetitions =>
    given world.canRequest stage fun stage =>
      stage.start index (.peer (.request kind payload wantReply)) repetitions
  | .send chunk repetitions =>
    given world.canSend stage fun stage => stage.start index (.peer (.send chunk)) repetitions
  | .sendEof => stage.act .dropInput
  | .dropRequests => stage.act .dropRequests
  | .dropOutput => stage.act .dropOutput
  | .hangUp => stage.act fun world => world.dropInput.dropRequests.dropOutput
  | .receive => stage.observe SessionWorld.receive
  | .receiveAll => receiveAll Rules.manyTurns [] stage
  | .abort => stage.act fun world => { world with session := world.session.cancel }.afterEnd
  | .isOver => (stage, .flag world.session.isOver)
  | .programs => (stage, .names world.programs)
  | .endHandler ending =>
    match world.session.handler with
    | .running _ => stage.act fun world => { world with session := world.session.endHandler ending }
    | _ => (stage, .remark .gone)
  | .state => inSession stage fun stage => (stage, stage.world.state)
  | .describe => inSession stage fun stage => (stage, .text stage.world.session.describe)
  | .envValue name =>
    inSession stage fun stage => (stage, .maybeText (stage.world.session.state.envValue name))
  | .takeTerminal => inSession stage fun stage => stage.observe SessionWorld.takeTerminal
  | .takeWindow => stage.observe SessionWorld.takeWindow
  | .dropWindows => stage.act .dropWindows
  | .registerSignals name capacity =>
    inSession stage fun stage => stage.act fun world => world.registerSignals name capacity
  | .takeSignal name => stage.observe fun world => world.takeSignal name
  | .dropSignals name => stage.act fun world => world.dropSignals name
  | .write code content =>
    inSession stage fun stage => stage.use (fun session => session.write code content) .ofWritten
  | .streamWrite code content =>
    inSession stage fun stage =>
      stage.use (fun session => session.write code content)
        fun result => .ofIoWritten (result.mapError Failure.toIo)
  | .print code text =>
    inSession stage fun stage =>
      stage.use (fun session => (session.print code text, ())) fun _ => .ok
  | .fatal text =>
    inSession stage fun stage => stage.use (fun session => (session.fatal text, ())) fun _ => .ok
  | .exit status =>
    inSession stage fun stage => stage.use (fun session => session.exit status) .ofUnit
  | .close => inSession stage fun stage => stage.use Session.close .ofUnit
  | .start task repetitions => inSession stage fun stage => stage.start index task repetitions
  | .poll name code content =>
    inSession stage fun stage => stage.observe fun world => world.poll index name code content
  | .dropPoller name => stage.act fun world => world.dropPoller name
  | .cancel id => SessionTask.rules.cancel stage id

end SessionStage

/-- Plays a script against a new session. -/
def playSession (context : Context) (subsystems : List String) (script : List SessionStep) :
    List Entry :=
  SessionTask.rules.playFrom SessionStage.perform 0 script
    { world := { session := { context, subsystems, channel := { channelType := "session" } } } }

end SshServer.Rehearsal
