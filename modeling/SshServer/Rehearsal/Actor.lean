import SshServer.Connection.Dispatcher
import SshServer.Connection.Handler
import SshServer.Rehearsal.Routine

/-!
Contract: actors, the handlers of channels in a rehearsal of a connection.

Owns: what every actor does with the offer that it is given, with the channel that it may have
accepted, and with a session on that channel.
Does not own: the serving of the connection (`Connection.Dispatcher`).

The machine of a rehearsal is the isolated one, so tunnels are never accepted.
-/

namespace SshServer.Rehearsal

/-- What a handler that does not come with the library does. -/
inductive Behaviour where
  | greet (label : String)
  /-- Accepts, sends back what the open carried, and closes. -/
  | extra
  | hold
  | echo
  | quiet
  | drop
  | never
  | reject (reason : RejectReason) (message : String)
  | panic
  | panicAfter
deriving DecidableEq, Repr

/-- What can be registered in a rehearsal. -/
abbrev Cast := ChannelHandler Routine Behaviour

inductive Echoing where
  | listening
  | sending (ticket : Nat)
deriving DecidableEq

/-- What an actor has and does. -/
inductive Work where
  | starting (handler : Cast)
  | undecided
  | rejected (rejection : Rejection)
  | idle (channel : Channel)
  | echoing (channel : Channel) (state : Echoing)
  | session (session : Session) (main : Routine) (subsystems : List (String × Routine)) (play : Play)

/-- A handler that was given an offer. -/
structure Actor where
  context : Context
  offer : ChannelOffer
  /-- Whether the transport waited for the decision when the offer was handed over. -/
  awaited : Bool
  work : Work
  ending : Option TaskEnd := none

namespace Actor

def channel? (actor : Actor) : Option Channel :=
  match actor.work with
  | .idle channel | .echoing channel _ => some channel
  | .session session _ _ _ => some session.channel
  | _ => none

def withChannel (actor : Actor) (channel : Channel) : Actor :=
  match actor.work with
  | .idle _ => { actor with work := .idle channel }
  | .echoing _ state => { actor with work := .echoing channel state }
  | .session session main subsystems play =>
    { actor with work := .session { session with channel } main subsystems play }
  | _ => actor

def decision? (actor : Actor) : Option Decision :=
  match actor.work with
  | .rejected rejection => some (.error rejection)
  | _ => actor.channel?.map fun _ => .ok ()

/-- The actor ends, and lets go of its channel. -/
def finish (actor : Actor) (ending : TaskEnd) : Actor :=
  let actor :=
    match actor.channel? with
    | some channel => actor.withChannel channel.release
    | none => actor
  { actor with ending := some ending }

def accept (actor : Actor) : Channel :=
  .ofOffer actor.offer actor.awaited

/-- Sends a message on a new channel, which has room for it, and then control messages. -/
def say (channel : Channel) (message : Message) (controls : List (Outbox → Outbox)) : Channel :=
  { channel with
    output := controls.foldl (fun output control => control output)
      (channel.output.send message).1 }

/-- What an actor that greets sends. -/
def greeting (actor : Actor) (label : String) : Message :=
  .data (label ++ " " ++ actor.context.user ++ " " ++ toString actor.context.connectionId).toUTF8

def extraCode : UInt32 := 7

/-- The first step of an actor whose handler does not come with the library. -/
def behave (actor : Actor) : Behaviour → Actor
  | .greet label =>
    let channel := say actor.accept (actor.greeting label) [fun output => output.close.1]
    { actor with work := .idle channel }.finish .returned
  | .extra =>
    let channel :=
      say actor.accept (.extended extraCode actor.offer.extra)
        [fun output => output.eof.1, fun output => output.close.1]
    { actor with work := .idle channel }.finish .returned
  | .hold => { actor with work := .idle (say actor.accept (.data "held".toUTF8) []) }
  | .echo => { actor with work := .echoing actor.accept .listening }
  | .quiet => { actor with work := .idle actor.accept }.finish .returned
  | .drop => { actor with work := .undecided }.finish .returned
  | .never => { actor with work := .undecided }
  | .reject reason message => { actor with work := .rejected ⟨reason, message⟩ }.finish .returned
  | .panic => { actor with work := .undecided }.finish .panicked
  | .panicAfter => { actor with work := .idle actor.accept }.finish .panicked

def begin (actor : Actor) : Cast → Actor × List LogEntry
  | .other behaviour => (actor.behave behaviour, [])
  | .sessions main subsystems =>
    let session : Session :=
      { context := actor.context
        subsystems := subsystems.map Prod.fst
        channel := actor.accept }
    ({ actor with work := .session session (main.getD .return) subsystems .absent }, [])
  | .tunnels policy =>
    match policy.connect Host.isolated actor.offer.extra with
    | .error refusal =>
      ({ actor with work := .rejected refusal.rejection }.finish .returned, [refusal.remark])

/-- What a chunk that is sent back comes to after an attempt to send it. -/
def afterEcho (actor : Actor) (channel : Channel) : Outbox.Sending → Actor
  | .done (.ok ()) => { actor with work := .echoing channel .listening }
  | .done (.error _) => { actor with work := .idle channel }.finish .returned
  | .waiting ticket => { actor with work := .echoing channel (.sending ticket) }

def granted : String := "yes"

/-- One step of an actor that echoes. -/
def stepEcho? (actor : Actor) (channel : Channel) : Echoing → Option Actor
  | .listening =>
    match channel.requests.take? with
    | some (request, requests) =>
      let requests := requests.answer request (request.kind == granted)
      some { actor with work := .echoing { channel with requests } .listening }
    | none =>
      match channel.input.take? with
      | some (chunk, input) =>
        let (output, sending) := channel.output.send (.data chunk)
        some (actor.afterEcho { channel with input, output } sending)
      | none =>
        if channel.input.box.ended then
          let channel := { channel with output := channel.output.eof.1.close.1 }
          some ({ actor with work := .idle channel }.finish .returned)
        else none
  | .sending ticket =>
    if creditReady ticket channel.output then
      let (output, sending) := channel.output.resume ticket
      some (actor.afterEcho { channel with output } sending)
    else none

/-- The routine that a session has started. -/
def routine (main : Routine) (subsystems : List (String × Routine)) : Program → Routine
  | .main => main
  | .subsystem name => (subsystems.lookup name).getD .return

/-- A step of the handler of a session, which begins when the session has started it. -/
def stepPlay? (session : Session) (main : Routine) (subsystems : List (String × Routine))
    (play : Play) : Option (Session × Play) :=
  match session.handler, play with
  | .running program, .absent => some (session, .starting (routine main subsystems program))
  | .running _, play => play.step? session
  | _, _ => none

/-- One step of an actor that has a session: of its loop, or else of its handler. -/
def stepSession? (actor : Actor) (session : Session) (main : Routine)
    (subsystems : List (String × Routine)) (play : Play) : Option (Actor × List LogEntry) :=
  if session.isOver then some (actor.finish .returned, [])
  else
    let step :=
      (session.advanceLoop?.map fun session => (session, play)) <|>
        stepPlay? session main subsystems play
    step.map fun (session, play) =>
      ({ actor with work := .session { session with log := [] } main subsystems play }, session.log)

/-- One step of an actor; none where it waits or has ended. -/
def step? (actor : Actor) : Option (Actor × List LogEntry) :=
  if actor.ending.isSome then none
  else
    match actor.work with
    | .starting handler => some (actor.begin handler)
    | .echoing channel state => (actor.stepEcho? channel state).map fun actor => (actor, [])
    | .session session main subsystems play => actor.stepSession? session main subsystems play
    | .undecided | .rejected _ | .idle _ => none

/-- The actor is stopped wherever it is. -/
def cancel (actor : Actor) : Actor :=
  match actor.work with
  | .idle channel => { actor with work := .idle channel.release }
  | .echoing channel state =>
    let output :=
      match state with
      | .sending ticket => channel.output.cancel ticket
      | .listening => channel.output
    { actor with work := .idle { channel with output }.release }
  | .session session main subsystems _ =>
    let session := session.cancel
    let output := session.channel.output.dropPoll Routine.agent
    let channel := { session.channel with output }.release
    { actor with work := .session { session with channel } main subsystems .finished }
  | _ => actor

/-- How actors handle offers. -/
def handling : Handling Cast Actor where
  begin handler context offer awaited := { context, offer, awaited, work := .starting handler }
  step? := step?
  decision? := decision?
  ended? := ending
  cancel := cancel

end Actor

end SshServer.Rehearsal
