import SshServer.Rehearsal.Actor

/-!
Contract: a rehearsal of one connection, in which the script acts for the transport and the peer.

Owns: the channels that the peer has, by name, the opens that are under way, what every step of the
script does, and the short script that opens one channel and looks at what it answers.
Does not own: the serving of the connection (`Connection.Dispatcher`) and its handlers
(`Rehearsal.Actor`).
-/

namespace SshServer.Rehearsal

/-- A channel that the peer has. -/
structure OpenChannel where
  name : String
  number : Nat
  canSend : Bool := true

/-- A connection with the channels that the peer has on it. -/
structure ConnectionWorld where
  connection : Connection Cast Actor
  channels : List OpenChannel := []

/-- An open under way, and the name that its channel will have. -/
structure Opening where
  number : Nat
  name : String

namespace ConnectionWorld

/-- The channel of an open. Before its acceptance there is none, and it reads as empty. -/
def channel (world : ConnectionWorld) (number : Nat) : Channel :=
  let task? := world.connection.tasks.find? fun task => task.number == number
  (task?.bind fun task => task.state.channel?).getD { channelType := "" }

/-- Replaces the channel of an open. -/
def withChannel (world : ConnectionWorld) (number : Nat) (channel : Channel) : ConnectionWorld :=
  let tasks := world.connection.tasks.map fun task =>
    if task.number == number then { task with state := task.state.withChannel channel } else task
  { world with connection := { world.connection with tasks } }

def find? (world : ConnectionWorld) (name : String) : Option OpenChannel :=
  world.channels.find? fun entry => entry.name == name

def drop (world : ConnectionWorld) (name : String) : ConnectionWorld :=
  match world.find? name with
  | none => world
  | some entry =>
    let channel := world.channel entry.number
    let input := if entry.canSend then channel.input.dropSender else channel.input
    let world :=
      world.withChannel entry.number
        { channel with
          input
          requests := channel.requests.dropSender
          output := channel.output.detach }
    { world with channels := world.channels.filter fun other => other.name != name }

/-- The peer has a channel that was accepted. One that had the name is dropped. -/
def adopt (world : ConnectionWorld) (opening : Opening) : ConnectionWorld :=
  let world := world.drop opening.name
  { world with channels := world.channels ++ [{ name := opening.name, number := opening.number }] }

def sendEof (world : ConnectionWorld) (entry : OpenChannel) : ConnectionWorld :=
  if entry.canSend then
    let channel := world.channel entry.number
    let world := world.withChannel entry.number { channel with input := channel.input.dropSender }
    { world with
      channels := world.channels.map fun other =>
        if other.name == entry.name then { other with canSend := false } else other }
  else world

def receive (number : Nat) (world : ConnectionWorld) : ConnectionWorld × Outcome :=
  let channel := world.channel number
  match channel.output.take? with
  | some (message, output) => (world.withChannel number { channel with output }, .message message)
  | none => (world, if channel.output.ended then .nothing else .blocked)

/-- What the serving of the connection has come to. -/
def served (world : ConnectionWorld) : Outcome :=
  match world.connection.phase with
  | .finished result => .ofUnit result
  | _ => .remark .running

end ConnectionWorld

/-- How an open that is under way waits for its decision. -/
def Opening.rules : Rules ConnectionWorld Opening where
  proceed _ opening world :=
    match world.connection.decision? Actor.handling opening.number with
    | none => (world, .waits opening)
    | some (.ok ()) => (world.adopt opening, .finished (.remark .accepted))
    | some (.error rejection) => (world, .finished (.rejected rejection))
  ready _ opening world := (world.connection.decision? Actor.handling opening.number).isSome
  rank _ _ _ := 0
  abort _ opening world := { world with connection := world.connection.desert opening.number }
  retire _ _ world := world
  own world :=
    (world.connection.advance? Actor.handling).map fun connection => { world with connection }
  takeLog world :=
    (world.connection.log.map LogEntry.text,
      { world with connection := { world.connection with log := [] } })

inductive ConnectionStep where
  | authenticate (context : Context)
  | isAuthenticated
  | open (name : String) (offer : ChannelOffer)
  | global (kind : String) (payload : ByteArray)
  | dropLink
  | abort
  | served
  | send (name : String) (chunk : ByteArray)
  | sendEof (name : String)
  | receive (name : String)
  | receiveAll (name : String)
  | drop (name : String)
  | request (name kind : String) (payload : ByteArray) (wantReply : Bool)
  | cancel (id : Nat)

abbrev ConnectionStage := Stage ConnectionWorld Opening

namespace ConnectionStage

def settle (stage : ConnectionStage) : ConnectionStage :=
  Opening.rules.settle stage

def act (stage : ConnectionStage)
    (change : Connection Cast Actor → Connection Cast Actor) : ConnectionStage × Outcome :=
  ({ stage with world := { stage.world with connection := change stage.world.connection } }, .ok)

/-- Performs a step of the transport, if it is there. -/
def linked (stage : ConnectionStage)
    (perform : ConnectionStage → ConnectionStage × Outcome) : ConnectionStage × Outcome :=
  if stage.world.connection.linked then perform stage else (stage, .unavailable)

/-- Performs a step on a channel, if the peer has it. -/
def given (stage : ConnectionStage) (name : String)
    (perform : OpenChannel → ConnectionStage × Outcome) : ConnectionStage × Outcome :=
  match stage.world.find? name with
  | none => (stage, .unavailable)
  | some entry => perform entry

/-- Announces a channel. An offer for which there is no room after everything has
settled is withdrawn. -/
def announce (stage : ConnectionStage) (index : Nat) (name : String) (offer : ChannelOffer) :
    ConnectionStage × Outcome :=
  let replaced (stage : ConnectionStage) (connection : Connection Cast Actor) : ConnectionStage :=
    { stage with world := { stage.world with connection } }
  let (connection, number, sent) := stage.world.connection.announce index offer
  let stage := replaced stage connection
  let started (stage : ConnectionStage) : ConnectionStage × Outcome :=
    (Stage.start stage index { number, name } 1, .started)
  match sent with
  | .queued => started stage
  | .refused => (stage, .remark .notServed)
  | .waiting =>
    let stage := stage.settle
    let connection := stage.world.connection
    match connection.opens.retry index with
    | (opens, .queued) => started (replaced stage { connection with opens })
    | (opens, .refused) => (replaced stage { connection with opens }, .remark .notServed)
    | (opens, .waiting) =>
      (replaced stage { connection with opens := opens.withdraw index }, .blocked)

/-- Tries a task of the peer on a channel until nothing can go on, and then gives it up. -/
def attempt (stage : ConnectionStage) (id number : Nat) (task : PeerTask) :
    ConnectionStage × Outcome :=
  task.attempt (fun stage : ConnectionStage => stage.world.channel number)
    (fun stage channel => { stage with world := stage.world.withChannel number channel })
    settle id stage

/-- Tries a request about the connection until nothing can go on, and then gives it up. -/
def attemptGlobal (stage : ConnectionStage) (id : Nat) (task : PeerTask) :
    ConnectionStage × Outcome :=
  task.attempt
    (fun stage : ConnectionStage =>
      { channelType := "", requests := stage.world.connection.globals })
    (fun stage channel =>
      { stage with
        world :=
          { stage.world with
            connection := { stage.world.connection with globals := channel.requests } } })
    settle id stage

/-- The peer receives every message that is there, and those that follow from that. -/
def receiveAll (number : Nat) : (turns : Nat) → List Message → ConnectionStage →
    ConnectionStage × Outcome
  | 0, seen, stage => (stage, .messages seen.reverse .blocked)
  | turns + 1, seen, stage =>
    match stage.world.receive number with
    | (world, .message message) =>
      receiveAll number turns (joinMessage seen message) { stage with world }
    | _ =>
      let stage := stage.settle
      match stage.world.receive number with
      | (world, .message message) =>
        receiveAll number turns (joinMessage seen message) { stage with world }
      | (_, .remark ending) => (stage, .messages seen.reverse ending)
      | _ => (stage, .messages seen.reverse .blocked)

def perform (index : Nat) (step : ConnectionStep) (stage : ConnectionStage) :
    ConnectionStage × Outcome :=
  let world := stage.world
  match step with
  | .authenticate context =>
    stage.linked fun stage => stage.act fun connection => connection.authenticate context
  | .isAuthenticated =>
    stage.linked fun stage => (stage, .flag world.connection.identity.isSome)
  | .open name offer => stage.linked fun stage => stage.announce index name offer
  | .global kind payload =>
    stage.linked fun stage => stage.attemptGlobal index (.request kind payload true)
  | .dropLink => stage.linked fun stage => stage.act Connection.dropLink
  | .abort => stage.act fun connection => connection.abort Actor.handling
  | .served => (stage, world.served)
  | .send name chunk =>
    stage.given name fun entry =>
      if entry.canSend then
        match stage.attempt index entry.number (.send chunk) with
        | (stage, .flag true) => (stage, .ok)
        | (stage, .flag false) => (stage, .failed .streamClosed)
        | other => other
      else (stage, .failed .streamClosed)
  | .sendEof name =>
    stage.given name fun entry => ({ stage with world := world.sendEof entry }, .ok)
  | .receive name =>
    stage.given name fun entry =>
      let (world, outcome) := world.receive entry.number
      ({ stage with world }, outcome)
  | .receiveAll name =>
    stage.given name fun entry => receiveAll entry.number Rules.manyTurns [] stage
  | .drop name => stage.given name fun _ => ({ stage with world := world.drop name }, .ok)
  | .request name kind payload wantReply =>
    stage.given name fun entry =>
      stage.attempt index entry.number (.request kind payload wantReply)
  | .cancel id => Opening.rules.cancel stage id

/-- A new connection that is served with the handlers given. -/
def ofHandlers (handlers : Registry Cast) : ConnectionStage :=
  { world := { connection := { handlers } } }

end ConnectionStage

def playConnection (handlers : Registry Cast) (script : List ConnectionStep) : List Entry :=
  Opening.rules.playFrom ConnectionStage.perform 0 script
    (ConnectionStage.ofHandlers handlers)

/-- What a channel answers that is opened on a connection of its own. -/
inductive RouteAnswer where
  | rejected (rejection : Rejection)
  /-- The answers to the requests, and what the channel sends then. -/
  | served (requests : List Outcome) (output : Outcome)
  | undecided

/-- Opens a channel on a new connection, sends requests on it, and receives what there is. -/
def playRoute (handlers : Registry Cast) (context : Context) (channelType : String)
    (requests : List (String × ByteArray × Bool)) : RouteAnswer :=
  let name := ""
  let asked := requests.map fun (kind, payload, wantReply) =>
    ConnectionStep.request name kind payload wantReply
  let script :=
    [.authenticate context, .open name ⟨channelType, ByteArray.empty⟩] ++ asked ++
      [.receiveAll name]
  match playConnection handlers script with
  | _ :: opening :: rest =>
    match opening.done with
    | [(_, .remark .accepted)] =>
      let seen := rest.map Entry.result
      .served (seen.take requests.length) ((seen.getLast?).getD .nothing)
    | [(_, .rejected rejection)] => .rejected rejection
    | _ => .undecided
  | _ => .undecided

end SshServer.Rehearsal
