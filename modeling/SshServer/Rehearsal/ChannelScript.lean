import SshServer.Rehearsal.Peer

/-!
Contract: a rehearsal of one channel, in which the script acts for both sides.

Owns: the opening and its decision, the halves into which both sides can split the channel, named
writers and kept requests, and what every step of the script does.
Does not own: the channel itself (`Channel.Basic`).
-/

namespace SshServer.Rehearsal

inductive Transport where
  | absent
  | whole
  | split
deriving DecidableEq

/-- A channel with what both sides hold of it. -/
structure ChannelWorld where
  channel : Channel
  extra : ByteArray
  /-- Whether the handler has the open and has not decided. -/
  undecided : Bool := true
  opening : Bool := true
  /-- The decision, until the transport hears of it. -/
  decision : Option (Except Rejection Unit) := none
  transport : Transport := .absent
  canSend : Bool := false
  canRequest : Bool := false
  canReceive : Bool := false
  handlerWhole : Bool := false
  handlerInput : Bool := false
  handlerRequests : Bool := false
  writers : List String := []
  /-- Requests that the handler took and has not answered. -/
  kept : List (String × Request) := []

inductive ChannelTask where
  | peer (task : PeerTask)
  | write (message : Message)
  | writing (ticket : Nat)
  | untilHangup

namespace ChannelTask

/-- What a send comes to after an attempt. -/
def afterSend : Outbox.Sending → Turn ChannelTask
  | .done result => .finished (.ofUnit result)
  | .waiting ticket => .waits (.writing ticket)

def proceed (id : Nat) (task : ChannelTask) (channel : Channel) : Channel × Turn ChannelTask :=
  match task with
  | .peer task =>
    match task.proceed id channel with
    | (channel, .waits task) => (channel, .waits (.peer task))
    | (channel, .finished outcome) => (channel, .finished outcome)
  | .write message =>
    let (output, sending) := channel.output.send message
    ({ channel with output }, afterSend sending)
  | .writing ticket =>
    let (output, sending) := channel.output.resume ticket
    ({ channel with output }, afterSend sending)
  | .untilHangup =>
    if channel.output.attached then (channel, .waits .untilHangup)
    else (channel, .finished (.remark .hungUp))

def ready (id : Nat) (task : ChannelTask) (channel : Channel) : Bool :=
  match task with
  | .peer task => task.ready id channel
  | .write _ => true
  | .writing ticket => creditReady ticket channel.output
  | .untilHangup => !channel.output.attached

def rank (task : ChannelTask) (channel : Channel) : Nat :=
  match task with
  | .writing ticket => creditRank ticket channel.output
  | _ => channel.output.credit.granted.length

def abort (id : Nat) (task : ChannelTask) (channel : Channel) : Channel :=
  match task with
  | .peer task => task.abort id channel
  | .writing ticket => { channel with output := channel.output.cancel ticket }
  | _ => channel

def hold (task : ChannelTask) (channel : Channel) : Channel :=
  match task with
  | .peer task => task.hold channel
  | _ => { channel with output := channel.output.addWriter }

def retire (task : ChannelTask) (channel : Channel) : Channel :=
  match task with
  | .peer task => task.retire channel
  | _ => { channel with output := channel.output.dropWriter }

def rules : Rules ChannelWorld ChannelTask where
  proceed id task world :=
    let (channel, turn) := task.proceed id world.channel
    ({ world with channel }, turn)
  ready id task world := task.ready id world.channel
  rank _ task world := task.rank world.channel
  abort id task world := { world with channel := task.abort id world.channel }
  retire _ task world := { world with channel := task.retire world.channel }
  own _ := none
  takeLog world := ([], world)

end ChannelTask

namespace ChannelWorld

/-- The transport gives up its handle to send input with. -/
def dropInput (world : ChannelWorld) : ChannelWorld :=
  if world.canSend then
    { world with
        canSend := false
        channel := { world.channel with input := world.channel.input.dropSender } }
  else world

/-- The transport gives up its handle to send requests with. -/
def dropRequests (world : ChannelWorld) : ChannelWorld :=
  if world.canRequest then
    { world with
        canRequest := false
        channel := { world.channel with requests := world.channel.requests.dropSender } }
  else world

/-- The transport takes no more output. -/
def dropOutput (world : ChannelWorld) : ChannelWorld :=
  if world.canReceive then
    { world with
        canReceive := false
        channel := { world.channel with output := world.channel.output.detach } }
  else world

/-- The transport gives up whatever it has. -/
def dropTransport (world : ChannelWorld) : ChannelWorld :=
  { world.dropInput.dropRequests.dropOutput with transport := .absent }

def accept (world : ChannelWorld) : ChannelWorld :=
  { world with
      undecided := false
      decision := some (.ok ())
      handlerWhole := true
      handlerRequests := true
      channel := if world.opening then world.channel else world.channel.abandoned }

/-- The transport stops waiting for the decision; a channel that was accepted meanwhile
is dropped. -/
def dropOpening (world : ChannelWorld) : ChannelWorld :=
  { world with
      opening := false
      channel :=
        match world.decision with
        | some (.ok ()) => world.channel.abandoned
        | _ => world.channel }

def outcome (world : ChannelWorld) : ChannelWorld × Outcome :=
  match world.decision with
  | some (.ok ()) =>
    ({ world with
        opening := false
        transport := .whole
        canSend := true
        canRequest := true
        canReceive := true }, .remark .accepted)
  | some (.error rejection) => ({ world with opening := false }, .rejected rejection)
  | none =>
    ({ world with opening := false },
      if world.undecided then .blocked else .rejected .abandoned)

def canRead (world : ChannelWorld) : Bool :=
  world.handlerWhole || world.handlerInput

def receiveInput (world : ChannelWorld) : ChannelWorld × Outcome :=
  match world.channel.input.take? with
  | some (chunk, input) => ({ world with channel := { world.channel with input } }, .bytes chunk)
  | none => (world, if world.channel.input.box.ended then .nothing else .blocked)

def receive (world : ChannelWorld) : ChannelWorld × Outcome :=
  match world.channel.output.take? with
  | some (message, output) =>
    ({ world with channel := { world.channel with output } }, .message message)
  | none => (world, if world.channel.output.ended then .nothing else .blocked)

/-- A kept request is dropped without an answer. -/
def discard (world : ChannelWorld) (name : String) : ChannelWorld :=
  match world.kept.lookup name with
  | none => world
  | some request =>
    { world with
        kept := world.kept.filter fun entry => entry.1 != name
        channel := { world.channel with requests := world.channel.requests.discard request } }

/-- The handler takes a request, if one is there, and keeps it under a name. -/
def nextRequest (world : ChannelWorld) (name : String) : ChannelWorld × Outcome :=
  match world.channel.requests.take? with
  | some (request, requests) =>
    let world := { world with channel := { world.channel with requests } }.discard name
    ({ world with kept := world.kept ++ [(name, request)] }, .request request)
  | none => (world, if world.channel.requests.box.ended then .nothing else .blocked)

def reply (world : ChannelWorld) (name : String) (verdict : Bool) : ChannelWorld × Outcome :=
  match world.kept.lookup name with
  | none => (world, .unavailable)
  | some request =>
    ({ world with
        kept := world.kept.filter fun entry => entry.1 != name
        channel := { world.channel with requests := world.channel.requests.answer request verdict } },
      .ok)

def dropWriter (world : ChannelWorld) (name : String) : ChannelWorld :=
  if world.writers.contains name then
    { world with
        writers := world.writers.filter fun other => other != name
        channel := { world.channel with output := world.channel.output.dropWriter } }
  else world

/-- A new writer under a name; one that had the name is gone then. -/
def addWriter (world : ChannelWorld) (name : String) : ChannelWorld :=
  let world :=
    { world with channel := { world.channel with output := world.channel.output.addWriter } }
  let world := world.dropWriter name
  { world with writers := world.writers ++ [name] }

def splitHandler (world : ChannelWorld) (name : String) : ChannelWorld :=
  let world := { world with handlerWhole := false, handlerInput := true }.addWriter name
  { world with channel := { world.channel with output := world.channel.output.dropWriter } }

def dropHandlerChannel (world : ChannelWorld) : ChannelWorld :=
  { world with
      handlerWhole := false
      channel :=
        { world.channel with
            input := world.channel.input.detach
            output := world.channel.output.dropWriter } }

def dropHandlerRequests (world : ChannelWorld) : ChannelWorld :=
  { world with
      handlerRequests := false
      channel := { world.channel with requests := world.channel.requests.detach } }

/-- An operation of a writer that does not wait. -/
def write (world : ChannelWorld) (act : Outbox → Outbox × Except Failure Unit) :
    ChannelWorld × Outcome :=
  let (output, result) := act world.channel.output
  ({ world with channel := { world.channel with output } }, .ofUnit result)

end ChannelWorld

inductive ChannelStep where
  | info | accept | dropNew | dropOpening | outcome
  | reject (reason : RejectReason) (message : String)
  | split | sendEof | requestsClosed | dropRequests | dropOutput | dropTransport
  | send (chunk : ByteArray) (repetitions : Nat)
  | request (kind : String) (payload : ByteArray) (wantReply : Bool) (repetitions : Nat)
  | receive | receiveAll
  | receiveInput | dropHandlerRequests | dropHandlerChannel | dropHandlerInput
  | nextRequest (name : String)
  | reply (name : String) (verdict : Bool)
  | dropRequest (name : String)
  | splitHandler (name : String)
  | newWriter (name : String)
  | cloneWriter (writer name : String)
  | dropWriter (writer : String)
  | write (writer : String) (message : Message) (repetitions : Nat)
  | tryWrite (writer : String) (message : Message)
  | writeEof (writer : String)
  | writeExit (writer : String) (status : UInt32)
  | writeClose (writer : String)
  | isClosed (writer : String)
  | untilHangup (writer : String)
  | cancel (id : Nat)

abbrev ChannelStage := Stage ChannelWorld ChannelTask

namespace ChannelStage

def act (stage : ChannelStage) (change : ChannelWorld → ChannelWorld) : ChannelStage × Outcome :=
  ({ stage with world := change stage.world }, .ok)

def observe (stage : ChannelStage) (change : ChannelWorld → ChannelWorld × Outcome) :
    ChannelStage × Outcome :=
  let (world, outcome) := change stage.world
  ({ stage with world }, outcome)

def start (stage : ChannelStage) (id : Nat) (task : ChannelTask) (repetitions : Nat) :
    ChannelStage × Outcome :=
  let world := { stage.world with channel := task.hold stage.world.channel }
  (Stage.start { stage with world } id task repetitions, .started)

/-- Tries a task of the transport until nothing can go on, and then gives it up. -/
def attempt (stage : ChannelStage) (id : Nat) (task : PeerTask) : ChannelStage × Outcome :=
  task.attempt (fun stage : ChannelStage => stage.world.channel)
    (fun stage channel => { stage with world := { stage.world with channel } })
    ChannelTask.rules.settle id stage

/-- Tries a task several times, one after another; the last outcome counts. -/
def attempts (id : Nat) (task : PeerTask) :
    (repetitions : Nat) → ChannelStage → ChannelStage × Outcome
  | 0, stage => attempt stage id task
  | repetitions + 1, stage => attempts id task repetitions (attempt stage id task).1

/-- The transport sends input: in one piece it says why that failed, and split it says whether. -/
def sendChunk (stage : ChannelStage) (id : Nat) (chunk : ByteArray) (repetitions : Nat) :
    ChannelStage × Outcome :=
  match stage.world.transport with
  | .absent => (stage, .unavailable)
  | .split =>
    if stage.world.canSend then stage.start id (.peer (.send chunk)) repetitions
    else (stage, .unavailable)
  | .whole =>
    if stage.world.canSend then
      match attempts id (.send chunk) (repetitions - 1) stage with
      | (stage, .flag true) => (stage, .ok)
      | (stage, .flag false) => (stage, .failed .streamClosed)
      | other => other
    else (stage, .failed .streamClosed)

/-- The transport receives every message that is there, and those that follow from that. -/
def receiveAll : (turns : Nat) → List Message → ChannelStage → ChannelStage × Outcome
  | 0, seen, stage => (stage, .messages seen.reverse .blocked)
  | turns + 1, seen, stage =>
    match stage.world.receive with
    | (world, .message message) => receiveAll turns (message :: seen) { stage with world }
    | _ =>
      let stage := ChannelTask.rules.settle stage
      match stage.world.receive with
      | (world, .message message) => receiveAll turns (message :: seen) { stage with world }
      | (_, .remark ending) => (stage, .messages seen.reverse ending)
      | _ => (stage, .messages seen.reverse .blocked)

/-- Performs a step if what it needs is there. -/
def given (present : Bool) (stage : ChannelStage) (perform : ChannelStage → ChannelStage × Outcome) :
    ChannelStage × Outcome :=
  if present then perform stage else (stage, .unavailable)

def perform (index : Nat) (step : ChannelStep) (stage : ChannelStage) : ChannelStage × Outcome :=
  let world := stage.world
  let hasWriter (name : String) : Bool := world.writers.contains name
  match step with
  | .info =>
    if world.undecided then (stage, .offered world.channel.channelType world.extra)
    else if world.handlerWhole then (stage, .serving world.channel.channelType)
    else (stage, .unavailable)
  | .accept => given world.undecided stage fun stage => stage.act .accept
  | .reject reason message =>
    given world.undecided stage fun stage => stage.act fun world =>
      { world with undecided := false, decision := some (.error ⟨reason, message⟩) }
  | .dropNew =>
    given world.undecided stage fun stage => stage.act fun world => { world with undecided := false }
  | .dropOpening => given world.opening stage fun stage => stage.act .dropOpening
  | .outcome => given world.opening stage fun stage => stage.observe ChannelWorld.outcome
  | .split =>
    given (world.transport == .whole) stage fun stage =>
      ({ stage with world := { world with transport := .split } }, .halves world.canSend)
  | .send chunk repetitions => stage.sendChunk index chunk repetitions
  | .sendEof => given (world.transport != .absent) stage fun stage => stage.act .dropInput
  | .request kind payload wantReply repetitions =>
    given world.canRequest stage fun stage =>
      let task := .request kind payload wantReply
      if world.transport == .whole then attempts index task (repetitions - 1) stage
      else stage.start index (.peer task) repetitions
  | .requestsClosed =>
    given (world.transport == .split && world.canRequest) stage fun stage =>
      (stage, .flag !world.channel.requests.box.attached)
  | .dropRequests =>
    given (world.transport == .split && world.canRequest) stage fun stage => stage.act .dropRequests
  | .dropOutput =>
    given (world.transport == .split && world.canReceive) stage fun stage => stage.act .dropOutput
  | .dropTransport =>
    given (world.transport != .absent) stage fun stage => stage.act .dropTransport
  | .receive => given world.canReceive stage fun stage => stage.observe ChannelWorld.receive
  | .receiveAll =>
    given world.canReceive stage fun stage => receiveAll Rules.manyTurns [] stage
  | .receiveInput => given world.canRead stage fun stage => stage.observe ChannelWorld.receiveInput
  | .nextRequest name =>
    given world.handlerRequests stage fun stage => stage.observe fun world => world.nextRequest name
  | .reply name verdict => stage.observe fun world => world.reply name verdict
  | .dropRequest name =>
    given (world.kept.lookup name).isSome stage fun stage =>
      stage.act fun world => world.discard name
  | .dropHandlerRequests =>
    given world.handlerRequests stage fun stage => stage.act .dropHandlerRequests
  | .dropHandlerChannel =>
    given world.handlerWhole stage fun stage => stage.act .dropHandlerChannel
  | .dropHandlerInput =>
    given world.handlerInput stage fun stage => stage.act fun world =>
      { world with
          handlerInput := false
          channel := { world.channel with input := world.channel.input.detach } }
  | .splitHandler name =>
    given world.handlerWhole stage fun stage => stage.act fun world => world.splitHandler name
  | .newWriter name =>
    given world.handlerWhole stage fun stage => stage.act fun world => world.addWriter name
  | .cloneWriter writer name =>
    given (hasWriter writer) stage fun stage => stage.act fun world => world.addWriter name
  | .dropWriter writer =>
    given (hasWriter writer) stage fun stage => stage.act fun world => world.dropWriter writer
  | .write writer message repetitions =>
    given (hasWriter writer) stage fun stage => stage.start index (.write message) repetitions
  | .tryWrite writer message =>
    given (hasWriter writer) stage fun stage =>
      stage.observe fun world => world.write fun output => output.trySend message
  | .writeEof writer =>
    given (hasWriter writer) stage fun stage => stage.observe fun world => world.write Outbox.eof
  | .writeExit writer status =>
    given (hasWriter writer) stage fun stage =>
      stage.observe fun world => world.write fun output => output.exitStatus status
  | .writeClose writer =>
    given (hasWriter writer) stage fun stage => stage.observe fun world => world.write Outbox.close
  | .isClosed writer =>
    given (hasWriter writer) stage fun stage => (stage, .flag world.channel.output.closed)
  | .untilHangup writer =>
    given (hasWriter writer) stage fun stage => stage.start index .untilHangup 1
  | .cancel id => ChannelTask.rules.cancel stage id

end ChannelStage

/-- Plays a script against a new channel. -/
def playChannel (channelType : String) (extra : ByteArray) (script : List ChannelStep) :
    List Entry :=
  ChannelTask.rules.playFrom ChannelStage.perform 0 script
    { world := { channel := { channelType }, extra } }

end SshServer.Rehearsal
