import SshServer.Rehearsal.Peer
import SshServer.Tunnel.Relay

/-!
Contract: a rehearsal of the relaying of a tunnel, in which the script acts for the peer and for the
target.

Owns: targets that fail when the script says so, the far end of a pipe with what is queued to be
written to it, and what every step of the script does.
Does not own: the relaying itself (`Tunnel.Relay`).
-/

namespace SshServer.Rehearsal

/-- A failure that comes once so many bytes have passed. -/
structure Fault where
  left : Nat
  cause : IoFailure
deriving DecidableEq

/-- The near end of a pipe, with the failures that it has in store. -/
structure FaultyPipe where
  pipes : PipePair
  onRead : Option Fault := none
  onWrite : Option Fault := none
  onShutdown : Option IoFailure := none

namespace FaultyPipe

/-- Reads no further than to the failure. -/
def read (pipe : FaultyPipe) (count : Nat) : FaultyPipe × StreamAnswer ByteArray :=
  match pipe.onRead with
  | none =>
    let (pipes, answer) := PipePair.near.read count pipe.pipes
    ({ pipe with pipes }, answer)
  | some fault =>
    if fault.left = 0 then (pipe, .failed fault.cause)
    else
      let (pipes, answer) := PipePair.near.read (min count fault.left) pipe.pipes
      let passed :=
        match answer with
        | .ready content => content.size
        | _ => 0
      ({ pipe with pipes, onRead := some { fault with left := fault.left - passed } }, answer)

/-- Writes no further than to the failure. -/
def write (pipe : FaultyPipe) (source : ByteArray) (start : Nat) :
    FaultyPipe × StreamAnswer Nat :=
  match pipe.onWrite with
  | none =>
    let (pipes, answer) := PipePair.near.write source start pipe.pipes
    ({ pipe with pipes }, answer)
  | some fault =>
    if fault.left = 0 then (pipe, .failed fault.cause)
    else
      let upTo := min source.size (start + fault.left)
      let (pipes, answer) := PipePair.near.write (source.extract start upTo) 0 pipe.pipes
      let passed :=
        match answer with
        | .ready count => count
        | _ => 0
      ({ pipe with pipes, onWrite := some { fault with left := fault.left - passed } }, answer)

def shutdown (pipe : FaultyPipe) : FaultyPipe × StreamAnswer Unit :=
  match pipe.onShutdown with
  | some cause => (pipe, .failed cause)
  | none =>
    let (pipes, answer) := PipePair.near.shutdown pipe.pipes
    ({ pipe with pipes }, answer)

/-- A pipe with failures as a target. -/
def ops : TargetOps FaultyPipe where
  read count pipe := pipe.read count
  write source start pipe := pipe.write source start
  shutdown pipe := pipe.shutdown
  drop pipe := { pipe with pipes := pipe.pipes.close }

end FaultyPipe

inductive FarTask where
  | write (content : ByteArray) (done : Nat)
  | shutdown

/-- A tunnel with what both of its sides hold. -/
structure TunnelWorld where
  relay : Relay FaultyPipe
  canSend : Bool := true
  canReceive : Bool := true
  far : Bool := true
  farTasks : List (Nat × FarTask) := []
  farDone : List (Nat × Outcome) := []

namespace TunnelWorld

def onPipes (world : TunnelWorld) (change : PipePair → PipePair) : TunnelWorld :=
  let target := world.relay.target
  { world with relay := { world.relay with target := { target with pipes := change target.pipes } } }

def onChannel (world : TunnelWorld) (change : Channel → Channel) : TunnelWorld :=
  { world with relay := { world.relay with channel := change world.relay.channel } }

def farOver (world : TunnelWorld) (rest : List (Nat × FarTask)) (id : Nat) (outcome : Outcome) :
    TunnelWorld :=
  { world with farTasks := rest, farDone := world.farDone ++ [(id, outcome)] }

/-- A step of the writer at the far end; none where it waits or has nothing to do. -/
def stepFar? (world : TunnelWorld) : Option TunnelWorld :=
  match world.farTasks with
  | [] => none
  | (id, .shutdown) :: rest =>
    some ((world.onPipes fun pipes => { pipes with inward := pipes.inward.close }).farOver rest id .ok)
  | (id, .write content done) :: rest =>
    if content.size ≤ done then some (world.farOver rest id .ok)
    else
      match world.relay.target.pipes.inward.write content done with
      | (_, .pending) => none
      | (_, .failed cause) => some (world.farOver rest id (.ioFailed cause))
      | (inward, .ready count) =>
        some { world.onPipes fun pipes => { pipes with inward } with
          farTasks := (id, .write content (done + count)) :: rest }

/-- Lets the tunnel go on, or else the writer at the far end. -/
def advance? (world : TunnelWorld) : Option TunnelWorld :=
  match world.relay.step? FaultyPipe.ops with
  | some relay => some { world with relay := relay.run FaultyPipe.ops Rules.manyTurns }
  | none => world.stepFar?

def receive (world : TunnelWorld) : TunnelWorld × Outcome :=
  if world.canReceive then
    match world.relay.channel.output.take? with
    | some (message, output) =>
      (world.onChannel fun channel => { channel with output }, .message message)
    | none => (world, if world.relay.channel.output.ended then .nothing else .blocked)
  else (world, .nothing)

def dropInput (world : TunnelWorld) : TunnelWorld :=
  if world.canSend then
    { world.onChannel fun channel => { channel with input := channel.input.dropSender } with
        canSend := false }
  else world

def dropOutput (world : TunnelWorld) : TunnelWorld :=
  if world.canReceive then
    { world.onChannel fun channel => { channel with output := channel.output.detach } with
        canReceive := false }
  else world

/-- The far end is dropped, with what was to be written to it. -/
def dropFar (world : TunnelWorld) : TunnelWorld :=
  { world.onPipes PipePair.close with far := false, farTasks := [] }

end TunnelWorld

/-- How the peer's tasks act on the channel of a tunnel. -/
def TunnelWorld.rules : Rules TunnelWorld PeerTask where
  proceed id task world :=
    let (channel, turn) := task.proceed id world.relay.channel
    ({ world with relay := { world.relay with channel } }, turn)
  ready id task world := task.ready id world.relay.channel
  rank _ _ _ := 0
  abort id task world := world.onChannel (task.abort id)
  retire _ task world := world.onChannel task.retire
  own world := world.advance?
  takeLog world := ([], world)

inductive TunnelStep where
  | send (chunk : ByteArray) (repetitions : Nat)
  | sendEof | dropOutput | receiveAll
  | farWrite (content : ByteArray)
  | farShutdown
  | farRead (count : Option Nat)
  | farDrop
  | look
  | cancel (id : Nat)

abbrev TunnelStage := Stage TunnelWorld PeerTask

/-- The record of one step of a tunnel rehearsal. -/
structure TunnelEntry where
  entry : Entry
  result : Option (Except Failure (Nat × Nat))
  far : List (Nat × Outcome)

namespace TunnelStage

def act (stage : TunnelStage) (change : TunnelWorld → TunnelWorld) : TunnelStage × Outcome :=
  ({ stage with world := change stage.world }, .ok)

/-- The peer receives every message that is there, and those that follow from that. -/
def receiveAll : (turns : Nat) → List Message → TunnelStage → TunnelStage × Outcome
  | 0, seen, stage => (stage, .messages seen.reverse .blocked)
  | turns + 1, seen, stage =>
    match stage.world.receive with
    | (world, .message message) =>
      receiveAll turns (joinMessage seen message) { stage with world }
    | _ =>
      let stage := TunnelWorld.rules.settle stage
      match stage.world.receive with
      | (world, .message message) =>
        receiveAll turns (joinMessage seen message) { stage with world }
      | (_, .remark ending) => (stage, .messages seen.reverse ending)
      | _ => (stage, .messages seen.reverse .blocked)

def readFar (stage : TunnelStage) (count : Nat) : TunnelStage × StreamAnswer ByteArray :=
  let (outward, answer) := stage.world.relay.target.pipes.outward.read count
  ({ stage with world := stage.world.onPipes fun pipes => { pipes with outward } }, answer)

/-- Reads at the far end until enough was read, the stream ended, or nothing more comes. -/
def readAllFar (limit : Option Nat) : (turns : Nat) → ByteArray → TunnelStage →
    TunnelStage × Outcome
  | 0, seen, stage => (stage, .portion seen .blocked)
  | turns + 1, seen, stage =>
    let count := (limit.getD Rules.manyTurns) - seen.size
    if count = 0 then (stage, .portion seen .limit)
    else
      match readFar stage count with
      | (stage, .ready content) =>
        if content.size = 0 then (stage, .portion seen .eof)
        else readAllFar limit turns (seen ++ content) stage
      | (stage, _) =>
        let stage := TunnelWorld.rules.settle stage
        match readFar stage count with
        | (stage, .ready content) =>
          if content.size = 0 then (stage, .portion seen .eof)
          else readAllFar limit turns (seen ++ content) stage
        | (stage, _) => (stage, .portion seen .blocked)

def queueFar (stage : TunnelStage) (id : Nat) (task : FarTask) : TunnelStage × Outcome :=
  let world := stage.world
  if world.far then
    ({ stage with world := { world with farTasks := world.farTasks ++ [(id, task)] } },
      .remark .queued)
  else (stage, .unavailable)

def perform (index : Nat) (step : TunnelStep) (stage : TunnelStage) : TunnelStage × Outcome :=
  let world := stage.world
  match step with
  | .send chunk repetitions =>
    if world.canSend then
      let world := world.onChannel (PeerTask.hold (.send chunk))
      (Stage.start { stage with world } index (.send chunk) repetitions, .started)
    else (stage, .unavailable)
  | .sendEof => stage.act .dropInput
  | .dropOutput => stage.act .dropOutput
  | .receiveAll => receiveAll Rules.manyTurns [] stage
  | .farWrite content => stage.queueFar index (.write content 0)
  | .farShutdown => stage.queueFar index .shutdown
  | .farRead limit =>
    if world.far then readAllFar limit Rules.manyTurns ByteArray.empty stage
    else (stage, .unavailable)
  | .farDrop => if world.far then stage.act .dropFar else (stage, .unavailable)
  | .look => (stage, .maybeText none)
  | .cancel id => TunnelWorld.rules.cancel stage id

/-- Plays a script, numbering its steps from the given number. -/
def playFrom : Nat → List TunnelStep → TunnelStage → List TunnelEntry
  | _, [], _ => []
  | index, step :: rest, stage =>
    let (stage, entry) := TunnelWorld.rules.step (perform index step) stage
    let world := stage.world
    ⟨entry, world.relay.result, world.farDone⟩ ::
      playFrom (index + 1) rest { stage with world := { world with farDone := [] } }

end TunnelStage

/-- Plays a script against a new tunnel. -/
def playTunnel (target : FaultyPipe) (script : List TunnelStep) : List TunnelEntry :=
  TunnelStage.playFrom 0 script
    { world := { relay := { channel := { channelType := "direct-tcpip" }, target } } }

end SshServer.Rehearsal
