import SshServer.Channel.Basic
import SshServer.Text.Utf8
import SshServer.Wire.Payload

/-!
Contract: what the transport of a connection does with the channels that were accepted on it.

Owns: the slots in which the transport finds the channel of an identifier, the callbacks of the
transport, the requests that it knows with their payloads, and what the peer is told of each
request.
Does not own: the decision about an open (`Connection.Dispatcher`), and what handlers do on their
side of a channel.

A callback may have to wait for its channel, and the transport makes the next one only when the last
is over. A callback for one identifier leaves the slots of all others as they are.
-/

namespace SshServer

/-- A request of the peer on a channel, as the transport reads it. -/
inductive TypedRequest where
  | terminal (request : Wire.PtyRequest)
  | shell
  /-- A command, which need not be UTF-8. -/
  | exec (command : ByteArray)
  | subsystem (name : String)
  | env (name value : String)
  | resize (change : Wire.WindowChange)
  | signal (name : String)

namespace TypedRequest

def kind : TypedRequest → String
  | .terminal _ => "pty-req"
  | .shell => "shell"
  | .exec _ => "exec"
  | .subsystem _ => "subsystem"
  | .env _ _ => "env"
  | .resize _ => "window-change"
  | .signal _ => "signal"

def payload : TypedRequest → ByteArray
  | .terminal request => (Wire.PtyRequest.format.write request).toByteArray
  | .shell => ByteArray.empty
  | .exec command => (Wire.ExecRequest.format.write ⟨Utf8.lossy command⟩).toByteArray
  | .subsystem name => (Wire.SubsystemRequest.format.write ⟨name⟩).toByteArray
  | .env name value => (Wire.EnvRequest.format.write ⟨name, value⟩).toByteArray
  | .resize change => (Wire.WindowChange.format.write change).toByteArray
  | .signal name => (Wire.SignalRequest.format.write ⟨name⟩).toByteArray

def wantsReply : TypedRequest → Bool
  | .terminal _ | .shell | .exec _ | .subsystem _ => true
  | .env _ _ | .resize _ | .signal _ => false

end TypedRequest

/-- Where the transport finds the channel of an identifier. -/
structure Slot where
  /-- The place of the channel among those that were accepted. -/
  place : Nat
  receiving : Bool := true
deriving DecidableEq, Repr

/-- The channels of a connection as its transport has them. -/
structure Transport where
  /-- Every channel that was accepted, in the order in which they were. -/
  channels : List Channel := []
  /-- The channels that the peer has open, by identifier. -/
  slots : List (Nat × Slot) := []

inductive Callback where
  | opened (id : Nat) (channel : Channel)
  /-- An open that was refused, of which nothing is kept. -/
  | refused (id : Nat)
  | data (id : Nat) (chunk : ByteArray)
  | eof (id : Nat)
  | close (id : Nat)
  | request (id : Nat) (request : TypedRequest)

inductive CallbackWait where
  /-- Room for a chunk of input. -/
  | input (place : Nat)
  /-- Room for a request, the answer to which is awaited under the number. -/
  | requests (place : Nat) (reply : Option Nat)
  | answer (place : Nat) (reply : Nat)
deriving DecidableEq, Repr

inductive CallbackStatus where
  | waits (wait : CallbackWait)
  /-- It is over, and the peer is told of success or failure, if of anything. -/
  | finished (told : Option Bool)
deriving DecidableEq, Repr

namespace Transport

/-- The number under which the transport sends. It sends one thing at a time. -/
def sender : Nat := 0

/-- Does something with a channel. -/
def onChannel {ρ : Type} (transport : Transport) (place : Nat) (otherwise : ρ)
    (act : Channel → Channel × ρ) : Transport × ρ :=
  match transport.channels[place]? with
  | none => (transport, otherwise)
  | some channel =>
    let (channel, result) := act channel
    ({ transport with channels := transport.channels.set place channel }, result)

def slot? (transport : Transport) (id : Nat) : Option Slot :=
  transport.slots.lookup id

def without (transport : Transport) (id : Nat) : List (Nat × Slot) :=
  transport.slots.filter fun entry => entry.1 != id

def opened (transport : Transport) (id : Nat) (channel : Channel) : Transport :=
  { channels := transport.channels ++ [channel]
    slots := (id, ⟨transport.channels.length, true⟩) :: transport.without id }

/-- The peer sends no more data. -/
def endInput (transport : Transport) (id : Nat) : Transport :=
  match transport.slot? id with
  | some ⟨place, true⟩ =>
    let (transport, _) := transport.onChannel place () fun channel =>
      ({ channel with input := channel.input.dropSender }, ())
    { transport with slots := (id, ⟨place, false⟩) :: transport.without id }
  | _ => transport

/-- The peer has closed the channel: nothing more is sent to it, and its output goes nowhere. -/
def closed (transport : Transport) (id : Nat) : Transport :=
  match (transport.endInput id).slot? id with
  | none => transport
  | some slot =>
    let (transport, _) := (transport.endInput id).onChannel slot.place () fun channel =>
      ({ channel with
          requests := channel.requests.dropSender
          output := channel.output.detach }, ())
    { transport with slots := transport.without id }

/-- What a chunk comes to after an attempt to send it. -/
def afterChunk (place : Nat) : Mailbox.Sent → CallbackStatus
  | .waiting => .waits (.input place)
  | .queued | .refused => .finished none

def collect (channel : Channel) (place number : Nat) : Channel × CallbackStatus :=
  match channel.requests.collect? number with
  | none => (channel, .waits (.answer place number))
  | some (verdict, requests) => ({ channel with requests }, .finished (some verdict))

/-- What a request comes to after an attempt to send it. -/
def afterRequest (channel : Channel) (place : Nat) (reply : Option Nat) :
    Mailbox.Sent → Channel × CallbackStatus
  | .waiting => (channel, .waits (.requests place reply))
  | .refused => (channel, .finished (reply.map fun _ => false))
  | .queued =>
    match reply with
    | none => (channel, .finished none)
    | some number => collect channel place number

/-- The peer sends data. Where nobody can take it, it is dropped. -/
def data (transport : Transport) (id : Nat) (chunk : ByteArray) : Transport × CallbackStatus :=
  match transport.slot? id with
  | some ⟨place, true⟩ =>
    transport.onChannel place (.finished none) fun channel =>
      let (input, sent) := channel.input.offer sender chunk
      ({ channel with input }, afterChunk place sent)
  | _ => (transport, .finished none)

/-- The peer makes a request. One on a channel that is not open fails. -/
def request (transport : Transport) (id : Nat) (request : TypedRequest) :
    Transport × CallbackStatus :=
  let failure := if request.wantsReply then some false else none
  match transport.slot? id with
  | none => (transport, .finished failure)
  | some slot =>
    transport.onChannel slot.place (.finished failure) fun channel =>
      let (requests, made) := channel.requests.issue request.kind request.payload request.wantsReply
      let (requests, sent) := requests.offer sender made
      afterRequest { channel with requests } slot.place made.reply sent

/-- Begins with a callback. -/
def begin (transport : Transport) : Callback → Transport × CallbackStatus
  | .opened id channel => (transport.opened id channel, .finished none)
  | .refused _ => (transport, .finished none)
  | .data id chunk => transport.data id chunk
  | .eof id => (transport.endInput id, .finished none)
  | .close id => (transport.closed id, .finished none)
  | .request id request => transport.request id request

/-- Goes on with a callback that waits. -/
def resume (transport : Transport) (wait : CallbackWait) : Transport × CallbackStatus :=
  match wait with
  | .input place =>
    transport.onChannel place (.finished none) fun channel =>
      let (input, sent) := channel.input.retry sender
      ({ channel with input }, afterChunk place sent)
  | .requests place reply =>
    transport.onChannel place (.finished (reply.map fun _ => false)) fun channel =>
      let (requests, sent) := channel.requests.retry sender
      afterRequest { channel with requests } place reply sent
  | .answer place number =>
    transport.onChannel place (.finished (some false)) fun channel => collect channel place number

end Transport

end SshServer
