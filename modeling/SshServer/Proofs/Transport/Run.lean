import SshServer.Connection.Transport
import SshServer.Proofs.Input.Stream
import SshServer.Proofs.Output.Run

/-!
Contract: everything that can happen between the transport of a connection and the handlers of its
channels, in any order.

Owns: the operations of the peer, which the transport is told of by callbacks, and of the handlers;
runs of them; and what an onlooker sees.
Does not own: what a single step can do (`Proofs.Transport.Steps`), and what follows for a whole run
(`Proofs.Transport.Apart`).

There is one callback at a time, and no open of an identifier whose channel is open. A callback that
waits is gone on with in one step each time, and handlers act between any two steps. A handler can
act on its side of a channel as soon as it has accepted it, which is before the transport has a slot
for it.
-/

namespace SshServer

/-! ### Handlers -/

/-- An operation on the handler's side of a channel, other than on its requests one by one. -/
inductive HandlerAct where
  | receive (reader : Nat)
  | read (reader count : Nat)
  | leaveInput
  | leaveRequests
  /-- An operation on the output, be it of a writer or of the task that sends it on. -/
  | output (act : OutputAct)

def Channel.stepOfHandler (channel : Channel) : HandlerAct → Channel
  | .receive reader => { channel with input := (channel.input.receive reader).1 }
  | .read reader count => { channel with input := (channel.input.read reader count).1 }
  | .leaveInput => { channel with input := channel.input.detach }
  | .leaveRequests => { channel with requests := channel.requests.detach }
  | .output act => { channel with output := channel.output.step act }

/-- A handler is done with a request: it has answered it, or has dropped it. -/
def RequestStream.settle (stream : RequestStream) (request : Request) :
    Option Bool → RequestStream
  | some verdict => stream.answer request verdict
  | none => stream.discard request

/-! ### The peer -/

/-- What the peer does, as far as the transport is told. -/
inductive PeerAct where
  /-- A channel is opened and accepted. Its handler has acted on it already. -/
  | accept (id : Nat) (offer : ChannelOffer) (sofar : List HandlerAct)
  | refuse (id : Nat)
  | data (id : Nat) (chunk : ByteArray)
  | eof (id : Nat)
  | close (id : Nat)
  | request (id : Nat) (request : TypedRequest)

/-- The callback that the transport is told by. No open channel is opened again. -/
def PeerAct.callback? (transport : Transport) : PeerAct → Option Callback
  | .accept id offer sofar =>
    if transport.slot? id = none then
      some (.opened id (sofar.foldl Channel.stepOfHandler (.ofOffer offer true)))
    else none
  | .refuse id => some (.refused id)
  | .data id chunk => some (.data id chunk)
  | .eof id => some (.eof id)
  | .close id => some (.close id)
  | .request id asked => some (.request id asked)

namespace Callback

/-- The identifier of the channel that a callback is about. -/
def id : Callback → Nat
  | .opened id _ | .refused id | .data id _ | .eof id | .close id | .request id _ => id

end Callback

/-! ### Transport and handlers -/

/-- A callback that is not over. -/
structure Underway where
  callback : Callback
  /-- The request that was made, with the place of its channel, if the peer wants a reply. -/
  made : Option (Nat × Request)
  wait : CallbackWait

/-- A transport, the callback that it has not come to the end of, and the requests that handlers
have taken and are not done with, with the places of their channels. -/
structure Exchange where
  transport : Transport := {}
  underway : Option Underway := none
  held : List (Nat × Request) := []

inductive ExchangeAct where
  | call (act : PeerAct)
  /-- The callback that waits goes on, if it can. -/
  | goOn
  | handler (place : Nat) (act : HandlerAct)
  /-- A handler takes the next request on its channel. -/
  | take (place : Nat)
  /-- A handler is done with one of the requests that were taken. -/
  | answer (index : Nat) (verdict : Option Bool)

/-- What an attempt to come to the end of a callback leads to. -/
structure Attempt where
  callback : Callback
  made : Option (Nat × Request)
  transport : Transport
  status : CallbackStatus

/-- A callback that is over. -/
structure Call where
  callback : Callback
  made : Option (Nat × Request)
  /-- What the peer was told, if anything. -/
  told : Option Bool
  /-- Whether the input of the channel was still to be received from at the end. -/
  heard : Bool
  /-- Whether the requests of the channel were still to be taken at the end. -/
  served : Bool

namespace Transport

def channelOf? (transport : Transport) (id : Nat) : Option Channel :=
  (transport.slot? id).bind fun slot => transport.channels[slot.place]?

/-- The request that a callback makes of a handler that is to answer it, with the place. -/
def made? (transport : Transport) : Callback → Option (Nat × Request)
  | .request id request =>
    match transport.slot? id with
    | none => none
    | some slot =>
      match transport.channels[slot.place]? with
      | none => none
      | some channel =>
        if request.wantsReply then
          some (slot.place, ⟨request.kind, request.payload, some channel.requests.nextReply⟩)
        else none
  | .opened _ _ | .refused _ | .data _ _ | .eof _ | .close _ => none

end Transport

namespace CallbackStatus

def wait? : CallbackStatus → Option CallbackWait
  | .waits wait => some wait
  | .finished _ => none

end CallbackStatus

namespace Exchange

def attempt? (exchange : Exchange) : ExchangeAct → Option Attempt
  | .call act =>
    match exchange.underway with
    | some _ => none
    | none =>
      (act.callback? exchange.transport).map fun callback =>
        let (transport, status) := exchange.transport.begin callback
        ⟨callback, exchange.transport.made? callback, transport, status⟩
  | .goOn =>
    exchange.underway.map fun underway =>
      let (transport, status) := exchange.transport.resume underway.wait
      ⟨underway.callback, underway.made, transport, status⟩
  | .handler _ _ | .take _ | .answer _ _ => none

def after (exchange : Exchange) (attempt : Attempt) : Exchange :=
  { exchange with
      transport := attempt.transport
      underway := attempt.status.wait?.map fun wait => ⟨attempt.callback, attempt.made, wait⟩ }

def step (exchange : Exchange) : ExchangeAct → Exchange
  | .call act => ((exchange.attempt? (.call act)).map exchange.after).getD exchange
  | .goOn => ((exchange.attempt? .goOn).map exchange.after).getD exchange
  | .handler place act =>
    let (transport, _) := exchange.transport.onChannel place () fun channel =>
      (channel.stepOfHandler act, ())
    { exchange with transport }
  | .take place =>
    let (transport, taken) := exchange.transport.onChannel place none fun channel =>
      match channel.requests.take? with
      | none => (channel, none)
      | some (request, requests) => ({ channel with requests }, some request)
    { exchange with
        transport
        held := exchange.held ++ (taken.map fun request => (place, request)).toList }
  | .answer index verdict =>
    match exchange.held[index]? with
    | none => exchange
    | some (place, request) =>
      let (transport, _) := exchange.transport.onChannel place () fun channel =>
        ({ channel with requests := channel.requests.settle request verdict }, ())
      { exchange with transport, held := exchange.held.eraseIdx index }

def run (exchange : Exchange) (acts : List ExchangeAct) : Exchange :=
  runFrom step exchange acts

/-! ### What is seen -/

/-- The callback that the transport is told by at an operation. -/
def begunBy (exchange : Exchange) : ExchangeAct → List Callback
  | .call act => ((exchange.attempt? (.call act)).map Attempt.callback).toList
  | .goOn | .handler _ _ | .take _ | .answer _ _ => []

/-- The callback that an attempt comes to the end of. -/
def callOf (exchange : Exchange) (attempt : Attempt) : List Call :=
  match attempt.status with
  | .waits _ => []
  | .finished told =>
    let channel := exchange.transport.channelOf? attempt.callback.id
    [⟨attempt.callback, attempt.made, told, channel.any (·.input.box.attached),
      channel.any (·.requests.box.attached)⟩]

/-- The callback that is over with an operation. -/
def endedBy (exchange : Exchange) (act : ExchangeAct) : List Call :=
  match exchange.attempt? act with
  | none => []
  | some attempt => exchange.callOf attempt

/-- The answer that a handler gives to a request that wants one, with the place of its channel. -/
def verdictBy (exchange : Exchange) : ExchangeAct → List (Nat × Request × Bool)
  | .answer index verdict =>
    match exchange.held[index]? with
    | none => []
    | some (place, request) =>
      if request.reply.isSome then [(place, request, verdict.getD false)] else []
  | .call _ | .goOn | .handler _ _ | .take _ => []

/-- The chunks that come to the input of the channel at a place. -/
def deliveredBy (place : Nat) (exchange : Exchange) (act : ExchangeAct) : List ByteArray :=
  match exchange.transport.channels[place]?, (exchange.step act).transport.channels[place]? with
  | some before, some after => Mailbox.newItems before.input.box after.input.box
  | _, _ => []

def begun (exchange : Exchange) (acts : List ExchangeAct) : List Callback :=
  observed step begunBy exchange acts

def ended (exchange : Exchange) (acts : List ExchangeAct) : List Call :=
  observed step endedBy exchange acts

def verdicts (exchange : Exchange) (acts : List ExchangeAct) : List (Nat × Request × Bool) :=
  observed step verdictBy exchange acts

def delivered (place : Nat) (exchange : Exchange) (acts : List ExchangeAct) : List ByteArray :=
  observed step (deliveredBy place) exchange acts

end Exchange

end SshServer
