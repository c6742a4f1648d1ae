import SshServer.Channel.Inlet
import SshServer.Channel.Opening
import SshServer.Channel.Outbox

/-!
Contract: an accepted channel, both sides of it.

Owns: requests, the answers to them, and a channel as its input, its requests and its output.
Does not own: what a handler makes of a request (`Session.State`).
-/

namespace SshServer

/-- Requests that a channel or a connection holds before the transport waits. -/
def requestBuffer : Nat := 32

/-- A request of the peer, beside the data of a channel or about the connection. -/
structure Request where
  kind : String
  payload : ByteArray
  /-- The number under which the answer is awaited, if the peer wants one. -/
  reply : Option Nat
deriving DecidableEq

def Request.describe (request : Request) : String :=
  Text.record "Request"
    [("request_type", Text.quoted request.kind),
     ("payload_len", toString request.payload.size),
     ("want_reply", toString request.reply.isSome)]

/-- A stream of requests with the answers that were given. -/
structure RequestStream where
  box : Mailbox Request := { capacity := requestBuffer }
  nextReply : Nat := 0
  answers : List (Nat × Bool) := []
deriving DecidableEq

namespace RequestStream

/-- Answers a request. One that wants no answer is left as it is. -/
def answer (stream : RequestStream) (request : Request) (verdict : Bool) : RequestStream :=
  match request.reply with
  | none => stream
  | some number => { stream with answers := stream.answers ++ [(number, verdict)] }

/-- A request is dropped without an answer, which counts as a refusal. -/
def discard (stream : RequestStream) (request : Request) : RequestStream :=
  stream.answer request false

def detach (stream : RequestStream) : RequestStream :=
  { stream.box.items.toList.foldl discard stream with box := stream.box.detach }

/-- Makes a request: its number is fresh if it wants an answer. -/
def issue (stream : RequestStream) (kind : String) (payload : ByteArray) (wantReply : Bool) :
    RequestStream × Request :=
  if wantReply then
    ({ stream with nextReply := stream.nextReply + 1 }, ⟨kind, payload, some stream.nextReply⟩)
  else (stream, ⟨kind, payload, none⟩)

/-- Begins to send a request; `sender` names the sender should it have to wait. -/
def offer (stream : RequestStream) (sender : Nat) (request : Request) :
    RequestStream × Mailbox.Sent :=
  let (box, sent) := stream.box.offer sender request
  ({ stream with box }, sent)

/-- Lets a sender that waits go on. -/
def retry (stream : RequestStream) (sender : Nat) : RequestStream × Mailbox.Sent :=
  let (box, sent) := stream.box.retry sender
  ({ stream with box }, sent)

def take? (stream : RequestStream) : Option (Request × RequestStream) :=
  stream.box.take?.map fun (request, box) => (request, { stream with box })

def collect? (stream : RequestStream) (number : Nat) : Option (Bool × RequestStream) :=
  (stream.answers.lookup number).map fun verdict =>
    (verdict, { stream with answers := stream.answers.filter fun entry => entry.1 != number })

def addSender (stream : RequestStream) : RequestStream :=
  { stream with box := stream.box.addSender }

def dropSender (stream : RequestStream) : RequestStream :=
  { stream with box := stream.box.dropSender }

end RequestStream

/-- An accepted channel. -/
structure Channel where
  channelType : String
  input : Inlet := {}
  requests : RequestStream := {}
  output : Outbox := {}
deriving DecidableEq

namespace Channel

/-- A channel that was accepted after the transport had stopped waiting for the decision: it reads
as ended, and its output goes nowhere. -/
def abandoned (channel : Channel) : Channel :=
  { channel with
    input := channel.input.dropSender
    requests := channel.requests.dropSender
    output := channel.output.detach }

/-- The channel that an acceptance brings about; `awaited` says whether the transport still waits
for the decision. -/
def ofOffer (offer : ChannelOffer) (awaited : Bool) : Channel :=
  let channel : Channel := { channelType := offer.channelType }
  if awaited then channel else channel.abandoned

/-- Its handler lets go of the channel and of its requests. -/
def release (channel : Channel) : Channel :=
  { channel with
    input := channel.input.detach
    requests := channel.requests.detach
    output := channel.output.dropWriter }

end Channel

end SshServer
