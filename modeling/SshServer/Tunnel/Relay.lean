import SshServer.Channel.Basic
import SshServer.Tunnel.Target

/-!
Contract: the relaying of bytes between a channel and the target of a tunnel.

Owns: the two directions of a tunnel, the steps of each, and the end of a tunnel.
Does not own: how the target behaves (`Tunnel.Target`), and whether a tunnel is opened at all
(`Tunnel.Opening`).

When one direction ends, its destination is told so and the other direction goes on. A failure of
either direction ends both. The departure of the peer is noticed while the target is read from and
while output waits for credit.
-/

namespace SshServer

inductive Outbound where
  | receiving
  /-- A chunk is written to the target, and so much of it is through. -/
  | writing (chunk : ByteArray) (done : Nat)
  | finished
deriving DecidableEq

inductive Inbound where
  | reading
  /-- A chunk of the given length waits for credit. -/
  | sending (ticket : Nat)
  | finished
deriving DecidableEq

/-- A tunnel between a channel and a target. -/
structure Relay (σ : Type) where
  channel : Channel
  target : σ
  outbound : Outbound := .receiving
  inbound : Inbound := .reading
  sent : Nat := 0
  received : Nat := 0
  /-- The end of the tunnel: what was relayed each way, or why it failed. -/
  result : Option (Except Failure (Nat × Nat)) := none

namespace Relay

def copyBuffer : Nat := 32768

variable {σ : Type} (ops : TargetOps σ)

/-- The output without a send that waits for credit on behalf of the tunnel. -/
def withoutSend (relay : Relay σ) (output : Outbox) : Outbox :=
  match relay.inbound with
  | .sending ticket => output.cancel ticket
  | _ => output

/-- The tunnel is over: the channel is closed, and everything that belongs to it is given up. -/
def finish (relay : Relay σ) (result : Except Failure (Nat × Nat)) : Relay σ :=
  let channel := relay.channel
  { relay with
      channel :=
        { channel with
            output := (relay.withoutSend channel.output.close.1).dropWriter
            input := channel.input.detach }
      target := ops.drop relay.target
      result := some result }

/-- Ends the tunnel if both directions have ended. -/
def settle (relay : Relay σ) : Relay σ :=
  if relay.outbound = .finished ∧ relay.inbound = .finished then
    relay.finish ops (.ok (relay.sent, relay.received))
  else relay

/-- A step of the direction to the target; none where it waits or has ended. -/
def stepOut? (relay : Relay σ) : Option (Relay σ) :=
  match relay.outbound with
  | .finished => none
  | .receiving =>
    match relay.channel.input.take? with
    | some (chunk, input) =>
      some { relay with
        channel := { relay.channel with input }
        outbound := .writing chunk 0 }
    | none =>
      if relay.channel.input.box.ended then
        match ops.shutdown relay.target with
        | (_, .pending) => none
        | (target, .failed cause) => some ({ relay with target }.finish ops (.error (.io cause)))
        | (target, .ready ()) => some ({ relay with target, outbound := .finished }.settle ops)
      else none
  | .writing chunk done =>
    if done < chunk.size then
      match ops.write chunk done relay.target with
      | (_, .pending) => none
      | (target, .failed cause) => some ({ relay with target }.finish ops (.error (.io cause)))
      | (target, .ready count) =>
        if count = 0 then
          some ({ relay with target }.finish ops
            (.error (.io ⟨.writeZero, "failed to write whole buffer"⟩)))
        else some { relay with target, outbound := .writing chunk (done + count) }
    else some { relay with outbound := .receiving, sent := relay.sent + chunk.size }

/-- What a chunk for the peer comes to after an attempt to send it. -/
def afterSend (relay : Relay σ) : Outbox.Sending → Relay σ
  | .done (.ok ()) => { relay with inbound := .reading }
  | .done (.error cause) => relay.finish ops (.error cause)
  | .waiting ticket => { relay with inbound := .sending ticket }

/-- A portion was read from the target: it is passed on, and the end of the stream as the
end of data. -/
def forward (relay : Relay σ) (content : ByteArray) : Relay σ :=
  if content.size = 0 then
    match relay.channel.output.eof with
    | (output, .ok ()) =>
      { relay with
          channel := { relay.channel with output }
          inbound := .finished }.settle ops
    | (output, .error cause) =>
      { relay with channel := { relay.channel with output } }.finish ops (.error cause)
  else
    let (output, sending) := relay.channel.output.send (.data content)
    { relay with
        channel := { relay.channel with output }
        received := relay.received + content.size }.afterSend ops sending

/-- A step of the direction to the peer; none where it waits or has ended. -/
def stepIn? (relay : Relay σ) : Option (Relay σ) :=
  match relay.inbound with
  | .finished => none
  | .reading =>
    match ops.read copyBuffer relay.target with
    | (target, .ready content) => some ({ relay with target }.forward ops content)
    | (target, .failed cause) => some ({ relay with target }.finish ops (.error (.io cause)))
    | (_, .pending) =>
      if relay.channel.output.attached then none
      else some (relay.finish ops (.error .peerHangup))
  | .sending ticket =>
    match relay.channel.output.resume ticket with
    | (_, .waiting _) => none
    | (output, sending) =>
      some ({ relay with channel := { relay.channel with output } }.afterSend ops sending)

/-- A step of either direction; none where both wait, or the tunnel is over. -/
def step? (relay : Relay σ) : Option (Relay σ) :=
  match relay.result with
  | some _ => none
  | none => relay.stepOut? ops <|> relay.stepIn? ops

/-- Goes on until both directions wait, or the tunnel is over; `steps` bounds how often. -/
def run : (steps : Nat) → Relay σ → Relay σ
  | 0, relay => relay
  | steps + 1, relay =>
    match relay.step? ops with
    | none => relay
    | some relay => run steps relay

end Relay

end SshServer
