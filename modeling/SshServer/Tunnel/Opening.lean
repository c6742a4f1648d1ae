import SshServer.Channel.Opening
import SshServer.Log
import SshServer.Net.Host
import SshServer.Text.Duration
import SshServer.Tunnel.Relay
import SshServer.Wire.Payload

/-!
Contract: the opening of a tunnel to a target that the peer names.

Owns: what is dialled, the reasons for which a tunnel is refused, and the tunnel once it is decided
about.
Does not own: the network (`Net.Host`) and the relaying (`Tunnel.Relay`).

A target is dialled only if the offer names one with a port of sixteen bits, and the channel is
accepted only if the target was reached.
-/

namespace SshServer

/-- Why a tunnel is refused. -/
inductive TunnelRefusal where
  | malformed (cause : WireFailure)
  | portOutOfRange (target : String)
  | dialFailed (target : String) (cause : IoFailure)
deriving DecidableEq, Repr

namespace TunnelRefusal

def message : TunnelRefusal → String
  | .malformed cause => (Failure.malformedPayload cause).message
  | .portOutOfRange _ => "port out of range"
  | .dialFailed target cause => (Failure.dial target cause).message

def rejection (refusal : TunnelRefusal) : Rejection :=
  ⟨.connectFailed, refusal.message⟩

def remark : TunnelRefusal → LogEntry
  | .malformed cause => .tunnelRejected (.malformedPayload cause)
  | .portOutOfRange target => .tunnelPortOutOfRange target
  | .dialFailed target cause => .tunnelRejected (.dial target cause)

end TunnelRefusal

namespace Wire.TunnelOpen

def target (request : TunnelOpen) : String :=
  request.host ++ ":" ++ toString request.port.toNat

def port? (request : TunnelOpen) : Option UInt16 :=
  if request.port.toNat < 65536 then some (UInt16.ofNat request.port.toNat) else none

end Wire.TunnelOpen

/-- The host and port that an offer asks for, with the target as a text. -/
def dialTarget (extra : ByteArray) : Except TunnelRefusal (String × UInt16 × String) :=
  match Wire.TunnelOpen.format.decodeAll extra.toList with
  | .error cause => .error (.malformed cause)
  | .ok request =>
    match request.port? with
    | none => .error (.portOutOfRange request.target)
    | some port => .ok (request.host, port, request.target)

/-- How tunnels are dialled. -/
structure TunnelPolicy where
  /-- How many milliseconds a target has to answer in. -/
  dialTimeout : Nat := 10000
deriving DecidableEq, Repr

namespace TunnelPolicy

variable {σ : Type}

/-- What comes of dialling a target. -/
def judge (policy : TunnelPolicy) (target : String) : DialAnswer σ → Except TunnelRefusal σ
  | .connected stream => .ok stream
  | .failed cause => .error (.dialFailed target cause)
  | .silent =>
    .error (.dialFailed target
      ⟨.timedOut, "no answer within " ++ Text.duration policy.dialTimeout⟩)

def connect (policy : TunnelPolicy) (host : Host σ) (extra : ByteArray) :
    Except TunnelRefusal σ :=
  match dialTarget extra with
  | .error refusal => .error refusal
  | .ok (name, port, target) => policy.judge target (host.dial name port)

end TunnelPolicy

namespace Relay

variable {σ : Type}

/-- A tunnel that was accepted. -/
def ofOffer (offer : ChannelOffer) (awaited : Bool) (target : σ) : Relay σ :=
  { channel := .ofOffer offer awaited, target }

/-- A tunnel takes no requests, so each is refused. -/
def refuseRequests (relay : Relay σ) : Relay σ :=
  let channel := relay.channel
  { relay with channel := { channel with requests := channel.requests.detach } }

end Relay

/-- A tunnel that was decided about. -/
inductive Tunnel (σ : Type) where
  | refused (refusal : TunnelRefusal)
  | opened (relay : Relay σ)

namespace Tunnel

variable {σ : Type}

/-- Decides about an offer. -/
def ofOffer (policy : TunnelPolicy) (host : Host σ) (offer : ChannelOffer) (awaited : Bool) :
    Tunnel σ :=
  match policy.connect host offer.extra with
  | .error refusal => .refused refusal
  | .ok target => .opened (Relay.ofOffer offer awaited target).refuseRequests

def decision : Tunnel σ → Decision
  | .refused refusal => .error refusal.rejection
  | .opened _ => .ok ()

end Tunnel

end SshServer
