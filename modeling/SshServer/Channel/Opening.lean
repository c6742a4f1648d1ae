import SshServer.Bytes
import SshServer.Failure
import SshServer.Text.Quoted

/-!
Contract: a channel that the peer wants to open, and the decision about it.

Owns: the types of channels, the offer of a channel, the reasons for a refusal with their codes and
wording, refusals, and the refusal that an undecided open ends in.
Does not own: the channel that an acceptance brings about (`Channel.Basic`).
-/

namespace SshServer

/-! ### Offers -/

namespace ChannelType

def session : String := "session"

def display : String := "x11"

def tunnel : String := "direct-tcpip"

def forwarded : String := "forwarded-tcpip"

/-- The types that are defined. A peer may ask for others. -/
def all : List String := [session, display, tunnel, forwarded]

end ChannelType

/-- A channel that the peer wants to open. -/
structure ChannelOffer where
  channelType : String
  extra : ByteArray
deriving DecidableEq

def ChannelOffer.describe (offer : ChannelOffer) : String :=
  Text.record "NewChannel"
    [("channel_type", Text.quoted offer.channelType),
     ("extra_data_len", toString offer.extra.size)]

/-! ### Decisions -/

inductive RejectReason where
  | administrativelyProhibited
  | connectFailed
  | unknownChannelType
  | resourceShortage
deriving DecidableEq, Repr

namespace RejectReason

def all : List RejectReason :=
  [.administrativelyProhibited, .connectFailed, .unknownChannelType, .resourceShortage]

def code : RejectReason → UInt32
  | .administrativelyProhibited => 1
  | .connectFailed => 2
  | .unknownChannelType => 3
  | .resourceShortage => 4

def text : RejectReason → String
  | .administrativelyProhibited => "administratively prohibited"
  | .connectFailed => "connect failed"
  | .unknownChannelType => "unknown channel type"
  | .resourceShortage => "resource shortage"

end RejectReason

/-- A channel that was refused, as the transport sees it. -/
structure Rejection where
  reason : RejectReason
  message : String
deriving DecidableEq, Repr

namespace Rejection

/-- An open that was dropped without a decision. -/
def abandoned : Rejection :=
  ⟨.resourceShortage, "channel open abandoned"⟩

/-- An open of a type that nothing serves. -/
def unsupported (channelType : String) : Rejection :=
  ⟨.unknownChannelType, (Failure.unsupportedChannelType channelType).message⟩

end Rejection

abbrev Decision := Except Rejection Unit

end SshServer
