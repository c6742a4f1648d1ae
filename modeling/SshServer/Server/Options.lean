import SshServer.Connection.Authentication
import SshServer.Connection.Handler
import SshServer.Connection.Registry
import SshServer.Text.Duration

/-!
Contract: how a server is configured.

Owns: the options with their defaults, and what a log shows of them.
Does not own: which options exclude each other (`Server.Basic`).
-/

namespace SshServer

/-- The configuration of a server whose sessions run programs of the kind `ρ`, and that has handlers
of the kind `κ` beside those of the library. -/
structure ServerOptions (ρ κ : Type) where
  address : String := "0.0.0.0:22"
  version : String := "SSH-2.0-Burrow"
  banner : Option String := none
  hostKeyPath : Option String := none
  hostKeyPem : Option ByteArray := none
  program : Option ρ := none
  subsystems : Registry ρ := {}
  /-- Handlers of channels by type. One for sessions replaces that of the library. -/
  channelHandlers : Registry (ChannelHandler ρ κ) := {}
  auth : AuthPolicy := {}
  /-- After how many milliseconds without traffic a connection ends. -/
  idleTimeout : Option Nat := none
  maxAuthAttempts : UInt32 := 6
  /-- How many milliseconds the refusal of an attempt takes. -/
  authRejectionDelay : Nat := 100

namespace ServerOptions

variable {ρ κ : Type}

def describe (options : ServerOptions ρ κ) : String :=
  Text.record "ServerOptions"
    [("address", Text.quoted options.address),
     ("version", Text.quoted options.version),
     ("banner", Text.optional Text.quoted options.banner),
     ("host_key_path", Text.optional Text.quoted options.hostKeyPath),
     ("idle_timeout", Text.optional Text.duration options.idleTimeout),
     ("channel_types",
       Text.listed (options.channelHandlers.entries.map fun entry => Text.quoted entry.1))]

end ServerOptions

end SshServer
