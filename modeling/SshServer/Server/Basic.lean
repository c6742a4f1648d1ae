import SshServer.Server.HostKey
import SshServer.Server.Options

/-!
Contract: a server with the handlers that its connections are given.

Owns: the building of a server from its options, the registration of handlers while it runs, and the
start of listening.
Does not own: the serving of a connection (`Connection.Dispatcher`), which is given the handlers as
they are when it is accepted and keeps them.
-/

namespace SshServer

structure Server (ρ κ : Type) where
  options : ServerOptions ρ κ
  /-- The handlers of connections that are accepted from now on. -/
  handlers : Registry (ChannelHandler ρ κ)

namespace Server

variable {ρ κ : Type}

def ofOptions (options : ServerOptions ρ κ) : Server ρ κ :=
  let sessions : ChannelHandler ρ κ := .sessions options.program options.subsystems.entries
  { options
    handlers := .ofList ((ChannelType.session, sessions) :: options.channelHandlers.entries) }

/-- The failure of options that name two keys. -/
def twoHostKeys : Failure :=
  .configuration "set either a host key path or PEM data, not both"

def build (options : ServerOptions ρ κ) : Except Failure (Server ρ κ) :=
  if options.hostKeyPem.isSome && options.hostKeyPath.isSome then .error twoHostKeys
  else .ok (ofOptions options)

/-- Registers a handler for a type of channels. Connections that are served keep what they have. -/
def handleChannel (server : Server ρ κ) (channelType : String) (handler : ChannelHandler ρ κ) :
    Server ρ κ :=
  { server with handlers := server.handlers.insert channelType handler }

/-- Begins to listen: the address is bound before the key is loaded. -/
def listen {σ : Type} (server : Server ρ κ) (host : Host σ) : Except Failure HostKey :=
  match SocketAddress.parse? server.options.address with
  | none => .error .addressSyntax
  | some address =>
    match host.bind address with
    | some cause => .error (.io cause)
    | none => HostKey.load host server.options.hostKeyPem server.options.hostKeyPath

def describe (server : Server ρ κ) : String :=
  Text.record "Server" [("options", server.options.describe)]

end Server

end SshServer
