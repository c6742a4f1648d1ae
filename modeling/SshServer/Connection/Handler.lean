import SshServer.Text.Quoted
import SshServer.Tunnel.Opening

/-!
Contract: what can be registered for a type of channels.

Owns: the handlers that come with the library, and the place of those that do not.
Does not own: the running of sessions and tunnels (`Session.RequestLoop`, `Tunnel.Opening`).
-/

namespace SshServer

/-- A handler of channels. `ρ` are programs of sessions, and `κ` handlers that do not come with
the library. -/
inductive ChannelHandler (ρ κ : Type) where
  /-- Sessions. A session without a main program ends as soon as it has started. -/
  | sessions (main : Option ρ) (subsystems : List (String × ρ))
  | tunnels (policy : TunnelPolicy)
  | other (handler : κ)

def describeSessionHandler (subsystems : List String) : String :=
  "SessionChannelHandler \x7b subsystems: " ++ Text.listed (subsystems.map Text.quoted) ++
    ", .. \x7d"

end SshServer
