import SshServer.Identity
import SshServer.Wire.Basic

/-!
Contract: who the peer of a connection is.

Owns: the policy that decides about credentials, attempts to authenticate, the identity that they
establish, and the context that is reported for the connection.
Does not own: when the context is reported (`Connection.Dispatcher`), and the proof that the peer
has the key that it offers, which the transport demands.

An attempt without credentials is accepted only where no credentials are ever asked for.
-/

namespace SshServer

/-- The algorithm that the bytes of a public key name. -/
def PublicKey.ofBytes? (content : ByteArray) : Option PublicKey :=
  match Wire.readString "algorithm" content.toList with
  | .ok (algorithm, _) => some ⟨algorithm, content⟩
  | .error _ => none

/-- Who decides about credentials. Without a decider no credentials of the kind are accepted. -/
structure AuthPolicy where
  password : Option (Context → String → Bool) := none
  publicKey : Option (Context → PublicKey → Bool) := none

def AuthPolicy.asks (policy : AuthPolicy) : Bool :=
  policy.password.isSome || policy.publicKey.isSome

inductive AuthAttempt where
  | bare (user : String)
  | password (user password : String)
  | publicKey (user : String) (key : PublicKey)
deriving DecidableEq

def AuthAttempt.user : AuthAttempt → String
  | .bare user | .password user _ | .publicKey user _ => user

/-- The peer of a connection, as far as it is known. -/
structure Peer where
  connectionId : Nat
  remoteAddress : SocketAddress
  localAddress : SocketAddress
  /-- The user of the last attempt that was accepted. -/
  user : Option String := none
  /-- The key of the last attempt with a key that was accepted. -/
  publicKey : Option PublicKey := none
deriving DecidableEq

namespace Peer

/-- What a decider is told of the peer. -/
def contextFor (peer : Peer) (user : String) : Context :=
  { user
    remoteAddress := peer.remoteAddress
    localAddress := peer.localAddress
    connectionId := peer.connectionId }

/-- Whether an attempt is accepted. -/
def accepts (policy : AuthPolicy) (peer : Peer) : AuthAttempt → Bool
  | .bare _ => !policy.asks
  | .password user password =>
    match policy.password with
    | none => false
    | some decide => decide (peer.contextFor user) password
  | .publicKey user key =>
    match policy.publicKey with
    | none => false
    | some decide => decide (peer.contextFor user) key

/-- Makes an attempt, and says whether it was accepted. -/
def authenticate (policy : AuthPolicy) (peer : Peer) (attempt : AuthAttempt) : Peer × Bool :=
  if peer.accepts policy attempt then
    ({ peer with
        user := some attempt.user
        publicKey :=
          match attempt with
          | .publicKey _ key => some key
          | _ => peer.publicKey }, true)
  else (peer, false)

/-- Who the peer is said to be when it first uses the connection. -/
def context (peer : Peer) : Context :=
  { peer.contextFor (peer.user.getD "") with publicKey := peer.publicKey }

end Peer

end SshServer
