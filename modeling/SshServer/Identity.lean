import SshServer.Bytes
import SshServer.Net.Address

/-!
Contract: who is connected, and from where.

Owns: public keys, and the facts about a connection that every channel of it shares.
Does not own: how an identity is established (`Connection.Authentication`).
-/

namespace SshServer

/-- A public key as the peer offered it. -/
structure PublicKey where
  /-- The algorithm, such as `ssh-ed25519`. -/
  keyType : String
  data : ByteArray
deriving DecidableEq

/-- The facts about a connection that every channel of it shares. -/
structure Context where
  user : String
  remoteAddress : SocketAddress
  localAddress : SocketAddress
  connectionId : Nat := 0
  /-- The key that the peer was accepted with, if it was accepted with one. -/
  publicKey : Option PublicKey := none
deriving DecidableEq

instance : Inhabited Context := ⟨⟨"", default, default, 0, none⟩⟩

end SshServer
