import SshServer.Failure
import SshServer.Net.Address

/-!
Contract: what the machine that the server runs on answers to the network.

Owns: the outcomes of dialling a target, of binding an address and of reading a file, as functions,
and the host without a network.
Does not own: who dials or binds, and what a connected stream then carries.
-/

namespace SshServer

/-- What dialling a target comes to. -/
inductive DialAnswer (σ : Type) where
  | connected (stream : σ)
  | failed (cause : IoFailure)
  | silent

/-- A machine as the server sees it. Connected targets are streams of the kind `σ`. -/
structure Host (σ : Type) where
  dial : String → UInt16 → DialAnswer σ
  /-- The failure with which binding an address ends; none once bound. -/
  bind : SocketAddress → Option IoFailure
  readFile : String → Except IoFailure ByteArray

namespace Host

def unreachable : IoFailure :=
  ⟨.networkUnreachable, "Network is unreachable (os error 101)"⟩

def notAvailable : IoFailure :=
  ⟨.addrNotAvailable, "Cannot assign requested address (os error 99)"⟩

def noSuchFile : IoFailure :=
  ⟨.notFound, "No such file or directory (os error 2)"⟩

/-- A machine without network interfaces or files: no target can be reached, so there are no
streams, while every address of the first family, and the unspecified one of the second, can
be bound. -/
def isolated : Host Empty where
  dial _ _ := .failed unreachable
  bind address :=
    match address with
    | .v4 _ _ => none
    | .v6 groups _ _ => if groups.all (· == 0) then none else some notAvailable
  readFile _ := .error noSuchFile

end Host

end SshServer
