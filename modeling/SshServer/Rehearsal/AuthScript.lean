import SshServer.Connection.Authentication

/-!
Contract: a rehearsal of authentication, with the credentials that are accepted given as tables.

Owns: the policy that a table stands for, the connections of the script, and what a decider was
asked.
Does not own: authentication itself (`Connection.Authentication`).
-/

namespace SshServer.Rehearsal

inductive KeyRule where
  | any
  | exactly (content : ByteArray)
deriving DecidableEq

def KeyRule.admits (rule : KeyRule) (key : PublicKey) : Bool :=
  match rule with
  | .any => true
  | .exactly content => content == key.data

/-- The credentials that are accepted, by user. Without a table nobody is asked. -/
structure Credentials where
  passwords : Option (List (String × String))
  keys : Option (List (String × List KeyRule))

def Credentials.policy (credentials : Credentials) : AuthPolicy where
  password :=
    credentials.passwords.map fun table context password =>
      table.lookup context.user == some password
  publicKey :=
    credentials.keys.map fun table context key =>
      ((table.lookup context.user).getD []).any fun rule => rule.admits key

inductive AuthStep where
  | connect (remoteAddress localAddress : SocketAddress)
  | attempt (index : Nat) (attempt : AuthAttempt)

/-- What a decider was asked, and what it decided. -/
structure AuthCall where
  context : Context
  attempt : AuthAttempt
  verdict : Bool

inductive AuthAnswer where
  | connected (connectionId : Nat)
  | judged (accepted : Bool) (call : Option AuthCall)
  | unavailable

/-- The question that an attempt puts to a decider, if it puts one. -/
def authCall? (policy : AuthPolicy) (peer : Peer) (attempt : AuthAttempt) : Option AuthCall :=
  let asked :=
    match attempt with
    | .bare _ => false
    | .password _ _ => policy.password.isSome
    | .publicKey _ _ => policy.publicKey.isSome
  if asked then some ⟨peer.contextFor attempt.user, attempt, peer.accepts policy attempt⟩ else none

/-- Performs a step. Connections are numbered from one on. -/
def authStep (policy : AuthPolicy) (peers : List Peer) : AuthStep → List Peer × AuthAnswer
  | .connect remoteAddress localAddress =>
    let connectionId := peers.length + 1
    (peers ++ [{ connectionId, remoteAddress, localAddress }], .connected connectionId)
  | .attempt index attempt =>
    match peers[index]? with
    | none => (peers, .unavailable)
    | some peer =>
      let (after, accepted) := peer.authenticate policy attempt
      (peers.set index after, .judged accepted (authCall? policy peer attempt))

def playAuth (policy : AuthPolicy) : List Peer → List AuthStep → List AuthAnswer
  | _, [] => []
  | peers, step :: rest =>
    let (peers, answer) := authStep policy peers step
    answer :: playAuth policy peers rest

end SshServer.Rehearsal
