import Mathlib.Data.List.Basic
import Mathlib.Data.List.Induction
import SshServer.Connection.Authentication
import SshServer.Proofs.Run

/-!
Contract: whose name and whose key a context carries after any attempts to authenticate.

Owns: that what is decided about an attempt does not depend on the attempts before it; the name and
the key of the context; and when both are of one attempt.
Does not own: when the context is reported, and that it stays (`Proofs.Connection.Lifetime`).

Name and key are kept apart, each from the last accepted attempt that had one. A transport that
takes no attempt after one that was accepted never sees a context with the key of another attempt.
-/

namespace SshServer

/-- The key that an attempt offers. -/
def AuthAttempt.key? : AuthAttempt → Option PublicKey
  | .publicKey _ key => some key
  | .bare _ | .password _ _ => none

namespace Peer

variable (policy : AuthPolicy) (peer : Peer)

def afterAttempts (attempts : List AuthAttempt) : Peer :=
  runFrom (fun peer attempt => (peer.authenticate policy attempt).1) peer attempts

/-- What the transport is told about each attempt. -/
def verdicts (attempts : List AuthAttempt) : List Bool :=
  observed (fun peer attempt => (peer.authenticate policy attempt).1)
    (fun peer attempt => [(peer.authenticate policy attempt).2]) peer attempts

/-- The attempts that a peer of these addresses is accepted with. -/
def acceptable (attempts : List AuthAttempt) : List AuthAttempt :=
  attempts.filter (peer.accepts policy)

/-- An attempt is decided about by the deciders alone. -/
theorem accepts_authenticate (attempt : AuthAttempt) :
    (peer.authenticate policy attempt).1.accepts policy = peer.accepts policy := by
  unfold authenticate
  split
  · funext other
    cases other <;> rfl
  · rfl

theorem verdict_authenticate (attempt : AuthAttempt) :
    (peer.authenticate policy attempt).2 = peer.accepts policy attempt := by
  unfold authenticate
  split
  next accepted => exact accepted.symm
  next rejected => exact (Bool.eq_false_iff.2 rejected).symm

/-- The name and the key after one attempt. -/
theorem authenticate_accepted {attempt : AuthAttempt}
    (accepted : peer.accepts policy attempt = true) :
    (peer.authenticate policy attempt).1 =
      { peer with user := some attempt.user, publicKey := attempt.key?.or peer.publicKey } := by
  unfold authenticate
  rw [if_pos accepted]
  cases attempt <;> rfl

theorem authenticate_rejected {attempt : AuthAttempt}
    (rejected : peer.accepts policy attempt = false) :
    (peer.authenticate policy attempt).1 = peer := by
  unfold authenticate
  rw [if_neg (Bool.eq_false_iff.1 rejected)]

theorem accepts_afterAttempts (attempts : List AuthAttempt) :
    (peer.afterAttempts policy attempts).accepts policy = peer.accepts policy :=
  runFrom_induction _ (fun other : Peer => other.accepts policy = peer.accepts policy)
    (fun other attempt same => (other.accepts_authenticate policy attempt).trans same) rfl attempts

/-- What the transport is told about an attempt does not depend on the attempts before it. -/
theorem verdicts_eq (attempts : List AuthAttempt) :
    peer.verdicts policy attempts = attempts.map (peer.accepts policy) := by
  induction attempts using List.reverseRecOn with
  | nil => rfl
  | append_singleton attempts attempt inductionHypothesis =>
      have verdict : ((peer.afterAttempts policy attempts).authenticate policy attempt).2 =
          peer.accepts policy attempt := by
        rw [verdict_authenticate, accepts_afterAttempts]
      rw [verdicts, observed_snoc, List.map_append]
      exact congrArg₂ _ inductionHypothesis (congrArg (fun told => [told]) verdict)

/-- The name is that of the last accepted attempt, and the key that of the last accepted attempt
with a key. -/
theorem afterAttempts_eq (attempts : List AuthAttempt) :
    peer.afterAttempts policy attempts =
      { peer with
        user := ((peer.acceptable policy attempts).getLast?.map AuthAttempt.user).or peer.user
        publicKey := ((peer.acceptable policy attempts).filterMap AuthAttempt.key?).getLast?.or
          peer.publicKey } := by
  induction attempts using List.reverseRecOn with
  | nil => rfl
  | append_singleton attempts attempt inductionHypothesis =>
      have sameAccepts := peer.accepts_afterAttempts policy attempts
      rw [afterAttempts, runFrom_snoc, ← afterAttempts, acceptable, List.filter_append,
        ← acceptable, List.filter_singleton]
      cases verdict : peer.accepts policy attempt with
      | false =>
          rw [cond_false, List.append_nil,
            authenticate_rejected policy _ (sameAccepts ▸ verdict), inductionHypothesis]
      | true =>
          rw [cond_true, authenticate_accepted policy _ (sameAccepts ▸ verdict),
            inductionHypothesis, List.getLast?_concat, List.filterMap_append, List.getLast?_append]
          cases attempt <;> simp [AuthAttempt.key?]

/-- The key is that of the last accepted attempt if this has one, or if no accepted attempt has. -/
theorem publicKey_of_last {accepted : List AuthAttempt} {last : AuthAttempt}
    (isLast : accepted.getLast? = some last)
    (hasKey : last.key?.isSome = true ∨ ∀ attempt ∈ accepted, attempt.key? = none) :
    (accepted.filterMap AuthAttempt.key?).getLast? = last.key? := by
  obtain ⟨before, rfl⟩ := List.getLast?_eq_some_iff.1 isLast
  rcases hasKey with hasKey | noKey
  · obtain ⟨key, isKey⟩ := Option.isSome_iff_exists.1 hasKey
    rw [List.filterMap_append, List.filterMap_cons_some isKey, isKey]
    exact List.getLast?_concat
  · rw [List.filterMap_eq_nil_iff.2 noKey, noKey last (List.mem_append_right _ (.head _))]
    rfl

/-- Whatever is attempted on a new connection, each attempt is decided about by the deciders alone.
The context has the name of the last accepted attempt, and the key of the last accepted attempt with
a key; and both are of one attempt, unless attempts with a key and then without were accepted. -/
theorem context_after_attempts (connectionId : Nat) (remoteAddress localAddress : SocketAddress)
    (attempts : List AuthAttempt) :
    let peer : Peer := { connectionId, remoteAddress, localAddress }
    let accepted := attempts.filter (peer.accepts policy)
    let context := (peer.afterAttempts policy attempts).context
    peer.verdicts policy attempts = attempts.map (peer.accepts policy) ∧
      context =
        { user := (accepted.getLast?.map AuthAttempt.user).getD ""
          remoteAddress, localAddress, connectionId
          publicKey := (accepted.filterMap AuthAttempt.key?).getLast? } ∧
      ∀ last, accepted.getLast? = some last →
        (last.key?.isSome = true ∨ ∀ attempt ∈ accepted, attempt.key? = none) →
          context.user = last.user ∧ context.publicKey = last.key? := by
  intro peer accepted context
  have isContext : context =
      { user := (accepted.getLast?.map AuthAttempt.user).getD ""
        remoteAddress, localAddress, connectionId
        publicKey := (accepted.filterMap AuthAttempt.key?).getLast? } := by
    show (peer.afterAttempts policy attempts).context = _
    rw [afterAttempts_eq]
    simp only [Peer.context, contextFor, acceptable, Option.or_none, peer, accepted]
  refine ⟨peer.verdicts_eq policy attempts, isContext, fun last isLast hasKey => ?_⟩
  rw [isContext, publicKey_of_last isLast hasKey, isLast]
  exact ⟨rfl, rfl⟩

/-- Where a key is accepted, and then a password of somebody else, the context pairs the two. -/
theorem context_pairs_attempts :
    let policy : AuthPolicy :=
      { password := some fun context _ => context.user == "bob"
        publicKey := some fun context _ => context.user == "alice" }
    let key : PublicKey := ⟨"ssh-ed25519", .empty⟩
    let peer : Peer :=
      { connectionId := 0, remoteAddress := default, localAddress := default }
    let attempts : List AuthAttempt := [.publicKey "alice" key, .password "bob" "secret"]
    peer.verdicts policy attempts = [true, true] ∧
      (peer.afterAttempts policy attempts).context.user = "bob" ∧
      (peer.afterAttempts policy attempts).context.publicKey = some key := by
  decide +kernel

end Peer

end SshServer
