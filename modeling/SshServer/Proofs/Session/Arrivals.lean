import SshServer.Proofs.Input.Stream
import SshServer.Proofs.Session.Frame

/-!
Contract: what reaches the loop of a session from outside.

Owns: the requests that arrive over a run; and that whoever is not the loop does no more to what the
loop works with than to bring requests, to collect answers, and to attach consumers, of which the
loop is told.
Does not own: what the loop makes of all that (`Proofs.Session.Release` and
`Proofs.Session.Attention`).
-/

namespace SshServer

/-! ### Requests under way -/

namespace RequestStream

/-- The requests that stand in `after` behind all that stood in `before`. -/
def newRequests (before after : RequestStream) : List Request :=
  Mailbox.newItems before.box after.box

theorem newRequests_of_length_le {before after : RequestStream}
    (fewer : after.box.items.toList.length ≤ before.box.items.toList.length) :
    newRequests before after = [] :=
  Mailbox.newItems_of_length_le fewer

/-- What the senders of requests can do: requests arrive, and answers are collected. -/
structure SenderEffect (before after : RequestStream) : Prop extends
    Mailbox.Brings before.box after.box where
  answers : after.answers.length ≤ before.answers.length

theorem SenderEffect.of_same {before after : RequestStream}
    (items : after.box.items = before.box.items)
    (attached : after.box.attached = before.box.attached)
    (answers : after.answers.length ≤ before.answers.length) : SenderEffect before after :=
  ⟨.of_same items attached, answers⟩

theorem SenderEffect.refl (stream : RequestStream) : SenderEffect stream stream :=
  .of_same rfl rfl (Nat.le_refl _)

theorem step_sender_effect (stream : RequestStream) (act : RequestAct) :
    SenderEffect stream (stream.step act) := by
  refine ⟨?_, Session.answers_step_length stream act⟩
  cases act with
  | send sender kind payload wantReply =>
      obtain ⟨⟨issued, request⟩, made⟩ : ∃ both, stream.issue kind payload wantReply = both :=
        ⟨_, rfl⟩
      have sameBox : issued.box = stream.box := by
        unfold issue at made
        split at made
        · rw [← (Prod.mk.inj made).1]
        · rw [← (Prod.mk.inj made).1]
      have after : stream.step (.send sender kind payload wantReply) =
          (issued.offer sender request).1 := by
        simp only [RequestStream.step, made]
      rw [after, ← sameBox]
      exact issued.box.offer_brings sender request
  | retry sender => exact stream.box.retry_brings sender
  | collect number =>
      have same : (stream.step (.collect number)).box = stream.box := by
        simp only [RequestStream.step, collect?]
        cases stream.answers.lookup number with
        | none => rfl
        | some verdict => rfl
      rw [same]
      exact .of_same rfl rfl
  | withdraw | addSender | dropSender => exact .of_same rfl rfl

end RequestStream

namespace Session

/-- The requests that an operation brings. -/
def arrivedBy (session : Session) (act : SessionAct) : List Request :=
  RequestStream.newRequests session.channel.requests (session.step act).channel.requests

/-- A feed is left as it is, or else a consumer is attached to it and the loop is told. -/
def Rewired {α : Type} (before after : Feed α) (told : Bool) : Prop :=
  after = before ∨ told = true ∧ ∃ number, after = before.attach number

/-- What an operation does to the things that the loop works with, if it is not the loop's own. -/
structure Beside (before after : Session) : Prop where
  requests : RequestStream.SenderEffect before.channel.requests after.channel.requests
  windows : Rewired before.state.windows after.state.windows after.notice
  /-- There is a terminal wherever somebody waits for its sizes. -/
  terminal : after.state.windows = before.state.windows ∨ before.state.terminal.isSome = true
  signals : Rewired before.state.signals after.state.signals after.notice
  notice : before.notice = true → after.notice = true

theorem Beside.of_same {before after : Session}
    (requests : RequestStream.SenderEffect before.channel.requests after.channel.requests)
    (windows : after.state.windows = before.state.windows)
    (signals : after.state.signals = before.state.signals) (notice : after.notice = before.notice) :
    Beside before after :=
  ⟨requests, .inl windows, .inl windows, .inl signals, fun told => notice.trans told⟩

theorem Beside.refl (session : Session) : Beside session session :=
  .of_same (.refl _) rfl rfl rfl

theorem beside_exit (session : Session) (status : UInt32) :
    Beside session (session.exit status).1 := by
  unfold exit
  split
  · exact .refl session
  · exact .of_same (.refl _) rfl rfl rfl

theorem step_beside (session : Session) {act : SessionAct} (other : act ≠ .advance)
    (notCancelled : act ≠ .cancel) : Beside session (session.step act) := by
  cases act with
  | advance => exact absurd rfl other
  | cancel => exact absurd rfl notCancelled
  | takeTerminal =>
      show Beside session session.takeTerminal.1
      unfold takeTerminal
      split
      · exact .refl session
      next terminal found =>
        split
        · exact .refl session
        · refine ⟨.refl _, .inr ⟨rfl, _, rfl⟩, .inr ?_, .inl rfl, fun _ => rfl⟩
          rw [found]
          rfl
  | registerSignals capacity =>
      exact ⟨.refl _, .inl rfl, .inl rfl, .inr ⟨rfl, _, rfl⟩, fun _ => rfl⟩
  | reregisterSignals receiver =>
      show Beside session (session.reregisterSignals receiver)
      unfold reregisterSignals
      split
      · exact ⟨.refl _, .inl rfl, .inl rfl, .inr ⟨rfl, _, rfl⟩, fun _ => rfl⟩
      · exact .refl session
  | takeWindow receiver =>
      obtain ⟨_, same⟩ := session.takeWindow_cases receiver
      rw [same]
      exact .of_same (.refl _) rfl rfl rfl
  | takeSignal receiver =>
      obtain ⟨_, same⟩ := session.takeSignal_cases receiver
      rw [same]
      exact .of_same (.refl _) rfl rfl rfl
  | exit status => exact session.beside_exit status
  | endHandler ending =>
      show Beside session (session.endHandler ending)
      unfold endHandler
      split
      · exact { session.beside_exit ending.status with }
      · exact .refl session
  | loseHandler =>
      show Beside session session.loseHandler
      unfold loseHandler
      split
      · exact .of_same (.refl _) rfl rfl rfl
      · exact .refl session
  | requests act => exact .of_same (RequestStream.step_sender_effect _ act) rfl rfl rfl
  | dropWindows | dropSignals | write | shutdown | close | output | input =>
      exact .of_same (.refl _) rfl rfl rfl

end Session

end SshServer
