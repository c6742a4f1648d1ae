import SshServer.Proofs.Session.Lifecycle

/-!
Contract: what the end of a handler makes of its session.

Owns: what is queued at the end of a handler, and how the session stands afterwards; that a session
whose handler has come to an end counts as closed; and the one end after which it does not.
Does not own: the exits of holders (`Proofs.Session.Exit`), and the marks of the end
(`Proofs.Session.Lifecycle`).

A handler that returns or panics exits its session, where nobody has done so before. One that panics
while it is being called is lost before anything could catch the panic, and nobody exits then.
-/

namespace SshServer.Session

/-! ### Ways to an end -/

theorem LoopStep.finished_handler {before after : Session} (step : LoopStep before after)
    (finished : after.handler = .finished) : before.handler = .finished := by
  cases step with
  | noticed => exact finished
  | dispatched request requests =>
      obtain ⟨_, _, _, same, -⟩ := dispatch_cases
        { before with channel := { before.channel with requests } } request
      rw [same] at finished
      dsimp only at finished
      cases started : (before.state.judge before.subsystems request.kind
          request.payload.toList).2.start with
      | none =>
          rw [started] at finished
          exact finished
      | some program =>
          rw [started] at finished
          exact HandlerPhase.noConfusion finished
  | finished request =>
      obtain ⟨_, same⟩ := before.finishRequest_cases request
      rw [same] at finished
      exact finished
  | handed event request middle delivered source delivery =>
      obtain ⟨_, _, _, _, rfl, -⟩ := deliver_cases delivery
      rcases source with ⟨_, -, next⟩ | ⟨-, -, rfl⟩
      · obtain ⟨_, _, rfl⟩ := nextEvent_frame next
        exact finished
      · exact finished
  | waits event request middle _ next =>
      obtain ⟨_, _, rfl⟩ := nextEvent_frame next
      exact finished
  | stopped =>
      obtain ⟨_, same⟩ := before.endLoop_cases .draining
      rw [same] at finished
      exact finished
  | drained => exact finished

/-- A handler comes to an end by itself, or it is lost, or its task is cancelled. -/
theorem finished_of_step {session : Session} {act : SessionAct}
    (finished : (session.step act).handler = .finished) :
    session.handler = .finished ∨ act = .cancel ∨ act = .loseHandler ∨
      ∃ program ending, session.handler = .running program ∧ act = .endHandler ending := by
  cases act with
  | cancel => exact .inr (.inl rfl)
  | loseHandler => exact .inr (.inr (.inl rfl))
  | endHandler ending =>
      change (session.endHandler ending).handler = .finished at finished
      cases handler : session.handler with
      | running program => exact .inr (.inr (.inr ⟨program, ending, rfl, rfl⟩))
      | finished => exact .inl rfl
      | idle =>
          have stays : session.endHandler ending = session := by simp only [endHandler, handler]
          rw [stays, handler] at finished
          exact HandlerPhase.noConfusion finished
  | advance =>
      left
      rcases session.advance_cases with waits | step
      · rw [waits] at finished
        exact finished
      · exact step.finished_handler finished
  | takeTerminal =>
      left
      change session.takeTerminal.1.handler = .finished at finished
      unfold takeTerminal at finished
      split at finished
      · exact finished
      · split at finished
        · exact finished
        · exact finished
  | reregisterSignals receiver =>
      left
      change (session.reregisterSignals receiver).handler = .finished at finished
      unfold reregisterSignals at finished
      split at finished
      · exact finished
      · exact finished
  | takeWindow receiver =>
      left
      obtain ⟨_, same⟩ := session.takeWindow_cases receiver
      rw [same] at finished
      exact finished
  | takeSignal receiver =>
      left
      obtain ⟨_, same⟩ := session.takeSignal_cases receiver
      rw [same] at finished
      exact finished
  | exit status =>
      left
      change (session.exit status).1.handler = .finished at finished
      unfold exit at finished
      split at finished
      · exact finished
      · exact finished
  | registerSignals | dropWindows | dropSignals | write | shutdown | close | output | input
  | requests => exact .inl finished

/-! ### Sessions whose handler has ended -/

/-- An exit leaves the session closed, be it the one that counts or not. -/
theorem Agrees.closed_exit {session : Session} (agrees : Agrees session) (status : UInt32) :
    (session.exit status).1.closed = true := by
  cases ended : session.hasEnded with
  | true =>
      rw [exit_of_ended ended]
      exact agrees.output (agrees.sound.hasEnded_iff.1 ended)
  | false => exact closed_exit_of_open ended status

theorem Agrees.closed_endHandler {session : Session} (agrees : Agrees session) {program : Program}
    (running : session.handler = .running program) (ending : HandlerEnd) :
    (session.endHandler ending).closed = true := by
  simp only [endHandler, running]
  exact agrees.closed_exit ending.status

theorem Agrees.closed_cancel {session : Session} (agrees : Agrees session) :
    session.cancel.closed = true := by
  cases phase : session.phase.leftOff with
  | true => exact closed_step (agrees.letGo phase).closed .cancel
  | false =>
      rw [cancel_of_goesOn phase]
      rfl

/-- Unless a handler is lost, a session without one that was started counts as closed. -/
theorem closed_of_finished_handler (context : Context) (subsystems : List String)
    (offer : ChannelOffer) (awaited : Bool) (acts : List SessionAct)
    (noneLost : SessionAct.loseHandler ∉ acts)
    (finished : ((onOffer context subsystems offer awaited).run acts).handler = .finished) :
    ((onOffer context subsystems offer awaited).run acts).closed = true := by
  induction acts using List.reverseRecOn with
  | nil => exact HandlerPhase.noConfusion finished
  | append_singleton acts act inductionHypothesis =>
      have agrees := agrees_run context subsystems offer awaited acts
      rw [run_snoc] at finished ⊢
      -- Every way to an end closes the session, but for the loss.
      rcases finished_of_step finished with before | rfl | rfl | ⟨program, ending, running, rfl⟩
      · have noneLostBefore : SessionAct.loseHandler ∉ acts :=
          fun lost => noneLost (List.mem_append_left [act] lost)
        exact closed_step (inductionHypothesis noneLostBefore before) act
      · exact agrees.closed_cancel
      · exact absurd (List.mem_append_right acts (List.mem_singleton_self _)) noneLost
      · exact agrees.closed_endHandler running ending

/-- What becomes of a session when its handler ends: it queues the status that the end stands for and
a close, if nobody has ended it before and somebody takes them, and else nothing, so that an earlier
outcome stands. It counts as closed, and nothing is queued any more. -/
structure EndsWith (session : Session) (ending : HandlerEnd) : Prop where
  queued : session.queuedBy (.endHandler ending) =
    if session.hasEnded = false ∧ session.channel.output.attached = true then
      [.exitStatus ending.status, .close]
    else []
  stands : session.hasEnded = true →
    (session.step (.endHandler ending)).channel = session.channel ∧
      (session.step (.endHandler ending)).state = session.state
  handler : (session.step (.endHandler ending)).handler = .finished
  closed : ∀ later, ((session.step (.endHandler ending)).run later).closed = true
  ended : ∀ later, ((session.step (.endHandler ending)).run later).hasEnded = true
  silent : ∀ later, (session.step (.endHandler ending)).queuedIn later = []

theorem Agrees.endsWith {session : Session} (agrees : Agrees session) {program : Program}
    (running : session.handler = .running program) (ending : HandlerEnd) :
    session.EndsWith ending := by
  have sound := agrees.sound
  have next : Sound (session.step (.endHandler ending)) := sound.step _
  have stepped : session.step (.endHandler ending) =
      { (session.exit ending.status).1 with
          handler := .finished, log := (session.endHandler ending).log } := by
    show session.endHandler ending = _
    simp only [endHandler, running]
  have hasEnded : (session.step (.endHandler ending)).hasEnded = true := by
    rw [stepped]
    exact sound.hasEnded_exit ending.status
  have acts : session.outputActs (.endHandler ending) = session.exitActs ending.status := by
    simp only [outputActs, running]
  constructor
  case queued =>
    rw [queuedBy, step_output, acts]
    cases ended : session.hasEnded with
    | true =>
        have quiet : session.exitActs ending.status = [] := if_pos ended
        rw [quiet, if_neg (fun both => Bool.true_eq_false.mp both.1)]
        exact Outbox.newMessages_of_queue_eq rfl
    | false =>
        have isOpen : session.channel.output.closed = false := (Bool.or_eq_false_iff.1 ended).2
        have queued := Outbox.newMessages_exit session.channel.output ending.status
        rw [isOpen] at queued
        rw [exitActs_of_open ended]
        exact queued
  case stands =>
    intro ended
    rw [stepped, exit_of_ended ended]
    exact ⟨rfl, rfl⟩
  case handler => rw [stepped]
  case closed => exact closed_run (agrees.closed_endHandler running ending)
  case ended => exact next.hasEnded_run hasEnded
  case silent => exact next.queuedIn_of_closed (next.hasEnded_iff.1 hasEnded)

/-- How a handler ends is what the peer sees, whatever has been done to the session before. Unless a
handler is lost while it is being called, no session is left open without its handler. -/
theorem handler_outcome (context : Context) (subsystems : List String) (offer : ChannelOffer)
    (awaited : Bool) (acts : List SessionAct) :
    let session := (onOffer context subsystems offer awaited).run acts
    (∀ program, session.handler = .running program → ∀ ending, session.EndsWith ending) ∧
      (SessionAct.loseHandler ∉ acts → session.handler = .finished → session.closed = true) := by
  intro session
  refine ⟨fun program running ending => ?_, ?_⟩
  · exact (agrees_run context subsystems offer awaited acts).endsWith running ending
  · exact closed_of_finished_handler context subsystems offer awaited acts

/-- A shell panics while it is being called: nothing is queued, the session stays open without a
handler, and it grants no other. -/
theorem open_after_loss :
    let start := onOffer default [] ⟨"session", ByteArray.empty⟩ true
    let acts : List SessionAct :=
      [.requests (.send 0 "shell" ByteArray.empty true), .advance, .loseHandler,
        .requests (.send 0 "shell" ByteArray.empty true), .advance]
    (start.run acts).handler = .finished ∧ (start.run acts).closed = false ∧
      (start.run acts).hasEnded = false ∧ start.queuedIn acts = [] ∧
      (start.seenIn acts).answers = [(0, true), (1, false)] := by
  decide

end SshServer.Session
