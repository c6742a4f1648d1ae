import SshServer.Proofs.Session.Exit

/-!
Contract: the channel of a session is closed when the task of the session returns.

Owns: where the loop can be after an operation; that a task that returned leaves a closed channel
behind, on which no holder has success any more; and that a task that is cancelled leaves its
channel as it was.
Does not own: what is queued before the close (`Proofs.Session.Exit`).

A task returns only by way of the release, which closes the channel if nothing else did. A task that
is cancelled drops what it holds and goes no such way, so that whoever still holds the session can
write to it.
-/

namespace SshServer.Session

/-! ### Where the loop is -/

/-- Nobody but the loop itself moves it, unless its task is cancelled. -/
theorem step_phase (session : Session) {act : SessionAct} (other : act ≠ .advance)
    (notCancelled : act ≠ .cancel) : (session.step act).phase = session.phase := by
  have exitPhase (status : UInt32) : (session.exit status).1.phase = session.phase := by
    unfold exit
    split <;> rfl
  cases act with
  | advance => exact absurd rfl other
  | cancel => exact absurd rfl notCancelled
  | takeTerminal =>
      show session.takeTerminal.1.phase = session.phase
      unfold takeTerminal
      split
      · rfl
      · split <;> rfl
  | reregisterSignals receiver =>
      show (session.reregisterSignals receiver).phase = session.phase
      unfold reregisterSignals
      split <;> rfl
  | takeWindow receiver =>
      obtain ⟨_, same⟩ := session.takeWindow_cases receiver
      rw [same]
  | takeSignal receiver =>
      obtain ⟨_, same⟩ := session.takeSignal_cases receiver
      rw [same]
  | exit status => exact exitPhase status
  | endHandler ending =>
      show (session.endHandler ending).phase = session.phase
      unfold endHandler
      split
      · exact exitPhase ending.status
      · rfl
  | loseHandler =>
      show session.loseHandler.phase = session.phase
      unfold loseHandler
      split <;> rfl
  | registerSignals | dropWindows | dropSignals | write | shutdown | close | output | input
  | requests => rfl

theorem cancel_phase (session : Session) :
    session.cancel.phase = .finished ∧ session.cancel = session ∨
      session.cancel.phase = .cancelled := by
  unfold cancel
  split
  next finished => exact .inl ⟨finished, rfl⟩
  next cancelled => exact .inr cancelled
  · exact .inr rfl
  · obtain ⟨_, same⟩ := session.endLoop_cases .cancelled
    rw [same]
    exact .inr rfl

/-- A loop that is not draining does not come to its end with its next step. -/
theorem LoopStep.not_finished {before after : Session} (step : LoopStep before after)
    (phase : before.phase ≠ .draining) : after.phase ≠ .finished := by
  cases step with
  | noticed => exact LoopPhase.noConfusion
  | dispatched request requests =>
      obtain ⟨next, _, _, same, cases⟩ := dispatch_cases
        { before with channel := { before.channel with requests } } request
      rw [same]
      rcases cases with ⟨rfl, -⟩ | ⟨rfl, -⟩
      · exact LoopPhase.noConfusion
      · exact LoopPhase.noConfusion
  | finished request =>
      obtain ⟨_, same⟩ := before.finishRequest_cases request
      rw [same]
      exact LoopPhase.noConfusion
  | handed | waits => exact LoopPhase.noConfusion
  | stopped =>
      obtain ⟨_, same⟩ := before.endLoop_cases .draining
      rw [same]
      exact LoopPhase.noConfusion
  | drained draining => exact absurd draining phase

/-- A loop that is draining waits for the handler, and then releases the channel. -/
theorem advance_of_draining {session : Session} (draining : session.phase = .draining) :
    session.step .advance = session ∨
      session.step .advance = { session.release with phase := .finished } := by
  show session.advanceLoop?.getD session = _ ∨ session.advanceLoop?.getD session = _
  cases handler : session.handler with
  | running program =>
      left
      simp [advanceLoop?, draining, handler]
  | idle | finished =>
      right
      simp [advanceLoop?, draining, handler]

/-- A loop that is over stays where it is. -/
theorem advance_of_over {session : Session} (isOver : session.isOver = true) :
    session.advanceLoop? = none := by
  simp only [Session.isOver, Bool.or_eq_true, beq_iff_eq] at isOver
  rcases isOver with finished | cancelled
  · simp [advanceLoop?, finished]
  · simp [advanceLoop?, cancelled]

/-! ### The task returns -/

/-- A task comes to its end by releasing the channel. -/
theorem closed_of_finished {session : Session} (sound : Sound session)
    (before : session.phase = .finished → session.channel.output.closed = true)
    (act : SessionAct) (finished : (session.step act).phase = .finished) :
    (session.step act).channel.output.closed = true := by
  by_cases isAdvance : act = .advance
  · subst isAdvance
    by_cases draining : session.phase = .draining
    · rcases advance_of_draining draining with waits | released
      · rw [waits, draining] at finished
        exact LoopPhase.noConfusion finished
      · rw [released]
        exact Outbox.close_closed _
    · rcases session.advance_cases with waits | step
      · rw [waits] at finished ⊢
        exact before finished
      · exact absurd finished (step.not_finished draining)
  · by_cases isCancel : act = .cancel
    · subst isCancel
      rcases session.cancel_phase with ⟨isFinished, same⟩ | cancelled
      · change session.cancel.channel.output.closed = true
        rw [same] at isFinished ⊢
        exact before isFinished
      · change session.cancel.phase = .finished at finished
        rw [cancelled] at finished
        exact LoopPhase.noConfusion finished
    · rw [step_phase session isAdvance isCancel] at finished
      exact sound.closed_step (before finished) act

theorem closed_of_finished_run {start : Session} (sound : Sound start)
    (initial : start.phase = .finished → start.channel.output.closed = true)
    (acts : List SessionAct) (finished : (start.run acts).phase = .finished) :
    (start.run acts).channel.output.closed = true := by
  have kept := runFrom_induction Session.step
    (fun session => Sound session ∧
      (session.phase = .finished → session.channel.output.closed = true))
    (fun _ act kept => ⟨kept.1.step act, closed_of_finished kept.1 kept.2 act⟩)
    ⟨sound, initial⟩ acts
  exact kept.2 finished

/-- A task that returned has returned for good. -/
theorem finished_step {session : Session} (finished : session.phase = .finished)
    (act : SessionAct) : (session.step act).phase = .finished := by
  by_cases isAdvance : act = .advance
  · subst isAdvance
    have isOver : session.isOver = true := by simp [Session.isOver, finished]
    show (session.advanceLoop?.getD session).phase = .finished
    rw [advance_of_over isOver]
    exact finished
  · by_cases isCancel : act = .cancel
    · subst isCancel
      show session.cancel.phase = .finished
      simp [cancel, finished]
    · rw [step_phase session isAdvance isCancel]
      exact finished

theorem finished_run {session : Session} (finished : session.phase = .finished)
    (acts : List SessionAct) : (session.run acts).phase = .finished :=
  runFrom_induction Session.step (fun session => session.phase = .finished)
    (fun _ act kept => finished_step kept act) finished acts

/-! ### The last message -/

theorem Sound.attached_of_step {session : Session} (sound : Sound session) {act : SessionAct}
    (attached : (session.step act).channel.output.attached = true) :
    session.channel.output.attached = true := by
  rw [step_output] at attached
  exact Outbox.attached_of_run sound.streams _ attached

/-- Where nothing closes the output it stays as open as it was. -/
theorem Sound.closed_of_not_close {session : Session} (sound : Sound session) {act : SessionAct}
    (notClosing : OutputAct.close ∉ session.outputActs act) :
    (session.step act).channel.output.closed = session.channel.output.closed := by
  rw [step_output]
  rcases session.outputActs_cases act with acts | ⟨streamAct, acts⟩ | acts | ⟨status, acts⟩
  · rw [acts]
    rfl
  · rw [acts]
    exact (Outbox.performStream_effect session.channel.output streamAct sound.streams).closed_eq
  · simp [acts] at notClosing
  · simp [acts] at notClosing

/-- An output that was open and is closed now was closed by the operation in between. -/
theorem Sound.close_of_closed {session : Session} (sound : Sound session)
    (wasOpen : session.channel.output.closed = false) {act : SessionAct}
    (closed : (session.step act).channel.output.closed = true) :
    OutputAct.close ∈ session.outputActs act := by
  by_contra notClosing
  rw [sound.closed_of_not_close notClosing, wasOpen] at closed
  exact absurd closed Bool.false_ne_true

/-- The operation that closes the output queues the close behind everything else, if anybody is
there to take it. -/
theorem Sound.last_of_close {session : Session} (sound : Sound session)
    (isOpen : session.channel.output.closed = false) {act : SessionAct}
    (closes : OutputAct.close ∈ session.outputActs act)
    (attached : (session.step act).channel.output.attached = true) :
    (session.queuedBy act).getLast? = some .close := by
  have wasAttached := sound.attached_of_step attached
  rw [queuedBy, step_output]
  rcases session.outputActs_cases act with acts | ⟨streamAct, acts⟩ | acts | ⟨status, acts⟩
  · simp [acts] at closes
  · simp [acts] at closes
  · rw [acts]
    show (Outbox.newMessages session.channel.output session.channel.output.close.1).getLast? = _
    rw [Outbox.newMessages_close, if_pos ⟨isOpen, wasAttached⟩]
    rfl
  · rw [acts]
    show (Outbox.newMessages session.channel.output
      (session.channel.output.exitStatus status).1.close.1).getLast? = _
    rw [Outbox.newMessages_exit, if_pos ⟨isOpen, wasAttached⟩]
    rfl

theorem queuedIn_snoc (session : Session) (acts : List SessionAct) (act : SessionAct) :
    session.queuedIn (acts ++ [act]) = session.queuedIn acts ++ (session.run acts).queuedBy act :=
  observed_snoc step queuedBy session acts act

/-- The last message of a closed output is the close, as long as somebody takes from it. -/
theorem Sound.last_queued {start : Session} (sound : Sound start)
    (isOpen : start.channel.output.closed = false) (acts : List SessionAct)
    (closed : (start.run acts).channel.output.closed = true)
    (attached : (start.run acts).channel.output.attached = true) :
    (start.queuedIn acts).getLast? = some .close := by
  induction acts using List.reverseRecOn with
  | nil => exact absurd (isOpen.symm.trans closed) Bool.false_ne_true
  | append_singleton acts act inductionHypothesis =>
      have reached := sound.run acts
      rw [run_snoc] at closed attached
      rw [queuedIn_snoc]
      -- Behind the close that was there before nothing is queued any more.
      cases wasClosed : (start.run acts).channel.output.closed with
      | true =>
          rw [reached.queuedBy_of_closed wasClosed, List.append_nil]
          exact inductionHypothesis wasClosed (reached.attached_of_step attached)
      | false =>
          have closes := reached.close_of_closed wasClosed closed
          rw [List.getLast?_append, reached.last_of_close wasClosed closes attached]
          rfl

/-! ### Who closes the channel -/

/-- In the course of a run a holder or the handler closed the channel. -/
def ClosedByHolder (start : Session) (acts : List SessionAct) : Prop :=
  ∃ earlier act later, acts = earlier ++ act :: later ∧ act ≠ .advance ∧
    OutputAct.close ∈ (start.run earlier).outputActs act

theorem ClosedByHolder.snoc {start : Session} {acts : List SessionAct}
    (closed : start.ClosedByHolder acts) (act : SessionAct) :
    start.ClosedByHolder (acts ++ [act]) := by
  obtain ⟨earlier, closing, later, rfl, other, closes⟩ := closed
  exact ⟨earlier, closing, later ++ [act], by simp, other, closes⟩

/-- The loop closes the channel only in the step in which its task returns. -/
theorem finished_of_advance_close {session : Session}
    (closes : OutputAct.close ∈ session.outputActs .advance) :
    (session.step .advance).phase = .finished := by
  simp only [outputActs] at closes
  show (session.advanceLoop?.getD session).phase = .finished
  split at closes
  next draining idle => simp [advanceLoop?, draining, idle]
  next draining ended => simp [advanceLoop?, draining, ended]
  · exact absurd closes List.not_mem_nil

/-- A task that has not returned has a closed channel only if a holder or the handler closed it. -/
theorem Sound.closed_iff_holder {start : Session} (sound : Sound start)
    (isOpen : start.channel.output.closed = false) (acts : List SessionAct)
    (notReturned : (start.run acts).phase ≠ .finished) :
    (start.run acts).channel.output.closed = true ↔ start.ClosedByHolder acts := by
  constructor
  · intro closed
    induction acts using List.reverseRecOn with
    | nil => exact absurd (isOpen.symm.trans closed) Bool.false_ne_true
    | append_singleton acts act inductionHypothesis =>
        have reached := sound.run acts
        rw [run_snoc] at closed notReturned
        cases wasClosed : (start.run acts).channel.output.closed with
        | true =>
            have notBefore : (start.run acts).phase ≠ .finished :=
              fun finished => notReturned (finished_step finished act)
            exact (inductionHypothesis notBefore wasClosed).snoc act
        | false =>
            have closes := reached.close_of_closed wasClosed closed
            refine ⟨acts, act, [], rfl, ?_, closes⟩
            rintro rfl
            exact notReturned (finished_of_advance_close closes)
  · rintro ⟨earlier, act, later, rfl, -, closes⟩
    have reached := sound.run earlier
    have closedThen := reached.closed_of_close closes
    have closedNow := (reached.step act).hasEnded_run
      ((reached.step act).hasEnded_iff.2 closedThen) later
    rw [Session.run, runFrom_append]
    exact ((reached.step act).run later).hasEnded_iff.1 closedNow

/-! ### Holders of a closed channel -/

/-- No holder has success any more with a write, an exit or a close. -/
structure Refuses (session : Session) : Prop where
  write : ∀ code content, (session.write code content).2 = .error .streamClosed
  poll : ∀ writer code content, content.size ≠ 0 →
    (session.channel.output.pollWrite writer code content).2 =
      .ready (.error (Failure.toIo .streamClosed))
  send : ∀ code content, (session.channel.output.send (.ofStream code content)).2 =
    .done (.error .streamClosed)
  exit : ∀ status, (session.exit status).2 = .error .streamClosed
  close : session.close.2 = .error .streamClosed

theorem refuses_of_closed {session : Session} (closed : session.channel.output.closed = true) :
    session.Refuses where
  write := by
    intro code content
    show Except.map _ (session.channel.output.trySend (.ofStream code content)).2 = _
    rw [Outbox.trySend_of_closed closed]
    rfl
  poll := by
    intro writer code content someBytes
    rw [Outbox.pollWrite, if_neg someBytes, if_pos closed]
  send := by
    intro code content
    rw [Outbox.send_of_closed closed]
  exit := by
    intro status
    have ended : session.hasEnded = true := by simp [hasEnded, closed]
    rw [exit_of_ended ended]
  close := congrArg Prod.snd (Outbox.close_of_closed closed)

/-- Whatever happens before and afterwards, the channel of a session is closed when the task of the
session returns: no write, exit or close of any holder has success any more, and the close is the
last message that is queued, as long as somebody takes the output. To cancel the task closes
nothing, so after that the channel is closed only if a holder or the handler has closed it. -/
theorem closed_on_return (context : Context) (subsystems : List String) (offer : ChannelOffer)
    (awaited : Bool) (acts later : List SessionAct) :
    let start := onOffer context subsystems offer awaited
    let session := start.run acts
    (session.phase = .finished →
      (session.run later).Refuses ∧
        ((session.run later).channel.output.attached = true →
          (start.queuedIn (acts ++ later)).getLast? = some .close)) ∧
      (session.step .cancel).channel.output = session.channel.output ∧
      (session.phase ≠ .finished →
        (session.channel.output.closed = true ↔ start.ClosedByHolder acts)) := by
  intro start session
  have sound : Sound start := Sound.onOffer context subsystems offer awaited
  have isOpen : start.channel.output.closed = false := by
    cases awaited with
    | true => rfl
    | false => rfl
  refine ⟨fun finished => ?_, session.step_output .cancel, sound.closed_iff_holder isOpen acts⟩
  have together : session.run later = start.run (acts ++ later) :=
    (runFrom_append step start acts later).symm
  have stillFinished := finished_run finished later
  rw [together] at stillFinished ⊢
  have closed : (start.run (acts ++ later)).channel.output.closed = true := by
    apply closed_of_finished_run sound _ _ stillFinished
    exact fun atStart => LoopPhase.noConfusion atStart
  exact ⟨refuses_of_closed closed, sound.last_queued isOpen _ closed⟩

/-- A shell returns, and the task with it. -/
theorem closed_on_return_of_shell :
    let start := onOffer default [] ⟨"session", ByteArray.empty⟩ true
    let acts : List SessionAct :=
      [.requests (.send 0 "shell" ByteArray.empty true), .advance, .endHandler .returned, .advance,
        .advance]
    (start.run acts).phase = .finished ∧ ((start.run acts).run [.close]).Refuses ∧
      ((start.run acts).run [.close]).channel.output.attached = true ∧
      (start.queuedIn (acts ++ [.close])).getLast? = some .close ∧
      (start.run []).phase ≠ .finished ∧
      ((start.run []).channel.output.closed = true ↔ start.ClosedByHolder []) :=
  have returned := (closed_on_return default [] ⟨"session", ByteArray.empty⟩ true
    [.requests (.send 0 "shell" ByteArray.empty true), .advance, .endHandler .returned, .advance,
      .advance] [.close]).1 rfl
  ⟨rfl, returned.1, rfl, returned.2 rfl, by decide,
    (closed_on_return default [] ⟨"session", ByteArray.empty⟩ true [] []).2.2 (by decide)⟩

/-- The task is cancelled while the handler of a shell runs. The session counts as closed, and
still whoever holds it can write to the channel and exit. -/
theorem open_after_cancel :
    let start := onOffer default [] ⟨"session", ByteArray.empty⟩ true
    let session := start.run
      [.requests (.send 0 "shell" ByteArray.empty true), .advance, .cancel]
    session.isOver = true ∧ session.closed = true ∧ session.channel.output.attached = true ∧
      session.channel.output.closed = false ∧
      (session.write none ⟨#[108, 97, 116, 101]⟩).2 = .ok 4 ∧ (session.exit 7).2 = .ok () ∧
      session.queuedIn [.write none ⟨#[108, 97, 116, 101]⟩] = [.data ⟨#[108, 97, 116, 101]⟩] ∧
      ¬session.Refuses := by
  refine ⟨rfl, rfl, rfl, rfl, rfl, rfl, rfl, fun refuses => ?_⟩
  exact absurd (refuses.exit 7) (by decide)

end SshServer.Session
