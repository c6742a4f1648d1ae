import SshServer.Proofs.Output.Results
import SshServer.Proofs.Session.LettingGo

/-!
Contract: the marks of the end of a session agree.

Owns: that a session counts as closed as soon as its output is closed, it has exited or a feed is
closed; that both feeds are closed together and are empty then; and that a session which does not
count as closed refuses nobody for that reason.
Does not own: who closes a session, and what its end does to those who wait for it
(`Proofs.Session.Closing`, `Proofs.Session.LettingGo`), and what an output that is open tells its
writers (`Proofs.Output.Results`).

The marks are set by different operations in different orders. An exit and a close set the mark of
the exit and close the output, the end of the loop closes the feeds, and each sets the mark of the
session too. The release closes the output alone, but it comes after the end of the loop.
-/

namespace SshServer.Session

/-- No write, exit or close of any holder is refused because the stream is closed. -/
structure Unrefused (session : Session) : Prop where
  output : session.channel.output.NeverStreamClosed
  write : ∀ code content, (session.write code content).2 ≠ .error .streamClosed
  exit : ∀ status, (session.exit status).2 ≠ .error .streamClosed
  close : session.close.2 ≠ .error .streamClosed

theorem unrefused_of_open {session : Session} (notEnded : session.hasEnded = false) :
    session.Unrefused := by
  have isOpen : session.channel.output.closed = false := (Bool.or_eq_false_iff.1 notEnded).2
  have never := Outbox.neverStreamClosed_of_open isOpen
  refine ⟨never, ?_, ?_, never.close⟩
  · intro code content
    have result := never.trySend (.ofStream code content)
    show Except.map _ (session.channel.output.trySend (.ofStream code content)).2 ≠ _
    cases answered : (session.channel.output.trySend (.ofStream code content)).2 with
    | ok _ => rintro ⟨⟩
    | error cause =>
        rw [answered] at result
        exact fun told => result (congrArg Except.error (Except.error.inj told))
  · intro status
    obtain ⟨notExited, -⟩ := Bool.or_eq_false_iff.1 notEnded
    simp only [Session.exit, notExited, isOpen, onOutput, Outbox.exitStatus, Outbox.push,
      Outbox.close]
    cases session.channel.output.attached with
    | true => rintro ⟨⟩
    | false => rintro ⟨⟩

/-! ### Marks of the end -/

theorem closed_exit_of_open {session : Session} (notEnded : session.hasEnded = false)
    (status : UInt32) : (session.exit status).1.closed = true := by
  unfold hasEnded at notEnded
  rw [Session.exit, if_neg (Bool.eq_false_iff.1 notEnded)]

/-- Whatever closes the output leaves the session closed. The loop does so only when it has left
off. -/
theorem closed_of_outputActs {session : Session}
    (letGo : session.phase.leftOff = true → LetGo session) {act : SessionAct}
    (closes : OutputAct.close ∈ session.outputActs act) : (session.step act).closed = true := by
  have ofExit (status : UInt32) (exits : OutputAct.close ∈ session.exitActs status) :
      (session.exit status).1.closed = true := by
    unfold exitActs at exits
    split at exits
    · exact absurd exits List.not_mem_nil
    next notEnded => exact closed_exit_of_open (Bool.eq_false_iff.2 notEnded) status
  cases act with
  | exit status => exact ofExit status closes
  | close => rfl
  | advance =>
      simp only [outputActs] at closes
      split at closes
      next draining _ => exact closed_step (letGo (by rw [draining]; rfl)).closed .advance
      next draining _ => exact closed_step (letGo (by rw [draining]; rfl)).closed .advance
      · exact absurd closes List.not_mem_nil
  | endHandler ending =>
      simp only [outputActs] at closes
      split at closes
      next program running =>
        show (session.endHandler ending).closed = true
        simp only [endHandler, running]
        exact ofExit ending.status closes
      · exact absurd closes List.not_mem_nil
  | write | shutdown | output =>
      exact OutputAct.noConfusion (List.mem_singleton.1 closes)
  | takeTerminal | registerSignals | reregisterSignals | takeWindow | takeSignal | dropWindows
  | dropSignals | input | requests | loseHandler | cancel => exact absurd closes List.not_mem_nil

/-- Both feeds take events. -/
def FeedsOpen (session : Session) : Prop :=
  session.state.windows.closed = false ∧ session.state.signals.closed = false

theorem FeedsOpen.of_events {before after : Session} (feeds : before.FeedsOpen)
    (events : before.state.SameEvents after.state) : after.FeedsOpen :=
  ⟨events.1.2.trans feeds.1, events.2.2.trans feeds.2⟩

theorem FeedsOpen.of_next {session middle : Session} {stage : FlushStage} {event : Handover}
    (feeds : session.FeedsOpen) (next : session.nextEvent? stage = some (event, middle)) :
    middle.FeedsOpen := by
  rcases nextEvent_cases next with ⟨_, _, _, -, -, rfl⟩ | ⟨_, _, _, -, -, rfl⟩
  · exact feeds
  · exact feeds

/-- A step of the loop that leaves the session closed leaves the feeds open, unless it is the end
of the loop. -/
theorem LoopStep.feedsOpen {before after : Session} (step : LoopStep before after)
    (isClosed : after.closed = true) (feeds : before.FeedsOpen)
    (goesOn : after.phase.leftOff = false) : after.FeedsOpen := by
  cases step with
  | noticed _ isOpen _ => exact absurd (isOpen.symm.trans isClosed) Bool.false_ne_true
  | dispatched request requests _ isOpen _ _ =>
      obtain ⟨_, _, _, same, -⟩ := dispatch_cases
        { before with channel := { before.channel with requests } } request
      rw [same] at isClosed
      exact absurd (isOpen.symm.trans isClosed) Bool.false_ne_true
  | finished request =>
      rw [FeedsOpen, finishRequest_state]
      exact feeds
  | handed event request middle delivered source delivery =>
      obtain ⟨_, _, _, _, rfl, events⟩ := deliver_cases delivery
      rcases source with ⟨_, -, next⟩ | ⟨-, -, rfl⟩
      · exact (feeds.of_next next).of_events events
      · exact feeds.of_events events
  | waits event request middle _ next =>
      have middleFeeds : middle.FeedsOpen := feeds.of_next next
      exact middleFeeds
  | stopped => exact absurd goesOn Bool.true_eq_false.mp
  | drained => exact absurd goesOn Bool.true_eq_false.mp

theorem closed_of_rewired {α : Type} {before after : Feed α} {told : Bool}
    (rewired : Rewired before after told) : after.closed = before.closed := by
  rcases rewired with same | ⟨-, number, same⟩
  · rw [same]
  · rw [same, Feed.closed_attach]

/-- What holds of every session that a run leads to. -/
structure Agrees (session : Session) : Prop where
  sound : Sound session
  letGo : session.phase.leftOff = true → LetGo session
  feeds : session.phase.leftOff = false → session.FeedsOpen
  output : session.channel.output.closed = true → session.closed = true

theorem Agrees.output_step {session : Session} (agrees : Agrees session) {act : SessionAct}
    (closed : (session.step act).channel.output.closed = true) :
    (session.step act).closed = true := by
  cases wasClosed : session.channel.output.closed with
  | true => exact closed_step (agrees.output wasClosed) act
  | false => exact closed_of_outputActs agrees.letGo (agrees.sound.close_of_closed wasClosed closed)

/-- A step that leaves the session closed leaves the feeds open, unless the loop leaves off. -/
theorem Agrees.feeds_step {session : Session} (agrees : Agrees session) {act : SessionAct}
    (isClosed : (session.step act).closed = true)
    (goesOn : (session.step act).phase.leftOff = false) : (session.step act).FeedsOpen := by
  -- A loop that has left off stays so, so this one had not.
  have wentOn : session.phase.leftOff = false := by
    rw [← Bool.not_eq_true]
    intro leftOff
    rw [((agrees.letGo leftOff).step act).leftOff] at goesOn
    exact Bool.noConfusion goesOn
  have feeds := agrees.feeds wentOn
  by_cases isAdvance : act = .advance
  · subst isAdvance
    rcases session.advance_cases with waits | step
    · rw [waits]
      exact feeds
    · exact step.feedsOpen isClosed feeds goesOn
  · by_cases isCancel : act = .cancel
    · subst isCancel
      change session.cancel.phase.leftOff = false at goesOn
      rw [cancel_of_goesOn wentOn] at goesOn
      exact Bool.noConfusion goesOn
    · have beside := session.step_beside isAdvance isCancel
      exact ⟨(closed_of_rewired beside.windows).trans feeds.1,
        (closed_of_rewired beside.signals).trans feeds.2⟩

theorem Agrees.onOffer (context : Context) (subsystems : List String) (offer : ChannelOffer)
    (awaited : Bool) : Agrees (Session.onOffer context subsystems offer awaited) where
  sound := .onOffer context subsystems offer awaited
  letGo := fun leftOff => absurd leftOff Bool.false_ne_true
  feeds := fun _ => ⟨rfl, rfl⟩
  output := by
    cases awaited with
    | true => exact fun closed => absurd closed Bool.false_ne_true
    | false => exact fun closed => absurd closed Bool.false_ne_true

/-- Every step restores the agreement. While the session is open, the feeds are open because of what
it has made of its requests. -/
theorem agrees_run (context : Context) (subsystems : List String) (offer : ChannelOffer)
    (awaited : Bool) (acts : List SessionAct) :
    Agrees ((Session.onOffer context subsystems offer awaited).run acts) := by
  induction acts using List.reverseRecOn with
  | nil => exact .onOffer context subsystems offer awaited
  | append_singleton acts act inductionHypothesis =>
      have tracks := tracks_run context subsystems offer awaited (acts ++ [act])
      rw [run_snoc] at tracks ⊢
      refine ⟨inductionHypothesis.sound.step act, letGo_step inductionHypothesis.letGo act, ?_,
        inductionHypothesis.output_step⟩
      intro goesOn
      cases isClosed : (((Session.onOffer context subsystems offer awaited).run acts).step
          act).closed with
      | true => exact inductionHypothesis.feeds_step isClosed goesOn
      | false => exact ⟨(tracks isClosed).windowsOpen, (tracks isClosed).signalsOpen⟩

/-! ### The agreement -/

/-- The marks of the end agree: the feeds are closed together, and empty then, and a session counts
as closed wherever one of the others says so. -/
structure MarksAgree (session : Session) : Prop where
  ofOutput : session.channel.output.closed = true → session.closed = true
  ofExit : session.state.exited = true → session.closed = true
  ofWindows : session.state.windows.closed = true → session.closed = true
  ofSignals : session.state.signals.closed = true → session.closed = true
  together : session.state.windows.closed = session.state.signals.closed
  windowsEmpty : session.state.windows.closed = true →
    session.state.windows.consumer = none ∧ session.state.windows.pending = []
  signalsEmpty : session.state.signals.closed = true →
    session.state.signals.consumer = none ∧ session.state.signals.pending = []

theorem Agrees.marks {session : Session} (agrees : Agrees session) : session.MarksAgree := by
  have ofExit (exited : session.state.exited = true) : session.closed = true :=
    agrees.output (agrees.sound.exitCloses exited)
  cases phase : session.phase.leftOff with
  | true =>
      have letGo := agrees.letGo phase
      have isClosed := letGo.closed
      exact {
        ofOutput := agrees.output
        ofExit
        ofWindows := fun _ => isClosed
        ofSignals := fun _ => isClosed
        together := by rw [letGo.windows, letGo.signals]
        windowsEmpty := fun _ => by rw [letGo.windows]; exact ⟨rfl, rfl⟩
        signalsEmpty := fun _ => by rw [letGo.signals]; exact ⟨rfl, rfl⟩ }
  | false =>
      obtain ⟨windowsOpen, signalsOpen⟩ := agrees.feeds phase
      exact {
        ofOutput := agrees.output
        ofExit
        ofWindows := fun closed => absurd (windowsOpen.symm.trans closed) Bool.false_ne_true
        ofSignals := fun closed => absurd (signalsOpen.symm.trans closed) Bool.false_ne_true
        together := windowsOpen.trans signalsOpen.symm
        windowsEmpty := fun closed => absurd (windowsOpen.symm.trans closed) Bool.false_ne_true
        signalsEmpty := fun closed => absurd (signalsOpen.symm.trans closed) Bool.false_ne_true }

theorem Agrees.unrefused {session : Session} (agrees : Agrees session)
    (isOpen : session.closed = false) : session.Unrefused := by
  apply unrefused_of_open
  rw [← Bool.not_eq_true, agrees.sound.hasEnded_iff]
  intro closed
  exact absurd (isOpen.symm.trans (agrees.output closed)) Bool.false_ne_true

/-- Whatever happens to a session, the marks of its end agree, the mark of the session is never
taken back, and as long as it is not set nobody is refused because the stream is closed. -/
theorem lifecycle_agrees (context : Context) (subsystems : List String) (offer : ChannelOffer)
    (awaited : Bool) (acts later : List SessionAct) :
    let session := (Session.onOffer context subsystems offer awaited).run acts
    session.MarksAgree ∧
      (session.closed = true → (session.run later).closed = true) ∧
      (session.closed = false → session.Unrefused) := by
  intro session
  have agrees : Agrees session := agrees_run context subsystems offer awaited acts
  exact ⟨agrees.marks, fun isClosed => closed_run isClosed later, agrees.unrefused⟩

/-- A session whose task is cancelled counts as closed, though its output is open, and stays so when
it exits later. One that was just accepted is open. -/
theorem lifecycle_agrees_of_cancel :
    let start := onOffer default [] ⟨"session", ByteArray.empty⟩ true
    let session := start.run [.requests (.send 0 "shell" ByteArray.empty true), .advance, .cancel]
    session.channel.output.closed = false ∧ session.state.exited = false ∧
      session.MarksAgree ∧ session.state.windows.closed = true ∧
      session.state.signals.closed = true ∧ session.closed = true ∧
      (session.run [.exit 7]).channel.output.closed = true ∧
      (session.run [.exit 7]).closed = true ∧ (start.run []).closed = false ∧
      (start.run []).Unrefused := by
  intro start session
  have cancelled := lifecycle_agrees default [] ⟨"session", ByteArray.empty⟩ true
    [.requests (.send 0 "shell" ByteArray.empty true), .advance, .cancel] [.exit 7]
  have fresh := lifecycle_agrees default [] ⟨"session", ByteArray.empty⟩ true [] []
  exact ⟨rfl, rfl, cancelled.1, rfl, rfl, rfl, rfl, cancelled.2.1 rfl, rfl, fresh.2.2 rfl⟩

end SshServer.Session
