import SshServer.Proofs.Session.Run

/-!
Contract: what happens to the output of a session.

Owns: the messages that an operation on a session queues, and the operations of the output that it
comes to.
Does not own: what an operation of the output does (`Proofs.Output.Run`).
-/

namespace SshServer.Session

/-- The messages that an operation queues. -/
def queuedBy (session : Session) (act : SessionAct) : List Message :=
  Outbox.newMessages session.channel.output (session.step act).channel.output

/-- The messages that are queued over a run, one after another. -/
def queuedIn (session : Session) (acts : List SessionAct) : List Message :=
  observed step queuedBy session acts

/-- What an exit does to the output: nothing, if the session has ended. -/
def exitActs (session : Session) (status : UInt32) : List OutputAct :=
  if session.state.exited || session.channel.output.closed then []
  else [.exitStatus status, .close]

/-- What an operation on a session does to its output. -/
def outputActs (session : Session) : SessionAct → List OutputAct
  | .write code content => [.stream (.trySend code content)]
  | .shutdown => [.stream .eof]
  | .output act => [.stream act]
  | .exit status => session.exitActs status
  | .close => [.close]
  | .advance =>
    match session.phase, session.handler with
    | .draining, .idle | .draining, .finished => [.close]
    | _, _ => []
  | .endHandler ending =>
    match session.handler with
    | .running _ => session.exitActs ending.status
    | _ => []
  | _ => []

/-- An operation is one of the output, an exit, a close, or none of these. -/
theorem outputActs_cases (session : Session) (act : SessionAct) :
    session.outputActs act = [] ∨ (∃ streamAct, session.outputActs act = [.stream streamAct]) ∨
      session.outputActs act = [.close] ∨
      ∃ status, session.outputActs act = [.exitStatus status, .close] := by
  have ofExit (status : UInt32) : session.exitActs status = [] ∨
      session.exitActs status = [.exitStatus status, .close] := by
    unfold exitActs
    split
    · exact .inl rfl
    · exact .inr rfl
  cases act with
  | write code content => exact .inr (.inl ⟨_, rfl⟩)
  | shutdown => exact .inr (.inl ⟨_, rfl⟩)
  | output act => exact .inr (.inl ⟨_, rfl⟩)
  | exit status =>
      rcases ofExit status with quiet | exits
      · exact .inl quiet
      · exact .inr (.inr (.inr ⟨status, exits⟩))
  | close => exact .inr (.inr (.inl rfl))
  | advance =>
      simp only [outputActs]
      split
      · exact .inr (.inr (.inl rfl))
      · exact .inr (.inr (.inl rfl))
      · exact .inl rfl
  | endHandler ending =>
      simp only [outputActs]
      split
      · rcases ofExit ending.status with quiet | exits
        · exact .inl quiet
        · exact .inr (.inr (.inr ⟨ending.status, exits⟩))
      · exact .inl rfl
  | takeTerminal | registerSignals | reregisterSignals | takeWindow | takeSignal | dropWindows
  | dropSignals | input | requests | loseHandler | cancel => exact .inl rfl

theorem exit_output (session : Session) (status : UInt32) :
    (session.exit status).1.channel.output =
      session.channel.output.run (session.exitActs status) := by
  unfold exit exitActs
  split
  · rfl
  · rfl

theorem endHandler_output (session : Session) (ending : HandlerEnd) :
    (session.endHandler ending).channel.output =
      session.channel.output.run (session.outputActs (.endHandler ending)) := by
  cases handler : session.handler with
  | running program =>
      simp only [endHandler, outputActs, handler]
      exact session.exit_output ending.status
  | idle =>
      simp only [endHandler, outputActs, handler]
      rfl
  | finished =>
      simp only [endHandler, outputActs, handler]
      rfl

/-! ### What the loop does to the output -/

theorem finishRequest_output (session : Session) (request : Option (Request × Bool)) :
    (session.finishRequest request).channel.output = session.channel.output := by
  obtain ⟨_, same⟩ := session.finishRequest_cases request
  rw [same]

theorem dispatch_output (session : Session) (request : Request) :
    (session.dispatch request).channel.output = session.channel.output := by
  obtain ⟨_, _, _, same, -⟩ := session.dispatch_cases request
  rw [same]

theorem endLoop_output (session : Session) (phase : LoopPhase) :
    (session.endLoop phase).channel.output = session.channel.output := by
  obtain ⟨_, same⟩ := session.endLoop_cases phase
  rw [same]

theorem LoopStep.output {before after : Session} (step : LoopStep before after)
    (phase : before.phase ≠ .draining) : after.channel.output = before.channel.output := by
  cases step with
  | noticed => rfl
  | dispatched request requests => exact dispatch_output _ request
  | finished request => exact before.finishRequest_output request
  | handed event request middle delivered source delivery =>
      obtain ⟨_, _, _, _, rfl, -⟩ := deliver_cases delivery
      rcases source with ⟨_, -, next⟩ | ⟨-, -, rfl⟩
      · obtain ⟨_, _, rfl⟩ := nextEvent_frame next
        rfl
      · rfl
  | waits event request middle _ next =>
      obtain ⟨_, _, rfl⟩ := nextEvent_frame next
      rfl
  | stopped => exact before.endLoop_output .draining
  | drained draining => exact absurd draining phase

/-- The loop leaves the output alone until the handler is over, and then closes it. -/
theorem advanceLoop_output (session : Session) :
    (session.advanceLoop?.getD session).channel.output =
      session.channel.output.run (session.outputActs .advance) := by
  by_cases draining : session.phase = .draining
  · cases handler : session.handler with
    | running program =>
        simp only [advanceLoop?, outputActs, draining, handler]
        rfl
    | idle =>
        simp only [advanceLoop?, outputActs, draining, handler]
        rfl
    | finished =>
        simp only [advanceLoop?, outputActs, draining, handler]
        rfl
  · have none : session.outputActs .advance = [] := by
      simp only [outputActs]
      split
      next phase _ => exact absurd phase draining
      next phase _ => exact absurd phase draining
      · rfl
    rw [none]
    cases advanced : session.advanceLoop? with
    | none => rfl
    | some after => exact (loopStep_of_advance advanced).output draining

/-! ### Every operation -/

/-- Every operation on a session reaches its output by operations of the output. -/
theorem step_output (session : Session) (act : SessionAct) :
    (session.step act).channel.output = session.channel.output.run (session.outputActs act) := by
  cases act with
  | takeTerminal =>
      show session.takeTerminal.1.channel.output = session.channel.output
      unfold takeTerminal
      split
      · rfl
      · split <;> rfl
  | reregisterSignals receiver =>
      show (session.reregisterSignals receiver).channel.output = session.channel.output
      unfold reregisterSignals
      split <;> rfl
  | takeWindow receiver =>
      obtain ⟨_, same⟩ := session.takeWindow_cases receiver
      rw [same]
      rfl
  | takeSignal receiver =>
      obtain ⟨_, same⟩ := session.takeSignal_cases receiver
      rw [same]
      rfl
  | exit status => exact session.exit_output status
  | advance => exact session.advanceLoop_output
  | endHandler ending => exact session.endHandler_output ending
  | loseHandler =>
      show session.loseHandler.channel.output = session.channel.output
      unfold loseHandler
      split <;> rfl
  | cancel =>
      show session.cancel.channel.output = session.channel.output
      unfold cancel
      split
      · rfl
      · rfl
      · rfl
      · exact session.endLoop_output .cancelled
  | registerSignals | dropWindows | dropSignals | write | shutdown | close | output | input
  | requests => rfl

end SshServer.Session
