import Mathlib.Data.List.Induction
import SshServer.Proofs.Session.Output

/-!
Contract: what the operations on a session leave alone.

Owns: the effect of a step of the loop on what the session knows, the bounds on the effect of every
other operation, and the rule for what holds as long as a session is open.
Does not own: what a request changes (`Proofs.Session.Verdicts`).
-/

namespace SshServer

@[simp] theorem Feed.consumer_push {α : Type} (feed : Feed α) (event : α) :
    (feed.push event).1.consumer = feed.consumer := by
  unfold push
  split <;> rfl

namespace SessionState

/-- Two states agree on what the holders of a session decide. -/
structure SameHolding (before after : SessionState) : Prop where
  exited : after.exited = before.exited
  windowsClaimed : after.windowsClaimed = before.windowsClaimed
  windows : after.windows.consumer = before.windows.consumer
  signals : after.signals.consumer = before.signals.consumer

theorem SameHolding.refl (state : SessionState) : state.SameHolding state :=
  ⟨rfl, rfl, rfl, rfl⟩

theorem judgeStart_holding (state : SessionState) (subsystems : List String) (kind : String)
    (payload : List UInt8) :
    state.SameHolding (state.judgeStart subsystems kind payload).1 := by
  unfold judgeStart
  split
  · exact .refl state
  · split
    · split
      · exact .refl state
      · exact ⟨rfl, rfl, rfl, rfl⟩
    · split
      · split
        · exact .refl state
        · split
          · exact ⟨rfl, rfl, rfl, rfl⟩
          · exact .refl state
      · exact ⟨rfl, rfl, rfl, rfl⟩

/-- No request makes a session exit, hands out a receiver or attaches a consumer. -/
theorem judge_holding (state : SessionState) (subsystems : List String) (kind : String)
    (payload : List UInt8) : state.SameHolding (state.judge subsystems kind payload).1 := by
  unfold judge
  split
  · unfold judgePty
    split
    · exact .refl state
    · split
      · exact .refl state
      · exact ⟨rfl, rfl, Feed.consumer_push _ _, rfl⟩
  · unfold judgeResize
    split
    · exact .refl state
    · split
      · exact .refl state
      · exact ⟨rfl, rfl, Feed.consumer_push _ _, rfl⟩
  · unfold judgeSignal
    split
    · exact .refl state
    · split
      · exact .refl state
      · dsimp only
        split
        · exact ⟨rfl, rfl, rfl, Feed.consumer_push _ _⟩
        · exact .refl state
  · unfold judgeEnv
    split
    · exact .refl state
    · exact ⟨rfl, rfl, rfl, rfl⟩
  · exact judgeStart_holding state subsystems _ payload
  · exact judgeStart_holding state subsystems _ payload
  · exact judgeStart_holding state subsystems _ payload
  · exact .refl state

end SessionState

namespace Session

theorem finishRequest_state (session : Session) (request : Option (Request × Bool)) :
    (session.finishRequest request).state = session.state := by
  obtain ⟨_, same⟩ := session.finishRequest_cases request
  rw [same]

theorem dispatch_state (session : Session) (request : Request) :
    (session.dispatch request).state =
      (session.state.judge session.subsystems request.kind request.payload.toList).1 := by
  obtain ⟨_, _, _, same, -⟩ := session.dispatch_cases request
  rw [same]

/-- A step of the loop takes up a request, or else it moves nothing but events. -/
theorem LoopStep.state {before after : Session} (step : LoopStep before after) :
    (∃ request requests, before.channel.requests.take? = some (request, requests) ∧
      after = ({ before with channel := { before.channel with requests } }.dispatch request)) ∨
    ∃ windows signals, after.state = { before.state with windows, signals } := by
  cases step with
  | noticed => exact .inr ⟨_, _, rfl⟩
  | dispatched request requests _ _ _ taken => exact .inl ⟨request, requests, taken, rfl⟩
  | finished request =>
      rw [finishRequest_state]
      exact .inr ⟨_, _, rfl⟩
  | handed event request middle delivered source delivery =>
      right
      obtain ⟨_, _, _, _, rfl, -⟩ := deliver_cases delivery
      rcases source with ⟨_, -, next⟩ | ⟨-, -, rfl⟩
      · obtain ⟨_, _, rfl⟩ := nextEvent_frame next
        exact ⟨_, _, rfl⟩
      · exact ⟨_, _, rfl⟩
  | waits event request middle _ next =>
      right
      obtain ⟨_, _, rfl⟩ := nextEvent_frame next
      exact ⟨_, _, rfl⟩
  | stopped =>
      obtain ⟨_, same⟩ := before.endLoop_cases .draining
      rw [same]
      exact .inr ⟨_, _, rfl⟩
  | drained => exact .inr ⟨_, _, rfl⟩

theorem LoopStep.closed {before after : Session} (step : LoopStep before after)
    (isClosed : before.closed = true) : after.closed = true := by
  cases step with
  | noticed => exact isClosed
  | dispatched request requests =>
      obtain ⟨_, _, _, same, -⟩ := dispatch_cases
        { before with channel := { before.channel with requests } } request
      rw [same]
      exact isClosed
  | finished request =>
      obtain ⟨_, same⟩ := before.finishRequest_cases request
      rw [same]
      exact isClosed
  | handed event request middle delivered source delivery =>
      obtain ⟨_, _, _, _, rfl, -⟩ := deliver_cases delivery
      rcases source with ⟨_, -, next⟩ | ⟨-, -, rfl⟩
      · obtain ⟨_, _, rfl⟩ := nextEvent_frame next
        exact isClosed
      · exact isClosed
  | waits event request middle _ next =>
      obtain ⟨_, _, rfl⟩ := nextEvent_frame next
      exact isClosed
  | stopped =>
      obtain ⟨_, same⟩ := before.endLoop_cases .draining
      rw [same]
  | drained => exact isClosed

theorem LoopStep.claimed {before after : Session} (step : LoopStep before after)
    (isClaimed : before.state.windowsClaimed = true) : after.state.windowsClaimed = true := by
  rcases step.state with ⟨request, requests, -, same⟩ | ⟨windows, signals, same⟩
  · rw [same, dispatch_state, (SessionState.judge_holding _ _ _ _).windowsClaimed]
    exact isClaimed
  · rw [same]
    exact isClaimed

/-! ### Operations other than steps of the loop -/

/-- What such an operation leaves alone where the session stays open. -/
structure Undisturbed (before after : Session) : Prop where
  events : before.state.SameEvents after.state
  held : after.heldRequest = before.heldRequest
  /-- Answers can be collected. -/
  answers : after.channel.requests.answers.length ≤ before.channel.requests.answers.length
  /-- A handler can come to its end. -/
  handler : after.handler = before.handler ∨ after.handler = .finished

/-- What such an operation can do: only exits and closes mark the session as exited, and only the
end of the loop takes events from the feeds. -/
structure Outside (session : Session) (act : SessionAct) (after : Session) : Prop where
  subsystems : after.subsystems = session.subsystems
  facts : session.state.SameFacts after.state
  exited : after.state.exited = session.state.exited ∨ OutputAct.close ∈ session.outputActs act
  closed : session.closed = true → after.closed = true
  /-- A receiver of window sizes is handed out once. -/
  claimed : session.state.windowsClaimed = true → after.state.windowsClaimed = true
  undisturbed : after.closed = false → Undisturbed session after

theorem Undisturbed.refl (session : Session) : Undisturbed session session :=
  ⟨.refl _, rfl, Nat.le_refl _, .inl rfl⟩

theorem Outside.refl (session : Session) (act : SessionAct) : Outside session act session :=
  ⟨rfl, .refl _, .inl rfl, id, id, fun _ => .refl _⟩

theorem answers_step_length (stream : RequestStream) (act : RequestAct) :
    (stream.step act).answers.length ≤ stream.answers.length := by
  cases act with
  | send sender kind payload wantReply =>
      unfold RequestStream.step RequestStream.issue
      cases wantReply with
      | true => exact Nat.le_refl _
      | false => exact Nat.le_refl _
  | collect number =>
      simp only [RequestStream.step, RequestStream.collect?]
      cases stream.answers.lookup number with
      | none => exact Nat.le_refl _
      | some verdict => exact List.length_filter_le _ _
  | retry | withdraw | addSender | dropSender => exact Nat.le_refl _

theorem exit_outside (session : Session) {status : UInt32} {act : SessionAct}
    (acts : session.outputActs act = session.exitActs status) :
    Outside session act (session.exit status).1 := by
  unfold exit
  split
  · exact .refl session act
  next notEnded =>
    refine ⟨rfl, ⟨_, _, _, _, rfl⟩, .inr ?_, fun _ => rfl, id, fun isOpen => ?_⟩
    · rw [acts, exitActs, if_neg notEnded]
      exact List.mem_cons_of_mem _ List.mem_cons_self
    · exact absurd isOpen (Bool.true_eq_false.mp)

theorem cancel_outside (session : Session) : Outside session .cancel session.cancel := by
  unfold cancel
  split
  · exact .refl session .cancel
  · exact .refl session .cancel
  next draining =>
    refine ⟨rfl, .refl _, .inl rfl, id, id, fun _ => ⟨.refl _, ?_, Nat.le_refl _, .inr rfl⟩⟩
    simp only [heldRequest, draining]
  · obtain ⟨_, same⟩ := session.endLoop_cases .cancelled
    rw [same]
    refine ⟨rfl, ⟨_, _, _, _, rfl⟩, .inl rfl, fun _ => rfl, id, fun isOpen => ?_⟩
    exact absurd isOpen (Bool.true_eq_false.mp)

theorem step_outside (session : Session) {act : SessionAct} (other : act ≠ .advance) :
    Outside session act (session.step act) := by
  cases act with
  | takeTerminal =>
      show Outside session .takeTerminal session.takeTerminal.1
      unfold takeTerminal
      split
      · exact .refl session .takeTerminal
      · split
        · exact .refl session .takeTerminal
        · refine ⟨rfl, ⟨_, _, _, _, rfl⟩, .inl rfl, id, fun _ => rfl, fun _ => ?_⟩
          refine ⟨?_, rfl, Nat.le_refl _, .inl rfl⟩
          exact ⟨⟨Feed.pending_attach _ _, Feed.closed_attach _ _⟩, rfl, rfl⟩
  | registerSignals capacity =>
      refine ⟨rfl, ⟨_, _, _, _, rfl⟩, .inl rfl, id, id, fun _ => ?_⟩
      refine ⟨?_, rfl, Nat.le_refl _, .inl rfl⟩
      exact ⟨⟨rfl, rfl⟩, Feed.pending_attach _ _, Feed.closed_attach _ _⟩
  | reregisterSignals receiver =>
      show Outside session (.reregisterSignals receiver) (session.reregisterSignals receiver)
      unfold reregisterSignals
      split
      · refine ⟨rfl, ⟨_, _, _, _, rfl⟩, .inl rfl, id, id, fun _ => ?_⟩
        refine ⟨?_, rfl, Nat.le_refl _, .inl rfl⟩
        exact ⟨⟨rfl, rfl⟩, Feed.pending_attach _ _, Feed.closed_attach _ _⟩
      · exact .refl session _
  | takeWindow receiver =>
      obtain ⟨_, same⟩ := session.takeWindow_cases receiver
      rw [same]
      exact ⟨rfl, .refl _, .inl rfl, id, id, fun _ => ⟨.refl _, rfl, Nat.le_refl _, .inl rfl⟩⟩
  | takeSignal receiver =>
      obtain ⟨_, same⟩ := session.takeSignal_cases receiver
      rw [same]
      exact ⟨rfl, .refl _, .inl rfl, id, id, fun _ => ⟨.refl _, rfl, Nat.le_refl _, .inl rfl⟩⟩
  | exit status => exact session.exit_outside rfl
  | close =>
      refine ⟨rfl, ⟨_, _, _, _, rfl⟩, .inr List.mem_cons_self, fun _ => rfl, id, fun isOpen => ?_⟩
      exact absurd isOpen (Bool.true_eq_false.mp)
  | advance => exact absurd rfl other
  | endHandler ending =>
      show Outside session (.endHandler ending) (session.endHandler ending)
      unfold endHandler
      split
      next program running =>
        have acts : session.outputActs (.endHandler ending) = session.exitActs ending.status := by
          simp only [outputActs, running]
        have exits := session.exit_outside acts
        refine ⟨exits.subsystems, exits.facts, exits.exited, exits.closed, exits.claimed,
          fun isOpen => ?_⟩
        have undisturbed := exits.undisturbed isOpen
        exact ⟨undisturbed.events, undisturbed.held, undisturbed.answers, .inr rfl⟩
      · exact .refl session _
  | loseHandler =>
      show Outside session .loseHandler session.loseHandler
      unfold loseHandler
      split
      · exact ⟨rfl, .refl _, .inl rfl, id, id, fun _ => ⟨.refl _, rfl, Nat.le_refl _, .inr rfl⟩⟩
      · exact .refl session .loseHandler
  | cancel => exact session.cancel_outside
  | requests act =>
      exact ⟨rfl, .refl _, .inl rfl, id, id,
        fun _ => ⟨.refl _, rfl, answers_step_length _ act, .inl rfl⟩⟩
  | dropWindows | dropSignals | write | shutdown | output | input =>
      exact ⟨rfl, .refl _, .inl rfl, id, id, fun _ => ⟨.refl _, rfl, Nat.le_refl _, .inl rfl⟩⟩

/-! ### All operations -/

section Steps

variable {session : Session}

/-- A session that is closed stays closed. -/
theorem closed_step (isClosed : session.closed = true) (act : SessionAct) :
    (session.step act).closed = true := by
  by_cases isAdvance : act = .advance
  · rw [isAdvance]
    rcases session.advance_cases with waits | step
    · rw [waits]
      exact isClosed
    · exact step.closed isClosed
  · exact (session.step_outside isAdvance).closed isClosed

theorem closed_run (isClosed : session.closed = true) (acts : List SessionAct) :
    (session.run acts).closed = true :=
  runFrom_induction Session.step (fun session => session.closed = true)
    (fun _ act stillClosed => closed_step stillClosed act) isClosed acts

theorem open_of_step {act : SessionAct} (isOpen : (session.step act).closed = false) :
    session.closed = false := by
  rw [← Bool.not_eq_true]
  exact fun isClosed => absurd (isOpen.symm.trans (closed_step isClosed act)) Bool.false_ne_true

/-- A receiver of window sizes that was handed out stays so. -/
theorem claimed_step (isClaimed : session.state.windowsClaimed = true) (act : SessionAct) :
    (session.step act).state.windowsClaimed = true := by
  by_cases isAdvance : act = .advance
  · rw [isAdvance]
    rcases session.advance_cases with waits | step
    · rw [waits]
      exact isClaimed
    · exact step.claimed isClaimed
  · exact (session.step_outside isAdvance).claimed isClaimed

end Steps

/-- What holds at the start, and is kept by every step that leaves the session open, holds as long
as the session is open. -/
theorem open_run (start : Session) (holds : List SessionAct → Prop) (initial : holds [])
    (kept : ∀ acts act, (start.run acts).closed = false →
      ((start.run acts).step act).closed = false → holds acts → holds (acts ++ [act]))
    (acts : List SessionAct) (isOpen : (start.run acts).closed = false) : holds acts := by
  -- From the end of the run: where it is open after the last step it was open before.
  induction acts using List.reverseRecOn with
  | nil => exact initial
  | append_singleton acts act inductionHypothesis =>
      rw [run_snoc] at isOpen
      have wasOpen : (start.run acts).closed = false := open_of_step isOpen
      exact kept acts act wasOpen isOpen (inductionHypothesis wasOpen)

end Session

end SshServer
