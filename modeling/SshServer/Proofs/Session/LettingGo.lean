import SshServer.Proofs.Session.Arrivals
import SshServer.Proofs.Session.Closing
import SshServer.Proofs.Session.Requests

/-!
Contract: the loop of a session lets go of everybody when it leaves off.

Owns: when a loop has left off; what its end does to the requests and the feeds, wherever it was;
and that nothing brings any of it back.
Does not own: which requests are refused in the end (`Proofs.Session.Answers`), and the release of
the channel (`Proofs.Session.Closing`).

The loop may be anywhere when its session is closed. Where it waits, its next step ends it, and what
it holds then counts as refused, like every request that it has not taken up.
-/

namespace SshServer

/-- The loop has left off: it will not take up anything again. -/
def LoopPhase.leftOff : LoopPhase → Bool
  | .draining | .finished | .cancelled => true
  | .parked | .flushing _ _ | .handing _ _ => false

/-- The refusals of requests, as the peer gets them. -/
def refusals (requests : List Request) : List (Nat × Bool) :=
  requests.flatMap fun request => History.reply request false

namespace RequestStream

/-- A request that is dropped is refused. -/
theorem answers_foldl_discard (stream : RequestStream) (requests : List Request) :
    (requests.foldl discard stream).answers =
      stream.answers ++ refusals requests := by
  induction requests generalizing stream with
  | nil => exact (List.append_nil _).symm
  | cons request rest inductionHypothesis =>
      rw [List.foldl_cons, inductionHypothesis, discard, Session.answers_answer, refusals, refusals,
        List.flatMap_cons, List.append_assoc]

@[simp] theorem box_answer (stream : RequestStream) (request : Request) (verdict : Bool) :
    (stream.answer request verdict).box = stream.box := by
  unfold answer
  split <;> rfl

theorem nextReply_answer (stream : RequestStream) (request : Request) (verdict : Bool) :
    (stream.answer request verdict).nextReply = stream.nextReply := by
  unfold answer
  split <;> rfl

theorem nextReply_foldl_discard (stream : RequestStream) (requests : List Request) :
    (requests.foldl discard stream).nextReply = stream.nextReply := by
  induction requests generalizing stream with
  | nil => rfl
  | cons request rest inductionHypothesis =>
      exact (inductionHypothesis _).trans (nextReply_answer stream request false)

end RequestStream

namespace Session

/-! ### The end of the loop -/

/-- The requests that were taken up, or wait to be, and are not answered yet. -/
def unanswered (session : Session) : List Request :=
  (session.heldRequest.map Prod.fst).toList ++ session.channel.requests.box.items.toList

/-- The end of the loop refuses everything that is not answered. -/
theorem endLoop_answers (session : Session) (phase : LoopPhase) :
    (session.endLoop phase).channel.requests.answers =
      session.channel.requests.answers ++ refusals session.unanswered := by
  unfold endLoop dropRequest unanswered
  cases held : session.heldRequest with
  | none =>
      show (List.foldl RequestStream.discard _ _).answers = _
      rw [RequestStream.answers_foldl_discard]
      rfl
  | some pair =>
      obtain ⟨request, verdict⟩ := pair
      show (List.foldl RequestStream.discard (session.channel.requests.discard request)
        (session.channel.requests.discard request).box.items.toList).answers = _
      rw [RequestStream.answers_foldl_discard, RequestStream.discard, RequestStream.box_answer,
        answers_answer, List.append_assoc]
      rfl

/-- A session that has let go of everybody who waited for it. -/
structure LetGo (session : Session) : Prop where
  leftOff : session.phase.leftOff = true
  closed : session.closed = true
  windows : session.state.windows = { closed := true }
  signals : session.state.signals = { closed := true }
  detached : session.channel.requests.box.attached = false
  nothing : session.channel.requests.box.items.toList = []

theorem endLoop_letGo (session : Session) {phase : LoopPhase} (leftOff : phase.leftOff = true) :
    LetGo (session.endLoop phase) where
  leftOff := leftOff
  closed := rfl
  windows := by
    obtain ⟨_, same⟩ := session.endLoop_cases phase
    rw [same]
    rfl
  signals := by
    obtain ⟨_, same⟩ := session.endLoop_cases phase
    rw [same]
    rfl
  detached := rfl
  nothing := Fifo.toList_empty

/-- A loop that has left off does nothing more than to return. -/
theorem advance_of_leftOff {session : Session} (leftOff : session.phase.leftOff = true) :
    session.step .advance = session ∨
      session.step .advance = { session.release with phase := .finished } := by
  cases phase : session.phase with
  | draining => exact advance_of_draining phase
  | finished | cancelled =>
      have isOver : session.isOver = true := by simp [Session.isOver, phase]
      left
      exact step_of_waits (advance_of_over isOver)
  | parked | flushing | handing =>
      rw [phase] at leftOff
      exact absurd leftOff Bool.false_ne_true

/-- To cancel a task whose loop has left off stops its handler. -/
theorem cancel_of_leftOff {session : Session} (leftOff : session.phase.leftOff = true) :
    session.cancel = session ∨
      session.cancel = { session with phase := .cancelled, handler := .finished } := by
  unfold cancel
  cases phase : session.phase with
  | draining => exact .inr rfl
  | finished | cancelled => exact .inl rfl
  | parked | flushing | handing =>
      rw [phase] at leftOff
      exact absurd leftOff Bool.false_ne_true

/-- A loop that goes on leaves off by its end, and by nothing else. -/
theorem LoopStep.leftOff_cases {before after : Session} (step : LoopStep before after)
    (goesOn : before.phase.leftOff = false) :
    after.phase.leftOff = false ∨ after = before.endLoop .draining := by
  cases step with
  | noticed | handed | waits => exact .inl rfl
  | dispatched request requests =>
      obtain ⟨_, _, _, same, cases⟩ := dispatch_cases
        { before with channel := { before.channel with requests } } request
      rw [same]
      rcases cases with ⟨rfl, -⟩ | ⟨rfl, -⟩
      · exact .inl rfl
      · exact .inl rfl
  | finished request =>
      obtain ⟨_, same⟩ := before.finishRequest_cases request
      rw [same]
      exact .inl rfl
  | stopped => exact .inr rfl
  | drained draining =>
      rw [draining] at goesOn
      exact absurd goesOn Bool.true_eq_false.mp

theorem cancel_of_goesOn {session : Session} (goesOn : session.phase.leftOff = false) :
    session.cancel = { session.endLoop .cancelled with handler := .finished } := by
  unfold cancel
  cases phase : session.phase with
  | parked | flushing | handing => rfl
  | draining | finished | cancelled =>
      rw [phase] at goesOn
      exact absurd goesOn Bool.true_eq_false.mp

/-- A task that is cancelled has left off. -/
theorem leftOff_cancel (session : Session) : session.cancel.phase.leftOff = true := by
  cases goesOn : session.phase.leftOff with
  | false =>
      rw [cancel_of_goesOn goesOn]
      rfl
  | true =>
      rcases cancel_of_leftOff goesOn with stays | stops
      · rw [stays]
        exact goesOn
      · rw [stops]
        rfl

theorem not_cancel_of_goesOn {session : Session} {act : SessionAct}
    (goesOn : (session.step act).phase.leftOff = false) : act ≠ .cancel := by
  rintro rfl
  exact absurd (session.leftOff_cancel.symm.trans goesOn) Bool.true_eq_false.mp

/-- A loop that goes on had not left off before. -/
theorem goesOn_of_step {session : Session} {act : SessionAct}
    (goesOn : (session.step act).phase.leftOff = false) : session.phase.leftOff = false := by
  rw [← Bool.not_eq_true]
  intro leftOff
  by_cases isAdvance : act = .advance
  · subst isAdvance
    rcases advance_of_leftOff leftOff with stays | returns
    · rw [stays, leftOff] at goesOn
      exact absurd goesOn Bool.true_eq_false.mp
    · rw [returns] at goesOn
      exact absurd goesOn Bool.true_eq_false.mp
  · by_cases isCancel : act = .cancel
    · subst isCancel
      exact absurd (session.leftOff_cancel.symm.trans goesOn) Bool.true_eq_false.mp
    · rw [step_phase session isAdvance isCancel, leftOff] at goesOn
      exact absurd goesOn Bool.true_eq_false.mp

theorem attach_of_closed {α : Type} {before after : Feed α} {told : Bool}
    (rewired : Rewired before after told) (isClosed : before = { closed := true }) :
    after = { closed := true } := by
  rcases rewired with same | ⟨-, number, same⟩
  · exact same.trans isClosed
  · rw [same, isClosed]
    rfl

/-- Who was let go stays so. -/
theorem LetGo.step {session : Session} (letGo : LetGo session) (act : SessionAct) :
    LetGo (session.step act) := by
  by_cases isAdvance : act = .advance
  · subst isAdvance
    rcases advance_of_leftOff letGo.leftOff with stays | returns
    · rw [stays]
      exact letGo
    · rw [returns]
      exact { letGo with leftOff := rfl }
  · by_cases isCancel : act = .cancel
    · subst isCancel
      show LetGo session.cancel
      rcases cancel_of_leftOff letGo.leftOff with stays | stops
      · rw [stays]
        exact letGo
      · rw [stops]
        exact { letGo with leftOff := rfl }
    · have beside := session.step_beside isAdvance isCancel
      constructor
      case leftOff =>
        rw [step_phase session isAdvance isCancel]
        exact letGo.leftOff
      case closed => exact closed_step letGo.closed act
      case windows => exact attach_of_closed beside.windows letGo.windows
      case signals => exact attach_of_closed beside.signals letGo.signals
      case detached => exact beside.requests.attached.trans letGo.detached
      case nothing =>
        rw [beside.requests.items, beside.requests.detached letGo.detached, List.append_nil]
        exact letGo.nothing

/-- A loop that leaves off lets go of everybody. -/
theorem letGo_of_step {session : Session} (goesOn : session.phase.leftOff = false)
    {act : SessionAct} (leftOff : (session.step act).phase.leftOff = true) :
    (act = .advance ∧ session.step .advance = session.endLoop .draining ∨
        act = .cancel ∧
          session.cancel = { session.endLoop .cancelled with handler := .finished }) ∧
      LetGo (session.step act) := by
  by_cases isAdvance : act = .advance
  · subst isAdvance
    rcases session.advance_cases with stays | step
    · rw [stays, goesOn] at leftOff
      exact absurd leftOff Bool.false_ne_true
    · rcases step.leftOff_cases goesOn with goesOnStill | ends
      · rw [goesOnStill] at leftOff
        exact absurd leftOff Bool.false_ne_true
      · rw [ends]
        exact ⟨.inl ⟨rfl, rfl⟩, session.endLoop_letGo rfl⟩
  · by_cases isCancel : act = .cancel
    · subst isCancel
      have ends := cancel_of_goesOn goesOn
      refine ⟨.inr ⟨rfl, ends⟩, ?_⟩
      show LetGo session.cancel
      rw [ends]
      have letGo : LetGo (session.endLoop .cancelled) := session.endLoop_letGo rfl
      exact { letGo with leftOff := rfl }
    · rw [step_phase session isAdvance isCancel, goesOn] at leftOff
      exact absurd leftOff Bool.false_ne_true

/-- A session whose loop has left off, then or before, has let go of everybody. -/
theorem letGo_step {session : Session} (letGo : session.phase.leftOff = true → LetGo session)
    (act : SessionAct) (leftOff : (session.step act).phase.leftOff = true) :
    LetGo (session.step act) := by
  cases phase : session.phase.leftOff with
  | true => exact (letGo phase).step act
  | false => exact (letGo_of_step phase leftOff).2

theorem letGo_run {start : Session} (goesOn : start.phase.leftOff = false) (acts : List SessionAct)
    (leftOff : (start.run acts).phase.leftOff = true) : LetGo (start.run acts) := by
  have initial : start.phase.leftOff = true → LetGo start :=
    fun atStart => absurd (goesOn.symm.trans atStart) Bool.false_ne_true
  have kept := runFrom_induction Session.step
    (fun session => session.phase.leftOff = true → LetGo session)
    (fun _ act letGo => letGo_step letGo act) initial acts
  exact kept leftOff

/-- The loop of a session that is open goes on. -/
theorem goesOn_of_open {start : Session} (goesOn : start.phase.leftOff = false)
    {acts : List SessionAct} (isOpen : (start.run acts).closed = false) :
    (start.run acts).phase.leftOff = false := by
  rw [← Bool.not_eq_true]
  intro leftOff
  exact absurd (isOpen.symm.trans (letGo_run goesOn acts leftOff).closed) Bool.false_ne_true

end Session

end SshServer
