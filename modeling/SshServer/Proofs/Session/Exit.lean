import SshServer.Proofs.Session.Frame

/-!
Contract: a session ends once, and nothing follows its end.

Owns: the results of the exits of a session, the form of what it queues over a run, and that of all
its exits at most one succeeds, which is the one that queued the exit status.
Does not own: what an operation does to the output (`Proofs.Session.Output`).

Exit, close, the end of the handler and the release after the loop all close the output. They are
kept apart by two marks, the exit of the session and the close of its output. The first implies the
second, and no message is queued behind the second.
-/

namespace SshServer.Session

/-! ### Exits -/

/-- Whether the session exited or was closed. -/
def hasEnded (session : Session) : Bool :=
  session.state.exited || session.channel.output.closed

/-- The exits that an operation makes, of a holder or at the end of the handler, each with its
status and its result. -/
def exitsOf (session : Session) : SessionAct → List (UInt32 × Except Failure Unit)
  | .exit status => [(status, (session.exit status).2)]
  | .endHandler ending =>
    match session.handler with
    | .running _ => [(ending.status, (session.exit ending.status).2)]
    | _ => []
  | _ => []

def exitsIn (session : Session) (acts : List SessionAct) : List (UInt32 × Except Failure Unit) :=
  observed step exitsOf session acts

def succeeded (made : UInt32 × Except Failure Unit) : Bool :=
  made.2.isOk

/-- What a session can queue at its end. -/
inductive Ending : List Message → Prop where
  | open : Ending []
  | closed : Ending [.close]
  | exited (status : UInt32) : Ending [.exitStatus status, .close]

/-! ### One step -/

/-- What holds of a session all the time. -/
structure Sound (session : Session) : Prop where
  /-- Only data waits for credit. -/
  streams : session.channel.output.SendsStream
  /-- A session that exited is closed. -/
  exitCloses : session.state.exited = true → session.channel.output.closed = true

theorem exited_of_step {session : Session} {act : SessionAct}
    (exited : (session.step act).state.exited = true) :
    session.state.exited = true ∨ OutputAct.close ∈ session.outputActs act := by
  by_cases isAdvance : act = .advance
  · left
    subst isAdvance
    change (session.advanceLoop?.getD session).state.exited = true at exited
    cases advanced : session.advanceLoop? with
    | none =>
        rw [advanced] at exited
        exact exited
    | some after =>
        rw [advanced, Option.getD_some] at exited
        rcases (loopStep_of_advance advanced).state with ⟨_, _, -, rfl⟩ | ⟨_, _, same⟩
        · rw [dispatch_state, (SessionState.judge_holding _ _ _ _).exited] at exited
          exact exited
        · rw [same] at exited
          exact exited
  · rcases (session.step_outside isAdvance).exited with same | closes
    · rw [same] at exited
      exact .inl exited
    · exact .inr closes

namespace Sound

variable {session : Session}

theorem onOffer (context : Context) (subsystems : List String) (offer : ChannelOffer)
    (awaited : Bool) : Sound (onOffer context subsystems offer awaited) := by
  refine ⟨?_, fun exited => absurd exited Bool.false_ne_true⟩
  cases awaited with
  | true => exact fun _ member => absurd member List.not_mem_nil
  | false => exact fun _ member => absurd member List.not_mem_nil

theorem closed_step (sound : Sound session) (isClosed : session.channel.output.closed = true)
    (act : SessionAct) : (session.step act).channel.output.closed = true := by
  rw [step_output]
  exact Outbox.closed_run sound.streams isClosed _

/-- An operation that closes the output leaves it closed, whatever it does before. -/
theorem closed_of_close (sound : Sound session) {act : SessionAct}
    (closes : OutputAct.close ∈ session.outputActs act) :
    (session.step act).channel.output.closed = true := by
  rw [step_output]
  obtain ⟨before, after, acts⟩ := List.append_of_mem closes
  have streams := sound.streams.run before
  rw [acts, Outbox.run, runFrom_append]
  exact Outbox.closed_run (streams.step .close) (Outbox.close_closed _) after

theorem step (sound : Sound session) (act : SessionAct) : Sound (session.step act) := by
  constructor
  · rw [step_output]
    exact sound.streams.run _
  · intro exited
    rcases exited_of_step exited with before | closes
    · exact sound.closed_step (sound.exitCloses before) act
    · exact sound.closed_of_close closes

theorem run (sound : Sound session) (acts : List SessionAct) : Sound (session.run acts) :=
  runFrom_induction Session.step Sound (fun _ act kept => kept.step act) sound acts

/-- A session has ended as soon as its output is closed, and not before. -/
theorem hasEnded_iff (sound : Sound session) :
    session.hasEnded = true ↔ session.channel.output.closed = true := by
  rw [hasEnded, Bool.or_eq_true]
  constructor
  · rintro (exited | isClosed)
    · exact sound.exitCloses exited
    · exact isClosed
  · exact Or.inr

/-- An operation queues what can be followed by more and leaves the output as open as it was, or it
closes the output. -/
theorem queuedBy_cases (sound : Sound session) (act : SessionAct) :
    ((∀ message ∈ session.queuedBy act, message.streams = true) ∧
        (session.step act).channel.output.closed = session.channel.output.closed) ∨
      Ending (session.queuedBy act) ∧ (session.step act).channel.output.closed = true := by
  have output := session.step_output act
  rw [queuedBy, output]
  rcases session.outputActs_cases act with acts | ⟨streamAct, acts⟩ | acts | ⟨status, acts⟩
  · left
    have quiet : Outbox.newMessages session.channel.output (session.channel.output.run []) = [] :=
      Outbox.newMessages_of_queue_eq rfl
    rw [acts, quiet]
    exact ⟨fun _ member => absurd member List.not_mem_nil, rfl⟩
  · left
    rw [acts]
    have effect := Outbox.performStream_effect session.channel.output streamAct sound.streams
    exact ⟨effect.streams_of_mem, effect.closed_eq⟩
  · right
    rw [acts]
    refine ⟨?_, Outbox.close_closed _⟩
    show Ending (Outbox.newMessages session.channel.output session.channel.output.close.1)
    rw [Outbox.newMessages_close]
    split
    · exact .closed
    · exact .open
  · right
    rw [acts]
    refine ⟨?_, Outbox.close_closed _⟩
    show Ending (Outbox.newMessages session.channel.output
      (session.channel.output.exitStatus status).1.close.1)
    rw [Outbox.newMessages_exit]
    split
    · exact .exited status
    · exact .open

/-- Nothing is queued behind a close. -/
theorem queuedBy_of_closed (sound : Sound session) (isClosed : session.channel.output.closed = true)
    (act : SessionAct) : session.queuedBy act = [] := by
  rw [queuedBy, step_output]
  rcases session.outputActs_cases act with acts | ⟨streamAct, acts⟩ | acts | ⟨status, acts⟩
  · rw [acts]
    exact Outbox.newMessages_of_queue_eq rfl
  · rw [acts]
    have effect := Outbox.performStream_effect session.channel.output streamAct sound.streams
    exact effect.newMessages_of_closed isClosed
  · rw [acts]
    show Outbox.newMessages session.channel.output session.channel.output.close.1 = []
    rw [Outbox.newMessages_close, isClosed]
    exact if_neg (fun both => absurd both.1 Bool.true_eq_false.mp)
  · rw [acts]
    show Outbox.newMessages session.channel.output
      (session.channel.output.exitStatus status).1.close.1 = []
    rw [Outbox.newMessages_exit, isClosed]
    exact if_neg (fun both => absurd both.1 Bool.true_eq_false.mp)

theorem queuedIn_of_closed (sound : Sound session)
    (isClosed : session.channel.output.closed = true) (acts : List SessionAct) :
    session.queuedIn acts = [] := by
  apply observed_eq_nil Session.step
    (fun session => Sound session ∧ session.channel.output.closed = true)
  · exact fun _ act kept => ⟨kept.1.step act, kept.1.closed_step kept.2 act⟩
  · exact fun _ act kept => kept.1.queuedBy_of_closed kept.2 act
  · exact ⟨sound, isClosed⟩

/-! ### What a run queues -/

theorem hasEnded_run (sound : Sound session) (ended : session.hasEnded = true)
    (acts : List SessionAct) : (session.run acts).hasEnded = true := by
  have kept := runFrom_induction Session.step
    (fun session => Sound session ∧ session.channel.output.closed = true)
    (fun _ act kept => ⟨kept.1.step act, kept.1.closed_step kept.2 act⟩)
    ⟨sound, sound.hasEnded_iff.1 ended⟩ acts
  exact kept.1.hasEnded_iff.2 kept.2

/-- A run queues what can be followed by more, and then at most one ending, which closes
the output. -/
theorem queuedIn_cases (sound : Sound session) (acts : List SessionAct) :
    ∃ body tail, session.queuedIn acts = body ++ tail ∧
      (∀ message ∈ body, message.streams = true) ∧ Ending tail ∧
      (tail ≠ [] → (session.run acts).channel.output.closed = true) := by
  induction acts generalizing session with
  | nil => exact ⟨[], [], rfl, fun _ member => absurd member List.not_mem_nil, .open, absurd rfl⟩
  | cons act rest inductionHypothesis =>
      have split : session.queuedIn (act :: rest) =
          session.queuedBy act ++ (session.step act).queuedIn rest := rfl
      have next := sound.step act
      rcases sound.queuedBy_cases act with ⟨streams, -⟩ | ⟨ending, isClosed⟩
      · obtain ⟨body, tail, queued, bodyStreams, ending, closes⟩ := inductionHypothesis next
        refine ⟨session.queuedBy act ++ body, tail, ?_, ?_, ending, closes⟩
        · rw [split, queued, List.append_assoc]
        · intro message member
          rcases List.mem_append.1 member with now | later
          · exact streams message now
          · exact bodyStreams message later
      · refine ⟨[], session.queuedBy act, ?_, fun _ member => absurd member List.not_mem_nil,
          ending, fun _ => ?_⟩
        · rw [split, next.queuedIn_of_closed isClosed, List.append_nil, List.nil_append]
        · have ended := next.hasEnded_run (next.hasEnded_iff.2 isClosed) rest
          exact (next.run rest).hasEnded_iff.1 ended

end Sound

/-! ### Exits that succeed -/

theorem exit_of_ended {session : Session} (ended : session.hasEnded = true) (status : UInt32) :
    session.exit status = (session, .error .streamClosed) := by
  rw [exit]
  exact if_pos ended

theorem exitActs_of_open {session : Session} (notEnded : session.hasEnded = false)
    (status : UInt32) : session.exitActs status = [.exitStatus status, .close] := by
  rw [exitActs]
  exact if_neg (fun ended => absurd (notEnded.symm.trans ended) Bool.false_ne_true)

/-- An exit of a session that goes on succeeds where somebody takes the exit status. -/
theorem exit_isOk {session : Session} (notEnded : session.hasEnded = false) (status : UInt32) :
    (session.exit status).2.isOk = session.channel.output.attached := by
  obtain ⟨notExited, isOpen⟩ := Bool.or_eq_false_iff.1 notEnded
  cases isAttached : session.channel.output.attached with
  | true =>
      simp only [exit, notExited, isOpen, onOutput, Outbox.exitStatus, Outbox.push, Outbox.close,
        isAttached]
      rfl
  | false =>
      simp only [exit, notExited, isOpen, onOutput, Outbox.exitStatus, Outbox.push, Outbox.close,
        isAttached]
      rfl

/-- An exit succeeds exactly when it is the one that queues the exit status and the close. -/
theorem exit_isOk_iff (session : Session) (status : UInt32) :
    (session.exit status).2.isOk = true ↔
      Outbox.newMessages session.channel.output (session.exit status).1.channel.output =
        [.exitStatus status, .close] := by
  cases ended : session.hasEnded with
  | true =>
      rw [exit_of_ended ended, Outbox.newMessages_of_queue_eq rfl]
      exact ⟨fun isOk => absurd isOk Bool.false_ne_true, fun same => absurd same (by simp)⟩
  | false =>
      have isOpen : session.channel.output.closed = false := (Bool.or_eq_false_iff.1 ended).2
      have queued : Outbox.newMessages session.channel.output
          (session.exit status).1.channel.output =
            if session.channel.output.closed = false ∧ session.channel.output.attached = true then
              [.exitStatus status, .close]
            else [] := by
        rw [exit_output, exitActs_of_open ended]
        exact Outbox.newMessages_exit _ status
      rw [exit_isOk ended, queued]
      cases session.channel.output.attached with
      | true => simp [isOpen]
      | false => simp

/-- Whatever makes an exit does to the output what the exit does. -/
theorem exitsOf_cases {session : Session} {act : SessionAct} {made : UInt32 × Except Failure Unit}
    (member : made ∈ session.exitsOf act) :
    session.exitsOf act = [made] ∧ made.2 = (session.exit made.1).2 ∧
      session.queuedBy act =
        Outbox.newMessages session.channel.output (session.exit made.1).1.channel.output := by
  cases act with
  | exit status =>
      obtain rfl := List.mem_singleton.1 member
      exact ⟨rfl, rfl, rfl⟩
  | endHandler ending =>
      simp only [exitsOf] at member ⊢
      split at member
      next program running =>
        obtain rfl := List.mem_singleton.1 member
        refine ⟨rfl, rfl, ?_⟩
        show Outbox.newMessages session.channel.output
          (session.endHandler ending).channel.output = _
        rw [endHandler_output, exit_output]
        simp only [outputActs, running]
      · exact absurd member List.not_mem_nil
  | _ => exact absurd member List.not_mem_nil

theorem Sound.hasEnded_of_close {session : Session} (sound : Sound session) {act : SessionAct}
    (closes : OutputAct.close ∈ session.outputActs act) : (session.step act).hasEnded = true :=
  (sound.step act).hasEnded_iff.2 (sound.closed_of_close closes)

/-- An exit leaves the session ended, whether it succeeds or not. -/
theorem Sound.hasEnded_exit {session : Session} (sound : Sound session) (status : UInt32) :
    (session.step (.exit status)).hasEnded = true := by
  cases ended : session.hasEnded with
  | true => exact sound.hasEnded_run ended [.exit status]
  | false =>
      apply sound.hasEnded_of_close
      show OutputAct.close ∈ session.exitActs status
      rw [exitActs_of_open ended]
      exact List.mem_cons_of_mem _ List.mem_cons_self

/-- After an exit that succeeded the output is closed. -/
theorem Sound.closed_of_succeeded {session : Session} (sound : Sound session) {act : SessionAct}
    {made : UInt32 × Except Failure Unit} (member : made ∈ session.exitsOf act)
    (isOk : succeeded made = true) : (session.step act).channel.output.closed = true := by
  obtain ⟨-, result, queued⟩ := exitsOf_cases member
  rw [succeeded, result, exit_isOk_iff, ← queued] at isOk
  rcases sound.queuedBy_cases act with ⟨streams, -⟩ | ⟨-, isClosed⟩
  · rw [isOk] at streams
    exact absurd (streams _ List.mem_cons_self) Bool.false_ne_true
  · exact isClosed

theorem exitsOf_of_ended {session : Session} (ended : session.hasEnded = true) {act : SessionAct}
    {made : UInt32 × Except Failure Unit} (member : made ∈ session.exitsOf act) :
    made.2 = .error .streamClosed ∧ session.queuedBy act = [] := by
  obtain ⟨-, result, queued⟩ := exitsOf_cases member
  rw [result, queued, exit_of_ended ended]
  exact ⟨rfl, Outbox.newMessages_of_queue_eq rfl⟩

/-- Of the exits over a run at most one succeeds, and none where the session has ended before. -/
theorem Sound.countP_exitsIn {session : Session} (sound : Sound session) (acts : List SessionAct) :
    (session.exitsIn acts).countP succeeded ≤ if session.hasEnded then 0 else 1 := by
  induction acts generalizing session with
  | nil => exact Nat.zero_le _
  | cons act rest inductionHypothesis =>
      have next := sound.step act
      have later := inductionHypothesis next
      have split : session.exitsIn (act :: rest) =
          session.exitsOf act ++ (session.step act).exitsIn rest := rfl
      rw [split, List.countP_append]
      by_cases success : ∃ made ∈ session.exitsOf act, succeeded made = true
      · obtain ⟨made, member, isOk⟩ := success
        have isClosed := sound.closed_of_succeeded member isOk
        rw [if_pos (next.hasEnded_iff.2 isClosed)] at later
        have notEnded : ¬session.hasEnded = true := by
          intro ended
          rw [succeeded, (exitsOf_of_ended ended member).1] at isOk
          exact absurd isOk Bool.false_ne_true
        rw [if_neg notEnded, (exitsOf_cases member).1, List.countP_singleton, if_pos isOk]
        omega
      · have noneNow : (session.exitsOf act).countP succeeded = 0 := by
          rw [List.countP_eq_zero]
          exact fun made member isOk => success ⟨made, member, isOk⟩
        rw [noneNow, Nat.zero_add]
        refine Nat.le_trans later ?_
        split
        · exact Nat.zero_le _
        next stillOpen =>
          have wasOpen : ¬session.hasEnded = true :=
            fun ended => stillOpen (sound.hasEnded_run ended [act])
          exact Nat.le_of_eq (if_neg wasOpen).symm

/-- Whatever holders, peer, loop and handler do, in any order, a session ends once. It queues data
and ends of data, and then at most a close, alone or behind an exit status, and nothing after that.
Of all exits at most one succeeds, which is the one that queued the exit status. An exit of a
session that goes on succeeds as long as somebody takes its output; one of a session that exited or
was closed fails and queues nothing. -/
theorem exit_final (context : Context) (subsystems : List String) (offer : ChannelOffer)
    (awaited : Bool) :
    let start := onOffer context subsystems offer awaited
    (∀ acts, ∃ body tail, start.queuedIn acts = body ++ tail ∧
      (∀ message ∈ body, message.streams = true) ∧ Ending tail ∧
      (tail ≠ [] → ∀ later, (start.run acts).queuedIn later = [])) ∧
    (∀ acts, (start.exitsIn acts).countP succeeded ≤ 1) ∧
    (∀ acts act, ∀ made ∈ (start.run acts).exitsOf act,
      (succeeded made = true ↔
        (start.run acts).queuedBy act = [.exitStatus made.1, .close]) ∧
      ((start.run acts).hasEnded = false →
        succeeded made = (start.run acts).channel.output.attached) ∧
      ((start.run acts).hasEnded = true →
        made.2 = .error .streamClosed ∧ (start.run acts).queuedBy act = [])) ∧
    ∀ acts later, (∀ status, (((start.run acts).step (.exit status)).run later).hasEnded = true) ∧
      (((start.run acts).step .close).run later).hasEnded = true := by
  intro start
  have sound : Sound start := Sound.onOffer context subsystems offer awaited
  refine ⟨?_, ?_, ?_, ?_⟩
  · intro acts
    obtain ⟨body, tail, queued, streams, ending, closes⟩ := sound.queuedIn_cases acts
    refine ⟨body, tail, queued, streams, ending, fun ended later => ?_⟩
    exact (sound.run acts).queuedIn_of_closed (closes ended) later
  · intro acts
    refine Nat.le_trans (sound.countP_exitsIn acts) ?_
    split
    · exact Nat.zero_le _
    · exact Nat.le_refl _
  · intro acts act made member
    obtain ⟨-, result, queued⟩ := exitsOf_cases member
    refine ⟨?_, ?_, fun ended => exitsOf_of_ended ended member⟩
    · rw [succeeded, result, queued]
      exact exit_isOk_iff _ _
    · intro notEnded
      rw [succeeded, result]
      exact exit_isOk notEnded made.1
  · intro acts later
    have reached := sound.run acts
    refine ⟨fun status => ?_, ?_⟩
    · exact (reached.step _).hasEnded_run (reached.hasEnded_exit status) later
    · exact (reached.step _).hasEnded_run (reached.hasEnded_of_close List.mem_cons_self) later

/-- A session that wrote something and exited: what it queued, and that a second exit fails. -/
theorem exit_final_after_exit :
    let start := onOffer default [] ⟨"session", ByteArray.empty⟩ true
    let session := start.run [.write none ⟨#[104, 105]⟩, .exit 3]
    start.queuedIn [.write none ⟨#[104, 105]⟩, .exit 3] =
        [.data ⟨#[104, 105]⟩, .exitStatus 3, .close] ∧
      session.hasEnded = true ∧ (session.exit 0).2 = .error .streamClosed ∧
      session.queuedBy (.exit 0) = [] :=
  ⟨rfl, rfl, ((exit_final default [] ⟨"session", ByteArray.empty⟩ true).2.2.1
    [.write none ⟨#[104, 105]⟩, .exit 3] (.exit 0) _ (List.mem_singleton_self _)).2.2 rfl⟩

end SshServer.Session
