import SshServer.Proofs.Session.LettingGo

/-!
Contract: every request that reaches a session is answered once the loop of the session leaves off.

Owns: how the requests that arrived are divided, be it those that were answered as they deserve,
those that wait, and those that are refused in the end; and that every step keeps the account.
Does not own: the answer that a request deserves (`Proofs.Session.History`).

As long as the loop goes on it takes up what arrives in turn, and answers it in turn. When it leaves
off, the request that it holds is the first one of those that are refused.
-/

namespace SshServer

namespace Session

/-! ### Every request gets its answer -/

/-- Of the requests that were taken up all have their answers, but the one that is held. -/
def AnsweredBut (subsystems : List String) (record : Record) : Option (Request × Bool) → Prop
  | none => record.answers = History.answers subsystems record.requests
  | some (request, verdict) =>
    ∃ earlier, record.requests = earlier ++ [request] ∧
      verdict = History.answer subsystems earlier request ∧
      record.answers = History.answers subsystems earlier

/-- The loop goes on: it takes up the requests that arrived in turn, and answers them in turn. -/
structure Attended (subsystems : List String) (arrived : List Request) (record : Record)
    (session : Session) : Prop where
  inTurn : arrived = record.requests ++ session.channel.requests.box.items.toList
  answered : AnsweredBut subsystems record session.heldRequest

/-- The loop has left off: of the requests that arrived it has answered the first ones as they
deserve, and all the others are refused. At most the first of these had been taken up. -/
def Concluded (subsystems : List String) (arrived : List Request) (record : Record) : Prop :=
  ∃ done left, arrived = done ++ left ∧
    record.answers = History.answers subsystems done ++ refusals left ∧
    (record.requests = done ∨
      ∃ request rest, left = request :: rest ∧ record.requests = done ++ [request])

section Account

variable {subsystems : List String} {arrived : List Request} {record : Record}
variable {session : Session} {act : SessionAct}

theorem dispatchedBy_of_busy
    (busy : ¬(session.phase = .parked ∧ session.closed = false ∧ session.notice = false)) :
    session.dispatchedBy .advance = [] := by
  rw [dispatchedBy, nextRequest?, if_neg busy]
  rfl

theorem dispatchedBy_of_waits (waits : session.advanceLoop? = none) :
    session.dispatchedBy .advance = [] := by
  rw [dispatchedBy]
  cases next : session.nextRequest? with
  | none => rfl
  | some pair =>
      exact absurd ((advance_of_nextRequest next).symm.trans waits) (Option.some_ne_none _)

theorem dispatchedBy_of_other (other : act ≠ .advance) : session.dispatchedBy act = [] := by
  cases act with
  | advance => exact absurd rfl other
  | _ => rfl

/-- Where the loop takes up nothing and answers nothing, what arrives waits behind the rest. -/
theorem Attended.of_arrival (attended : Attended subsystems arrived record session)
    (dispatched : session.dispatchedBy act = []) (answers : session.answersBy act = [])
    (items : (session.step act).channel.requests.box.items.toList =
      session.channel.requests.box.items.toList ++ session.arrivedBy act)
    (held : (session.step act).heldRequest = session.heldRequest) :
    Attended subsystems (arrived ++ session.arrivedBy act) (record.append (session.seenBy act))
      (session.step act) := by
  have requests : (record.append (session.seenBy act)).requests = record.requests := by
    show record.requests ++ session.dispatchedBy act = _
    rw [dispatched, List.append_nil]
  have given : (record.append (session.seenBy act)).answers = record.answers := by
    show record.answers ++ session.answersBy act = _
    rw [answers, List.append_nil]
  constructor
  case inTurn => rw [requests, items, attended.inTurn, List.append_assoc]
  case answered =>
    have before := attended.answered
    rw [held]
    cases holds : session.heldRequest with
    | none =>
        rw [holds] at before
        show (record.append _).answers = History.answers subsystems (record.append _).requests
        rw [given, requests]
        exact before
    | some pair =>
        rw [holds] at before
        obtain ⟨earlier, last, verdict, answered⟩ := before
        exact ⟨earlier, requests.trans last, verdict, given.trans answered⟩

/-- A step that leaves the requests alone. -/
theorem Attended.of_same (attended : Attended subsystems arrived record session)
    (dispatched : session.dispatchedBy act = [])
    (same : (session.step act).channel.requests = session.channel.requests)
    (held : (session.step act).heldRequest = session.heldRequest) :
    Attended subsystems (arrived ++ session.arrivedBy act) (record.append (session.seenBy act))
      (session.step act) := by
  have arrivals : session.arrivedBy act = [] := by
    rw [arrivedBy, same]
    exact RequestStream.newRequests_of_length_le (Nat.le_refl _)
  refine attended.of_arrival dispatched (answersBy_of_same (by rw [same])) ?_ held
  rw [arrivals, same, List.append_nil]

theorem Attended.beside (attended : Attended subsystems arrived record session)
    (other : act ≠ .advance) (notCancelled : act ≠ .cancel) :
    Attended subsystems (arrived ++ session.arrivedBy act) (record.append (session.seenBy act))
      (session.step act) := by
  have beside := session.step_beside other notCancelled
  refine attended.of_arrival (dispatchedBy_of_other other) ?_ beside.requests.items ?_
  · exact List.drop_of_length_le beside.requests.answers
  · rw [heldRequest, step_phase session other notCancelled, heldRequest]

/-- The loop takes up a request, and answers it at once or holds it. -/
theorem Attended.dispatched (attended : Attended subsystems arrived record session)
    (tracks : Tracks subsystems record session) {request : Request} {requests : RequestStream}
    (next : session.nextRequest? = some (request, requests))
    (advanced : session.step .advance =
      ({ session with channel := { session.channel with requests } }.dispatch request)) :
    Attended subsystems (arrived ++ session.arrivedBy .advance)
      (record.append (session.seenBy .advance)) (session.step .advance) := by
  obtain rfl := tracks.served
  obtain ⟨parked, -, -, taken⟩ := nextRequest?_eq_some next
  have judged := judge_judged tracks.reflects request
  have before := attended.answered
  rw [heldRequest, parked] at before
  have waiting : session.channel.requests.box.items.toList =
      request :: requests.box.items.toList := by
    simp only [RequestStream.take?, Option.map_eq_some_iff, Prod.mk.injEq, Prod.exists] at taken
    obtain ⟨_, box, boxTaken, rfl, rfl⟩ := taken
    exact Mailbox.toList_of_take? boxTaken
  have takenUp : (record.append (session.seenBy .advance)).requests =
      record.requests ++ [request] := by
    show record.requests ++ session.dispatchedBy .advance = _
    rw [dispatchedBy, next]
    rfl
  obtain ⟨phase, answered, log, same, cases⟩ :=
    dispatch_cases { session with channel := { session.channel with requests } } request
  rw [same] at advanced
  have items : (session.step .advance).channel.requests.box.items = requests.box.items := by
    rw [advanced]
    rcases cases with ⟨-, rfl⟩ | ⟨-, rfl⟩
    · rfl
    · exact congrArg Mailbox.items (RequestStream.box_answer _ _ _)
  have arrivals : session.arrivedBy .advance = [] := by
    apply RequestStream.newRequests_of_length_le
    rw [items, waiting]
    exact Nat.le_succ _
  constructor
  case inTurn =>
    rw [arrivals, List.append_nil, attended.inTurn, takenUp, items, waiting, List.append_assoc]
    rfl
  case answered =>
    rcases cases with ⟨rfl, rfl⟩ | ⟨rfl, rfl⟩
    · have given : (record.append (session.seenBy .advance)).answers = record.answers := by
        show record.answers ++ session.answersBy .advance = _
        rw [answersBy_of_same, List.append_nil]
        rw [advanced]
        exact answers_of_take taken
      have holds : (session.step .advance).heldRequest =
          some (request, (session.state.judge session.subsystems request.kind
            request.payload.toList).2.answer) := by
        rw [advanced]
        rfl
      rw [holds]
      exact ⟨record.requests, takenUp, judged.answer, given.trans before⟩
    · have holdsNothing : (session.step .advance).heldRequest = none := by
        rw [advanced]
        rfl
      rw [holdsNothing]
      show record.answers ++ session.answersBy .advance =
        History.answers session.subsystems (record.append (session.seenBy .advance)).requests
      rw [takenUp, History.answers_snoc, ← judged.answer, before, answersBy, advanced]
      show _ ++ List.drop _ (RequestStream.answer _ _ _).answers = _
      rw [answers_answer, answers_of_take taken, List.drop_left]

/-- The loop answers the request that it held. -/
theorem Attended.finished (attended : Attended subsystems arrived record session)
    {stage : FlushStage} {request : Option (Request × Bool)}
    (flushing : session.phase = .flushing stage request)
    (moves : session.step .advance = session.finishRequest request) :
    Attended subsystems (arrived ++ session.arrivedBy .advance)
      (record.append (session.seenBy .advance)) (session.step .advance) := by
  have notTaken : session.dispatchedBy .advance = [] :=
    dispatchedBy_of_phase flushing LoopPhase.noConfusion
  have before := attended.answered
  rw [heldRequest, flushing] at before
  cases request with
  | none =>
      have heldNothing : session.heldRequest = none := by rw [heldRequest, flushing]
      refine attended.of_same notTaken (by rw [moves]; rfl) ?_
      rw [moves, heldNothing]
      rfl
  | some pair =>
      obtain ⟨request, verdict⟩ := pair
      obtain ⟨earlier, last, deserved, answered⟩ := before
      have box : (session.step .advance).channel.requests.box = session.channel.requests.box := by
        rw [moves]
        exact RequestStream.box_answer _ _ _
      have arrivals : session.arrivedBy .advance = [] := by
        apply RequestStream.newRequests_of_length_le
        exact Nat.le_of_eq (by rw [box])
      have requests : (record.append (session.seenBy .advance)).requests = record.requests := by
        show record.requests ++ session.dispatchedBy .advance = _
        rw [notTaken, List.append_nil]
      constructor
      case inTurn => rw [arrivals, List.append_nil, requests, box, attended.inTurn]
      case answered =>
        have holdsNothing : (session.step .advance).heldRequest = none := by
          rw [moves]
          rfl
        rw [holdsNothing]
        show record.answers ++ session.answersBy .advance =
          History.answers subsystems (record.append (session.seenBy .advance)).requests
        rw [requests, last, History.answers_snoc, ← deserved, answered, answersBy, moves]
        show _ ++ List.drop _ (RequestStream.answer _ _ _).answers = _
        rw [answers_answer, List.drop_left]

/-- The loop leaves off, and refuses what is not answered. -/
theorem Attended.conclude (attended : Attended subsystems arrived record session)
    (dispatched : session.dispatchedBy act = []) (phase : LoopPhase)
    (ends : (session.step act).channel.requests = (session.endLoop phase).channel.requests) :
    Concluded subsystems (arrived ++ session.arrivedBy act)
      (record.append (session.seenBy act)) := by
  have arrivals : session.arrivedBy act = [] := by
    apply RequestStream.newRequests_of_length_le
    rw [ends]
    exact Nat.zero_le _
  have given : session.answersBy act = refusals session.unanswered := by
    rw [answersBy, ends, endLoop_answers, List.drop_left]
  have requests : (record.append (session.seenBy act)).requests = record.requests := by
    show record.requests ++ session.dispatchedBy act = _
    rw [dispatched, List.append_nil]
  have answers : (record.append (session.seenBy act)).answers =
      record.answers ++ refusals session.unanswered := by
    show record.answers ++ session.answersBy act = _
    rw [given]
  have before := attended.answered
  rw [arrivals, List.append_nil, attended.inTurn]
  cases held : session.heldRequest with
  | none =>
      rw [held] at before
      have left : session.unanswered = session.channel.requests.box.items.toList := by
        rw [unanswered, held]
        rfl
      refine ⟨record.requests, _, rfl, ?_, .inl requests⟩
      rw [answers, before, left]
  | some pair =>
      obtain ⟨request, verdict⟩ := pair
      rw [held] at before
      obtain ⟨earlier, last, -, answered⟩ := before
      have left : session.unanswered = request :: session.channel.requests.box.items.toList := by
        rw [unanswered, held]
        rfl
      refine ⟨earlier, session.unanswered, ?_, by rw [answers, answered], .inr ?_⟩
      · rw [last, left, List.append_assoc]
        rfl
      · exact ⟨request, _, left, requests.trans last⟩

/-- A step of the loop takes up what arrived first, or answers it, or leaves off. -/
theorem Attended.advance (attended : Attended subsystems arrived record session)
    (tracks : session.closed = false → Tracks subsystems record session)
    (goesOn : (session.step .advance).phase.leftOff = false) :
    Attended subsystems (arrived ++ session.arrivedBy .advance)
      (record.append (session.seenBy .advance)) (session.step .advance) := by
  cases advanced : session.advanceLoop? with
  | none =>
      have stays : session.step .advance = session := step_of_waits advanced
      exact attended.of_same (dispatchedBy_of_waits advanced) (by rw [stays]) (by rw [stays])
  | some after =>
      have moves : session.step .advance = after := step_of_advance advanced
      cases loopStep_of_advance advanced with
      | noticed parked isOpen notice =>
          refine attended.of_same (dispatchedBy_of_busy ?_) (by rw [moves]) ?_
          · intro conditions
            exact absurd (notice.symm.trans conditions.2.2) Bool.true_eq_false.mp
          · rw [moves, heldRequest, heldRequest, parked]
      | dispatched request requests parked isOpen notice taken =>
          apply attended.dispatched (tracks isOpen) _ moves
          rw [nextRequest?, if_pos ⟨parked, isOpen, notice⟩, taken]
      | finished request flushing => exact attended.finished flushing moves
      | handed event request middle delivered source delivery =>
          obtain ⟨_, _, _, _, rfl, -⟩ := deliver_cases delivery
          rcases source with ⟨_, flushing, next⟩ | ⟨handing, -, rfl⟩
          · have notTaken := dispatchedBy_of_phase flushing LoopPhase.noConfusion
            have held : (session.step .advance).heldRequest = session.heldRequest := by
              rw [moves, heldRequest, heldRequest, flushing]
            refine attended.of_same notTaken ?_ held
            rw [moves]
            obtain ⟨_, _, rfl⟩ := nextEvent_frame next
            rfl
          · have notTaken := dispatchedBy_of_phase handing LoopPhase.noConfusion
            refine attended.of_same notTaken (by rw [moves]) ?_
            rw [moves, heldRequest, heldRequest, handing]
      | waits event request middle flushing next =>
          have notTaken := dispatchedBy_of_phase flushing LoopPhase.noConfusion
          have held : (session.step .advance).heldRequest = session.heldRequest := by
            rw [moves, heldRequest, heldRequest, flushing]
          refine attended.of_same notTaken ?_ held
          rw [moves]
          obtain ⟨_, _, rfl⟩ := nextEvent_frame next
          rfl
      | stopped =>
          rw [moves] at goesOn
          exact absurd goesOn Bool.true_eq_false.mp
      | drained =>
          rw [moves] at goesOn
          exact absurd goesOn Bool.true_eq_false.mp

/-- After the loop has left off no request arrives, is taken up or is answered. -/
theorem LetGo.silent (letGo : LetGo session) (act : SessionAct) :
    session.arrivedBy act = [] ∧ session.dispatchedBy act = [] ∧ session.answersBy act = [] := by
  by_cases isAdvance : act = .advance
  · subst isAdvance
    have same : (session.step .advance).channel.requests = session.channel.requests := by
      rcases advance_of_leftOff letGo.leftOff with stays | returns
      · rw [stays]
      · rw [returns]
        rfl
    refine ⟨?_, ?_, answersBy_of_same (by rw [same])⟩
    · rw [arrivedBy, same]
      exact RequestStream.newRequests_of_length_le (Nat.le_refl _)
    · apply dispatchedBy_of_busy
      intro conditions
      exact absurd (conditions.2.1.symm.trans letGo.closed) Bool.false_ne_true
  · have notTaken : session.dispatchedBy act = [] := dispatchedBy_of_other isAdvance
    by_cases isCancel : act = .cancel
    · subst isCancel
      have same : (session.step .cancel).channel.requests = session.channel.requests := by
        show session.cancel.channel.requests = _
        rcases cancel_of_leftOff letGo.leftOff with stays | stops
        · rw [stays]
        · rw [stops]
      refine ⟨?_, notTaken, answersBy_of_same (by rw [same])⟩
      rw [arrivedBy, same]
      exact RequestStream.newRequests_of_length_le (Nat.le_refl _)
    · have beside := session.step_beside isAdvance isCancel
      exact ⟨beside.requests.detached letGo.detached, notTaken,
        List.drop_of_length_le beside.requests.answers⟩

end Account

end Session

end SshServer
