import SshServer.Proofs.Session.Frame
import SshServer.Proofs.Session.Verdicts

/-!
Contract: the request loop answers and keeps what the requests so far amount to.

Owns: what is seen of the loop over a run, be it the requests that it takes up, its answers, the
handlers that it starts or the events that it passes on; and that all of it follows from the
requests, as long as the session stays open.
Does not own: what requests amount to (`Proofs.Session.History`).

Holders, peer and handler act between any two steps of the loop. They can attach and drop receivers,
so when an event is handed over is not told by the requests, nor how many of them wait; but which
events there are is, and in which order.
-/

namespace SshServer

def Handover.size? : Handover → Option WindowSize
  | .window _ size => some size
  | .signal _ _ => none

def Handover.signal? : Handover → Option Signal
  | .window _ _ => none
  | .signal _ raised => some raised

namespace Session

/-! ### What is seen of the loop -/

/-- The request that the next step of the loop takes up, and those that are left. -/
def nextRequest? (session : Session) : Option (Request × RequestStream) :=
  if session.phase = .parked ∧ session.closed = false ∧ session.notice = false then
    session.channel.requests.take?
  else none

def dispatchedBy (session : Session) : SessionAct → List Request
  | .advance => (session.nextRequest?.map Prod.fst).toList
  | _ => []

def answersBy (session : Session) (act : SessionAct) : List (Nat × Bool) :=
  (session.step act).channel.requests.answers.drop session.channel.requests.answers.length

def startedBy (session : Session) (act : SessionAct) : List Program :=
  (session.dispatchedBy act).filterMap fun request =>
    (session.state.judge session.subsystems request.kind request.payload.toList).2.start

/-- The events that an operation takes out of the feeds. -/
def handedBy (session : Session) : SessionAct → List Handover
  | .advance =>
    match session.phase with
    | .flushing stage _ => ((session.nextEvent? stage).map Prod.fst).toList
    | _ => []
  | _ => []

/-- The sizes that come with the requests that an operation takes up, and whether there is room. -/
def sizesBy (session : Session) (act : SessionAct) : List (WindowSize × Bool) :=
  (session.dispatchedBy act).filterMap fun request =>
    (if session.state.terminal.isSome then request.sizeAsked
      else request.terminalAsked.map Terminal.window).map fun size =>
        (size, decide (session.state.windows.pending.length < feedBacklog))

/-- The signals that come with the requests that an operation takes up, and whether
there is room. -/
def signalsBy (session : Session) (act : SessionAct) : List (Signal × Bool) :=
  (session.dispatchedBy act).filterMap fun request =>
    request.signalAsked.map fun signal =>
      (signal, decide (session.state.signals.pending.length < feedBacklog))

/-- The answer that the loop holds until events are handed over. -/
def heldAnswer (session : Session) : List (Nat × Bool) :=
  match session.heldRequest with
  | none => []
  | some (request, verdict) => History.reply request verdict

/-- What is seen of the loop. -/
structure Record where
  requests : List Request
  answers : List (Nat × Bool)
  started : List Program
  handed : List Handover
  sizes : List (WindowSize × Bool)
  signals : List (Signal × Bool)

def seenBy (session : Session) (act : SessionAct) : Record where
  requests := session.dispatchedBy act
  answers := session.answersBy act
  started := session.startedBy act
  handed := session.handedBy act
  sizes := session.sizesBy act
  signals := session.signalsBy act

/-- What is seen of the loop over a run. -/
def seenIn (session : Session) (acts : List SessionAct) : Record where
  requests := observed step dispatchedBy session acts
  answers := observed step answersBy session acts
  started := observed step startedBy session acts
  handed := observed step handedBy session acts
  sizes := observed step sizesBy session acts
  signals := observed step signalsBy session acts

/-- A record with a later one behind it. -/
def Record.append (first later : Record) : Record where
  requests := first.requests ++ later.requests
  answers := first.answers ++ later.answers
  started := first.started ++ later.started
  handed := first.handed ++ later.handed
  sizes := first.sizes ++ later.sizes
  signals := first.signals ++ later.signals

theorem seenIn_snoc (session : Session) (acts : List SessionAct) (act : SessionAct) :
    session.seenIn (acts ++ [act]) =
      (session.seenIn acts).append ((session.run acts).seenBy act) := by
  simp only [seenIn, seenBy, Record.append, observed_snoc, run]

/-- The events of those that came which found room. -/
def kept {α : Type} (arrivals : List (α × Bool)) : List α :=
  (arrivals.filter Prod.snd).map Prod.fst

/-- What is seen of the loop follows from the requests, and the session knows what they
amount to. -/
structure Tracks (subsystems : List String) (record : Record) (session : Session) : Prop where
  served : session.subsystems = subsystems
  reflects : Reflects subsystems record.requests session.state
  answered : record.answers ++ session.heldAnswer = History.answers subsystems record.requests
  started : record.started = (History.program subsystems record.requests).toList
  /-- A handler runs only if it was started. -/
  running : ∀ program, session.handler = .running program →
    History.program subsystems record.requests = some program
  /-- A handler that was started was not forgotten. -/
  idle : session.handler = .idle → History.program subsystems record.requests = none
  windowsOpen : session.state.windows.closed = false
  signalsOpen : session.state.signals.closed = false
  sizes : record.sizes.map Prod.fst = History.sizes record.requests
  signals : record.signals.map Prod.fst = record.requests.filterMap Request.signalAsked
  windowsKept : record.handed.filterMap Handover.size? ++ session.state.windows.pending =
    kept record.sizes
  signalsKept : record.handed.filterMap Handover.signal? ++ session.state.signals.pending =
    kept record.signals

/-! ### Steps that take up no request -/

section Quiet

variable {subsystems : List String} {record : Record} {session after : Session} {act : SessionAct}

theorem SessionState.SameFacts.reflects {past : List Request} {before after : SessionState}
    (same : before.SameFacts after) (reflects : Reflects subsystems past before) :
    Reflects subsystems past after := by
  obtain ⟨_, _, _, _, rfl⟩ := same
  exact { reflects with }

theorem Tracks.frame (tracks : Tracks subsystems record session)
    (served : after.subsystems = session.subsystems) (facts : session.state.SameFacts after.state)
    (events : session.state.SameEvents after.state)
    (held : after.heldAnswer = session.heldAnswer)
    (handler : after.handler = session.handler ∨ after.handler = .finished) :
    Tracks subsystems record after := by
  refine { tracks with
    served := served.trans tracks.served
    reflects := SessionState.SameFacts.reflects facts tracks.reflects
    answered := ?_
    running := ?_
    idle := ?_
    windowsOpen := events.1.2.trans tracks.windowsOpen
    signalsOpen := events.2.2.trans tracks.signalsOpen
    windowsKept := ?_
    signalsKept := ?_ }
  · rw [held]
    exact tracks.answered
  · intro program running
    rcases handler with same | ended
    · exact tracks.running program (same ▸ running)
    · rw [ended] at running
      exact HandlerPhase.noConfusion running
  · intro idle
    rcases handler with same | ended
    · exact tracks.idle (same ▸ idle)
    · rw [ended] at idle
      exact HandlerPhase.noConfusion idle
  · rw [events.1.1]
    exact tracks.windowsKept
  · rw [events.2.1]
    exact tracks.signalsKept

/-- Where no request is taken up and none is answered, at most events are passed on. -/
theorem Record.append_seenBy {handed : List Handover} (requests : session.dispatchedBy act = [])
    (answers : session.answersBy act = []) (passed : session.handedBy act = handed) :
    record.append (session.seenBy act) = { record with handed := record.handed ++ handed } := by
  simp only [append, seenBy, startedBy, sizesBy, signalsBy, requests, answers, passed,
    List.filterMap_nil, List.append_nil]

/-- Where nothing is seen, the record stays as it is. -/
theorem Tracks.of_seen (tracks : Tracks subsystems record after)
    (requests : session.dispatchedBy act = []) (answers : session.answersBy act = [])
    (handed : session.handedBy act = []) :
    Tracks subsystems (record.append (session.seenBy act)) after := by
  rw [Record.append_seenBy requests answers handed, List.append_nil]
  exact tracks

theorem Tracks.outside (tracks : Tracks subsystems record session) (other : act ≠ .advance)
    (isOpen : (session.step act).closed = false) :
    Tracks subsystems (record.append (session.seenBy act)) (session.step act) := by
  have outside := session.step_outside other
  have undisturbed := outside.undisturbed isOpen
  have held : (session.step act).heldAnswer = session.heldAnswer := by
    rw [heldAnswer, undisturbed.held, heldAnswer]
  apply Tracks.of_seen
  · exact tracks.frame outside.subsystems outside.facts undisturbed.events held undisturbed.handler
  · cases act with
    | advance => exact absurd rfl other
    | _ => rfl
  · exact List.drop_of_length_le undisturbed.answers
  · cases act with
    | advance => exact absurd rfl other
    | _ => rfl

/-- An event that the loop takes up is passed on before those that stay. -/
theorem Tracks.pick {middle : Session} {stage : FlushStage} {event : Handover}
    (tracks : Tracks subsystems record session)
    (next : session.nextEvent? stage = some (event, middle)) :
    Tracks subsystems { record with handed := record.handed ++ [event] } middle := by
  have windowsKept := tracks.windowsKept
  have signalsKept := tracks.signalsKept
  rcases nextEvent_cases next with
    ⟨consumer, size, rest, rfl, pending, rfl⟩ | ⟨consumer, signal, rest, rfl, pending, rfl⟩
  · rw [pending] at windowsKept
    refine { tracks with reflects := ?_, windowsKept := ?_, signalsKept := ?_ }
    · exact { tracks.reflects with }
    · rw [List.filterMap_append, List.append_assoc]
      exact windowsKept
    · rw [List.filterMap_append]
      exact (List.append_nil _).symm ▸ signalsKept
  · rw [pending] at signalsKept
    refine { tracks with reflects := ?_, windowsKept := ?_, signalsKept := ?_ }
    · exact { tracks.reflects with }
    · rw [List.filterMap_append]
      exact (List.append_nil _).symm ▸ windowsKept
    · rw [List.filterMap_append, List.append_assoc]
      exact signalsKept

theorem dispatchedBy_of_phase {phase : LoopPhase} (inPhase : session.phase = phase)
    (notParked : phase ≠ .parked) : session.dispatchedBy .advance = [] := by
  rw [dispatchedBy, nextRequest?, if_neg]
  · rfl
  · rw [inPhase]
    exact fun conditions => notParked conditions.1

theorem handedBy_of_phase {phase : LoopPhase} (inPhase : session.phase = phase)
    (notFlushing : ∀ stage request, phase ≠ .flushing stage request) :
    session.handedBy .advance = [] := by
  rw [handedBy, inPhase]
  split
  next stage request => exact absurd rfl (notFlushing stage request)
  · rfl

theorem handedBy_of_next {middle : Session} {stage : FlushStage} {event : Handover}
    {request : Option (Request × Bool)} (phase : session.phase = .flushing stage request)
    (next : session.nextEvent? stage = some (event, middle)) :
    session.handedBy .advance = [event] := by
  simp only [handedBy, phase, next]
  rfl

theorem answersBy_of_same (same : (session.step act).channel.requests.answers =
    session.channel.requests.answers) : session.answersBy act = [] := by
  rw [answersBy, same, List.drop_length]

end Quiet

/-! ### Steps that take up a request -/

section Dispatch

variable {subsystems : List String} {record : Record} {session after : Session}

theorem kept_append {α : Type} (first later : List (α × Bool)) :
    kept (first ++ later) = kept first ++ kept later := by
  rw [kept, List.filter_append, List.map_append, kept, kept]

/-- The event that arrives at a feed, if one does, and whether it finds room. -/
def arrival {α : Type} (feed : Feed α) (event : Option α) : List (α × Bool) :=
  (event.map fun event => (event, decide (feed.pending.length < feedBacklog))).toList

theorem map_fst_arrival {α : Type} (feed : Feed α) (event : Option α) :
    (arrival feed event).map Prod.fst = event.toList := by
  cases event with
  | none => rfl
  | some event => rfl

/-- A feed that is open takes what finds room. -/
theorem pending_offered {α : Type} {feed : Feed α} (isOpen : feed.closed = false)
    (event : Option α) :
    (feed.offered event).pending = feed.pending ++ kept (arrival feed event) := by
  cases event with
  | none => exact (List.append_nil _).symm
  | some event =>
      show (feed.push event).1.pending = _
      unfold Feed.push arrival
      by_cases room : feed.pending.length < feedBacklog
      · have fits : ¬(feed.closed = true ∨ feedBacklog ≤ feed.pending.length) := by
          rintro (isClosed | full)
          · exact absurd (isOpen.symm.trans isClosed) Bool.false_ne_true
          · omega
        rw [if_neg fits, Option.map_some, decide_eq_true room]
        rfl
      · have full : feed.closed = true ∨ feedBacklog ≤ feed.pending.length := by omega
        rw [if_pos full, Option.map_some, decide_eq_false room]
        exact (List.append_nil _).symm

theorem closed_offered {α : Type} (feed : Feed α) (event : Option α) :
    (feed.offered event).closed = feed.closed := by
  cases event with
  | none => rfl
  | some event =>
      show (feed.push event).1.closed = _
      unfold Feed.push
      split <;> rfl

theorem answers_answer (stream : RequestStream) (request : Request) (verdict : Bool) :
    (stream.answer request verdict).answers = stream.answers ++ History.reply request verdict := by
  unfold RequestStream.answer History.reply
  cases request.reply with
  | none => exact (List.append_nil _).symm
  | some number => rfl

theorem nextRequest?_eq_some {request : Request} {requests : RequestStream}
    (next : session.nextRequest? = some (request, requests)) :
    session.phase = .parked ∧ session.closed = false ∧ session.notice = false ∧
      session.channel.requests.take? = some (request, requests) := by
  unfold nextRequest? at next
  split at next
  next conditions => exact ⟨conditions.1, conditions.2.1, conditions.2.2, next⟩
  · exact absurd next (Option.some_ne_none _).symm

theorem answers_of_take {stream rest : RequestStream} {request : Request}
    (taken : stream.take? = some (request, rest)) : rest.answers = stream.answers := by
  simp only [RequestStream.take?, Option.map_eq_some_iff, Prod.mk.injEq, Prod.exists] at taken
  obtain ⟨_, _, -, -, rfl⟩ := taken
  rfl

section Judged

variable {past : List Request} {request : Request} {requests : RequestStream}

/-- What is seen where a request is taken up. -/
theorem seenBy_of_nextRequest (reflects : Reflects session.subsystems past session.state)
    (next : session.nextRequest? = some (request, requests)) :
    session.seenBy .advance =
      { requests := [request]
        answers := session.answersBy .advance
        started := (History.programGranted session.subsystems past request).toList
        handed := []
        sizes := arrival session.state.windows (History.sizeGranted past request)
        signals := arrival session.state.signals request.signalAsked } := by
  have judged := judge_judged reflects request
  have parked := (nextRequest?_eq_some next).1
  have requested : session.dispatchedBy .advance = [request] := by
    rw [dispatchedBy, next]
    rfl
  have started : session.startedBy .advance =
      (History.programGranted session.subsystems past request).toList := by
    rw [startedBy, requested, ← judged.start]
    exact History.filterMap_singleton _ request
  have handed : session.handedBy .advance = [] :=
    handedBy_of_phase parked fun _ _ => LoopPhase.noConfusion
  have sizes : session.sizesBy .advance =
      arrival session.state.windows (History.sizeGranted past request) := by
    rw [sizesBy, requested, History.filterMap_singleton, reflects.terminal]
    rfl
  have signals : session.signalsBy .advance =
      arrival session.state.signals request.signalAsked := by
    rw [signalsBy, requested, History.filterMap_singleton]
    rfl
  rw [seenBy, requested, started, handed, sizes, signals]

/-- A request that is taken up is answered at once, or its answer is held. -/
theorem answersBy_of_nextRequest (reflects : Reflects session.subsystems past session.state)
    (next : session.nextRequest? = some (request, requests))
    (advanced : session.step .advance =
      ({ session with channel := { session.channel with requests } }.dispatch request)) :
    session.answersBy .advance ++ (session.step .advance).heldAnswer =
      History.reply request (History.answer session.subsystems past request) := by
  have taken := (nextRequest?_eq_some next).2.2.2
  obtain ⟨phase, answered, log, same, cases⟩ :=
    dispatch_cases { session with channel := { session.channel with requests } } request
  rw [same] at advanced
  rw [answersBy, advanced, ← (judge_judged reflects request).answer, ← answers_of_take taken]
  rcases cases with ⟨rfl, rfl⟩ | ⟨rfl, rfl⟩
  · rw [List.drop_length]
    rfl
  · show List.drop _ (RequestStream.answer _ _ _).answers ++ [] = _
    rw [answers_answer, List.drop_left, List.append_nil]

/-- A handler that is started is the first one, and one that is not stays what it was. -/
theorem Tracks.program_of_handler (tracks : Tracks subsystems record session)
    (handler : after.handler =
      ((History.programGranted subsystems record.requests request).map HandlerPhase.running).getD
        session.handler) :
    (∀ program, after.handler = .running program →
        History.program subsystems (record.requests ++ [request]) = some program) ∧
      (after.handler = .idle →
        History.program subsystems (record.requests ++ [request]) = none) := by
  rw [handler, History.program_snoc]
  cases granted : History.programGranted subsystems record.requests request with
  | none =>
      rw [Option.or_none]
      exact ⟨tracks.running, tracks.idle⟩
  | some started =>
      rw [History.program_eq_none_of_granted _ _ granted, Option.none_or]
      refine ⟨fun program running => ?_, fun idle => HandlerPhase.noConfusion idle⟩
      rw [HandlerPhase.running.inj running]

theorem Tracks.dispatched (tracks : Tracks subsystems record session)
    (next : session.nextRequest? = some (request, requests))
    (advanced : session.step .advance =
      ({ session with channel := { session.channel with requests } }.dispatch request)) :
    Tracks subsystems (record.append (session.seenBy .advance)) (session.step .advance) := by
  obtain rfl := tracks.served
  have judged := judge_judged tracks.reflects request
  have answers := answersBy_of_nextRequest tracks.reflects next advanced
  rw [seenBy_of_nextRequest tracks.reflects next, Record.append, List.append_nil]
  obtain ⟨phase, answered, log, same, -⟩ :=
    dispatch_cases { session with channel := { session.channel with requests } } request
  rw [same] at advanced
  have handler : (session.step .advance).handler =
      ((History.programGranted session.subsystems record.requests request).map
        HandlerPhase.running).getD session.handler := by
    rw [advanced, ← judged.start]
  have knows := tracks.program_of_handler handler
  constructor
  case served => rw [advanced]
  case reflects =>
    rw [advanced]
    exact judged.reflects
  case answered =>
    have before := tracks.answered
    rw [heldAnswer, heldRequest, (nextRequest?_eq_some next).1, List.append_nil] at before
    rw [List.append_assoc, answers, History.answers_snoc, before]
  case started =>
    rw [History.program_snoc, tracks.started]
    cases granted : History.programGranted session.subsystems record.requests request with
    | none => rw [Option.toList_none, List.append_nil, Option.or_none]
    | some program =>
        rw [History.program_eq_none_of_granted _ _ granted]
        rfl
  case running => exact knows.1
  case idle => exact knows.2
  case windowsOpen =>
    rw [advanced, judged.windows, closed_offered]
    exact tracks.windowsOpen
  case signalsOpen =>
    rw [advanced, judged.signals, closed_offered]
    exact tracks.signalsOpen
  case sizes => rw [List.map_append, tracks.sizes, History.sizes_snoc, map_fst_arrival]
  case signals =>
    rw [List.map_append, tracks.signals, History.filterMap_snoc, map_fst_arrival]
  case windowsKept =>
    rw [advanced, kept_append, ← tracks.windowsKept, List.append_assoc,
      ← pending_offered tracks.windowsOpen, ← judged.windows]
  case signalsKept =>
    rw [advanced, kept_append, ← tracks.signalsKept, List.append_assoc,
      ← pending_offered tracks.signalsOpen, ← judged.signals]

end Judged

end Dispatch

/-! ### All steps -/

section Steps

variable {subsystems : List String} {record : Record} {session : Session}

theorem advance_of_nextRequest {request : Request} {requests : RequestStream}
    (next : session.nextRequest? = some (request, requests)) :
    session.advanceLoop? = some
      ({ session with channel := { session.channel with requests } }.dispatch request) := by
  obtain ⟨parked, isOpen, notice, taken⟩ := nextRequest?_eq_some next
  simp only [advanceLoop?, parked, isOpen, notice, taken, Bool.false_eq_true, if_false]

/-- While it has events to look at, the loop never waits. -/
theorem advance_of_flushing {stage : FlushStage} {request : Option (Request × Bool)}
    (flushing : session.phase = .flushing stage request) : session.advanceLoop? ≠ none := by
  simp only [advanceLoop?, flushing]
  split
  · exact Option.some_ne_none _
  · split
    · exact Option.some_ne_none _
    · exact Option.some_ne_none _
    · exact Option.some_ne_none _

theorem Tracks.stalled (tracks : Tracks subsystems record session)
    (waits : session.advanceLoop? = none) :
    Tracks subsystems (record.append (session.seenBy .advance)) (session.step .advance) := by
  have stays : session.step .advance = session := step_of_waits waits
  rw [stays]
  apply tracks.of_seen
  · rw [dispatchedBy]
    cases next : session.nextRequest? with
    | none => rfl
    | some pair =>
        exact absurd ((advance_of_nextRequest next).symm.trans waits) (Option.some_ne_none _)
  · exact answersBy_of_same (by rw [stays])
  · exact handedBy_of_phase rfl fun stage request flushing => advance_of_flushing flushing waits

/-- An event that was taken up goes to its consumer, or waits for it, and nothing else changes. -/
theorem Tracks.passed {middle after : Session} {event : Handover}
    {request : Option (Request × Bool)} (tracks : Tracks subsystems record session)
    (source : (∃ stage, session.phase = .flushing stage request ∧
        session.nextEvent? stage = some (event, middle)) ∨
      session.phase = .handing event request ∧ session.closed = false ∧ middle = session)
    (moves : session.step .advance = after)
    (served : after.subsystems = middle.subsystems) (facts : middle.state.SameFacts after.state)
    (events : middle.state.SameEvents after.state)
    (answers : after.channel.requests.answers = middle.channel.requests.answers)
    (handler : after.handler = middle.handler) (held : after.heldRequest = request) :
    Tracks subsystems (record.append (session.seenBy .advance)) (session.step .advance) := by
  rw [moves]
  rcases source with ⟨stage, flushing, next⟩ | ⟨handing, -, rfl⟩
  · have requests : session.dispatchedBy .advance = [] :=
      dispatchedBy_of_phase flushing LoopPhase.noConfusion
    have sameAnswers : middle.channel.requests.answers = session.channel.requests.answers := by
      obtain ⟨_, _, rfl⟩ := nextEvent_frame next
      rfl
    have sameHeld : middle.heldRequest = request := by
      obtain ⟨_, _, rfl⟩ := nextEvent_frame next
      simp only [heldRequest, flushing]
    have noAnswers : session.answersBy .advance = [] :=
      answersBy_of_same (by rw [moves, answers, sameAnswers])
    rw [Record.append_seenBy requests noAnswers (handedBy_of_next flushing next)]
    exact (tracks.pick next).frame served facts events
      (by rw [heldAnswer, held, heldAnswer, sameHeld]) (.inl handler)
  · have sameHeld : middle.heldRequest = request := by simp only [heldRequest, handing]
    apply Tracks.of_seen
    · exact tracks.frame served facts events
        (by rw [heldAnswer, held, heldAnswer, sameHeld]) (.inl handler)
    · exact dispatchedBy_of_phase handing LoopPhase.noConfusion
    · exact answersBy_of_same (by rw [moves, answers])
    · exact handedBy_of_phase handing fun _ _ => LoopPhase.noConfusion

/-- When no event is left, the answer that was held is given. -/
theorem Tracks.answer {stage : FlushStage} {request : Option (Request × Bool)}
    (tracks : Tracks subsystems record session) (flushing : session.phase = .flushing stage request)
    (nothing : session.nextEvent? stage = none)
    (moves : session.step .advance = session.finishRequest request) :
    Tracks subsystems (record.append (session.seenBy .advance)) (session.step .advance) := by
  have requests : session.dispatchedBy .advance = [] :=
    dispatchedBy_of_phase flushing LoopPhase.noConfusion
  have handed : session.handedBy .advance = [] := by
    simp only [handedBy, flushing, nothing]
    rfl
  have answers : session.answersBy .advance = session.heldAnswer := by
    rw [answersBy, moves, heldAnswer]
    simp only [heldRequest, flushing]
    cases request with
    | none => exact List.drop_length
    | some held =>
        show List.drop _ (RequestStream.answer _ _ _).answers = _
        rw [answers_answer, List.drop_left]
  have released : (session.step .advance).heldAnswer = [] := by
    rw [moves]
    cases request with
    | none => rfl
    | some held => rfl
  have seen : record.append (session.seenBy .advance) =
      { record with answers := record.answers ++ session.heldAnswer } := by
    simp only [Record.append, seenBy, startedBy, sizesBy, signalsBy, requests, answers, handed,
      List.filterMap_nil, List.append_nil]
  obtain ⟨_, same⟩ := session.finishRequest_cases request
  rw [moves, same] at released ⊢
  rw [seen]
  refine { tracks with reflects := { tracks.reflects with }, answered := ?_ }
  rw [released, List.append_nil]
  exact tracks.answered

theorem Tracks.advance (tracks : Tracks subsystems record session)
    (isOpen : (session.step .advance).closed = false) :
    Tracks subsystems (record.append (session.seenBy .advance)) (session.step .advance) := by
  cases advanced : session.advanceLoop? with
  | none => exact tracks.stalled advanced
  | some after =>
      have moves : session.step .advance = after := step_of_advance advanced
      cases loopStep_of_advance advanced with
      | noticed parked _ notice =>
          rw [moves]
          apply Tracks.of_seen
          · refine tracks.frame rfl (.refl _) (.refl _) ?_ (.inl rfl)
            rw [heldAnswer, heldRequest, heldAnswer, heldRequest, parked]
          · rw [dispatchedBy, nextRequest?, if_neg]
            · rfl
            · exact fun conditions =>
                absurd (notice.symm.trans conditions.2.2) Bool.true_eq_false.mp
          · exact answersBy_of_same (by rw [moves])
          · exact handedBy_of_phase parked fun _ _ => LoopPhase.noConfusion
      | dispatched request requests parked isOpen notice taken =>
          apply tracks.dispatched _ moves
          rw [nextRequest?, if_pos ⟨parked, isOpen, notice⟩, taken]
      | finished request flushing nothing => exact tracks.answer flushing nothing moves
      | handed event request middle delivered source delivery =>
          obtain ⟨_, _, _, _, rfl, events⟩ := deliver_cases delivery
          exact tracks.passed source moves rfl ⟨_, _, _, _, rfl⟩ events rfl rfl rfl
      | waits event request middle flushing next =>
          exact tracks.passed (.inl ⟨_, flushing, next⟩) moves rfl (.refl _) (.refl _) rfl rfl rfl
      | stopped =>
          obtain ⟨_, ended⟩ := session.endLoop_cases .draining
          rw [moves, ended] at isOpen
          exact absurd isOpen Bool.true_eq_false.mp
      | drained draining =>
          rw [moves]
          apply Tracks.of_seen
          · refine tracks.frame rfl (.refl _) (.refl _) ?_ (.inl rfl)
            rw [heldAnswer, heldRequest, heldAnswer, heldRequest, draining]
          · exact dispatchedBy_of_phase draining LoopPhase.noConfusion
          · exact answersBy_of_same (by rw [moves]; rfl)
          · exact handedBy_of_phase draining fun _ _ => LoopPhase.noConfusion

theorem Tracks.step (tracks : Tracks subsystems record session) {act : SessionAct}
    (isOpen : (session.step act).closed = false) :
    Tracks subsystems (record.append (session.seenBy act)) (session.step act) := by
  by_cases isAdvance : act = .advance
  · rw [isAdvance] at isOpen ⊢
    exact tracks.advance isOpen
  · exact tracks.outside isAdvance isOpen

end Steps

/-! ### Runs -/

theorem Tracks.onOffer (context : Context) (subsystems : List String) (offer : ChannelOffer)
    (awaited : Bool) :
    Tracks subsystems ⟨[], [], [], [], [], []⟩ (onOffer context subsystems offer awaited) where
  served := rfl
  reflects := ⟨rfl, rfl, fun _ => rfl, List.nodup_nil, rfl, rfl, rfl⟩
  answered := rfl
  started := rfl
  running := fun _ running => HandlerPhase.noConfusion running
  idle := fun _ => rfl
  windowsOpen := rfl
  signalsOpen := rfl
  sizes := rfl
  signals := rfl
  windowsKept := rfl
  signalsKept := rfl

/-- As long as a session stays open, whatever it does follows from its requests. -/
theorem tracks_run (context : Context) (subsystems : List String) (offer : ChannelOffer)
    (awaited : Bool) (acts : List SessionAct)
    (isOpen : ((Session.onOffer context subsystems offer awaited).run acts).closed = false) :
    Tracks subsystems ((Session.onOffer context subsystems offer awaited).seenIn acts)
      ((Session.onOffer context subsystems offer awaited).run acts) := by
  refine open_run _ (fun acts => Tracks subsystems (seenIn _ acts) (run _ acts)) ?_ ?_ acts isOpen
  case refine_1 => exact Tracks.onOffer context subsystems offer awaited
  case refine_2 =>
    intro acts act _ staysOpen tracks
    rw [seenIn_snoc, run_snoc]
    exact tracks.step staysOpen

/-- As long as a session stays open, whatever holders, peer and handler do in between, its answers,
its state, the handlers that it starts and the events that it passes on are those that its requests
amount to; and a request that is refused leaves the state and the handler as they are. -/
theorem session_follows_requests (context : Context) (subsystems : List String)
    (offer : ChannelOffer) (awaited : Bool) (acts : List SessionAct)
    (isOpen : ((Session.onOffer context subsystems offer awaited).run acts).closed = false) :
    let start := Session.onOffer context subsystems offer awaited
    Tracks subsystems (start.seenIn acts) (start.run acts) ∧
      ∀ earlier request requests, (start.run earlier).nextRequest? = some (request, requests) →
        History.answer subsystems (start.seenIn earlier).requests request = false →
        ((start.run earlier).step .advance).state = (start.run earlier).state ∧
          ((start.run earlier).step .advance).handler = (start.run earlier).handler := by
  intro start
  refine ⟨tracks_run context subsystems offer awaited acts isOpen, ?_⟩
  intro earlier request requests next refused
  have tracks := tracks_run context subsystems offer awaited earlier (nextRequest?_eq_some next).2.1
  have judged := judge_judged tracks.reflects request
  have moves : (start.run earlier).step .advance = dispatch
      { start.run earlier with
        channel := { (start.run earlier).channel with requests } } request := by
    show (start.run earlier).advanceLoop?.getD _ = _
    rw [advance_of_nextRequest next, Option.getD_some]
  obtain ⟨_, _, _, same, -⟩ := dispatch_cases
    { start.run earlier with channel := { (start.run earlier).channel with requests } } request
  have served : (start.run earlier).subsystems = subsystems := tracks.served
  rw [← judged.answer] at refused
  obtain ⟨unchanged, nothing⟩ := judge_harmless _ _ _ _ refused
  rw [moves, same]
  dsimp only
  rw [served, unchanged, nothing]
  exact ⟨rfl, rfl⟩

/-- A shell is started once, and a type that is not known is refused. -/
theorem session_follows_requests_of_shells :
    let start := Session.onOffer default ["sftp"] ⟨"session", ByteArray.empty⟩ true
    let acts : List SessionAct :=
      [.requests (.send 0 "shell" ByteArray.empty true), .advance,
        .requests (.send 1 "x11-req" ByteArray.empty true),
        .requests (.send 2 "shell" ByteArray.empty true), .advance, .advance]
    (start.run acts).closed = false ∧
      (start.seenIn acts).answers = [(0, true), (1, false), (2, false)] ∧
      (start.seenIn acts).started = [.main] ∧
      Tracks ["sftp"] (start.seenIn acts) (start.run acts) :=
  ⟨by decide, by decide, by decide,
    (session_follows_requests default ["sftp"] ⟨"session", ByteArray.empty⟩ true
      [.requests (.send 0 "shell" ByteArray.empty true), .advance,
        .requests (.send 1 "x11-req" ByteArray.empty true),
        .requests (.send 2 "shell" ByteArray.empty true), .advance, .advance] (by decide)).1⟩

end Session

end SshServer
