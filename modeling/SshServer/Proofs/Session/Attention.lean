import SshServer.Proofs.Session.Handover
import SshServer.Proofs.Session.LettingGo

/-!
Contract: the request loop of a session leaves no event behind.

Owns: which feeds the loop has been through, wherever it is; that it is told of every consumer who
comes after that; and that it waits for a request, or takes one up, only where no event waits for a
consumer.
Does not own: what becomes of an event that is taken up (`Proofs.Session.Signals` and
`Proofs.Session.Windows`).

One notice stands for any number of consumers, and it is enough: whoever has attached to a feed that
the loop has been through has left a notice, and the loop looks for that before anything else.
-/

namespace SshServer

/-- No event of the feed waits for a consumer. -/
def Feed.Served {α : Type} (feed : Feed α) : Prop :=
  feed.next? = none

theorem Feed.served_iff {α : Type} {feed : Feed α} :
    feed.Served ↔ feed.consumer = none ∨ feed.pending = [] := by
  unfold Served next?
  constructor
  · intro nothing
    split at nothing
    · exact absurd nothing (Option.some_ne_none _)
    next noPair =>
      cases consumer : feed.consumer with
      | none => exact .inl rfl
      | some number =>
          cases pending : feed.pending with
          | nil => exact .inr rfl
          | cons event rest => exact (noPair number event rest consumer pending).elim
  · rintro (consumer | pending)
    · rw [consumer]
    · rw [pending]
      cases feed.consumer <;> rfl

namespace SessionState

/-! ### What a request leaves in the feeds -/

/-- To start something touches neither the feeds nor the terminal. -/
theorem judgeStart_events (state : SessionState) (subsystems : List String) (kind : String)
    (payload : List UInt8) :
    (state.judgeStart subsystems kind payload).1.windows = state.windows ∧
      (state.judgeStart subsystems kind payload).1.signals = state.signals ∧
      (state.judgeStart subsystems kind payload).1.terminal = state.terminal := by
  unfold judgeStart
  split
  · exact ⟨rfl, rfl, rfl⟩
  · split
    · split <;> exact ⟨rfl, rfl, rfl⟩
    · split
      · split
        · exact ⟨rfl, rfl, rfl⟩
        · split <;> exact ⟨rfl, rfl, rfl⟩
      · exact ⟨rfl, rfl, rfl⟩

/-- A request after which no events are handed over brings none, or else it brings the size of a new
terminal. -/
theorem judge_quiet (state : SessionState) (subsystems : List String) (kind : String)
    (payload : List UInt8) (quiet : (state.judge subsystems kind payload).2.flush = false) :
    ((state.judge subsystems kind payload).1.windows = state.windows ∨
        state.terminal = none ∧ ∃ size,
          (state.judge subsystems kind payload).1.windows = (state.windows.push size).1) ∧
      (state.judge subsystems kind payload).1.signals = state.signals := by
  unfold judge at quiet ⊢
  split at quiet
  · unfold judgePty
    split
    · exact ⟨.inl rfl, rfl⟩
    · split
      · exact ⟨.inl rfl, rfl⟩
      next noTerminal =>
        rw [Option.not_isSome_iff_eq_none] at noTerminal
        exact ⟨.inr ⟨noTerminal, _, rfl⟩, rfl⟩
  · unfold judgeResize at quiet ⊢
    split at quiet
    · exact ⟨.inl rfl, rfl⟩
    · split at quiet
      next noTerminal =>
        rw [if_pos noTerminal]
        exact ⟨.inl rfl, rfl⟩
      · exact absurd quiet Bool.true_eq_false.mp
  · unfold judgeSignal at quiet ⊢
    split at quiet
    · exact ⟨.inl rfl, rfl⟩
    · split at quiet
      · exact ⟨.inl rfl, rfl⟩
      · dsimp only at quiet ⊢
        split at quiet
        · exact absurd quiet Bool.true_eq_false.mp
        next full =>
          rw [if_neg full]
          exact ⟨.inl rfl, rfl⟩
  · unfold judgeEnv
    split <;> exact ⟨.inl rfl, rfl⟩
  · exact ⟨.inl (judgeStart_events _ _ _ _).1, (judgeStart_events _ _ _ _).2.1⟩
  · exact ⟨.inl (judgeStart_events _ _ _ _).1, (judgeStart_events _ _ _ _).2.1⟩
  · exact ⟨.inl (judgeStart_events _ _ _ _).1, (judgeStart_events _ _ _ _).2.1⟩
  · exact ⟨.inl rfl, rfl⟩

/-- No request takes a terminal away. -/
theorem judge_terminal {state : SessionState} (granted : state.terminal.isSome = true)
    (subsystems : List String) (kind : String) (payload : List UInt8) :
    (state.judge subsystems kind payload).1.terminal.isSome = true := by
  unfold judge
  split
  · unfold judgePty
    split
    · exact granted
    · rw [if_pos granted]
      exact granted
  · unfold judgeResize
    split
    · exact granted
    · split <;> exact granted
  · unfold judgeSignal
    split
    · exact granted
    · split
      · exact granted
      · dsimp only
        split <;> exact granted
  · unfold judgeEnv
    split <;> exact granted
  · exact (judgeStart_events _ _ _ _).2.2.symm ▸ granted
  · exact (judgeStart_events _ _ _ _).2.2.symm ▸ granted
  · exact (judgeStart_events _ _ _ _).2.2.symm ▸ granted
  · exact granted

/-- Before it hands over signals, the loop has been through the sizes. -/
def Passed (state : SessionState) : FlushStage → Prop
  | .windows => True
  | .signals => state.windows.Served

/-- No event waits in the feeds that the loop has been through. -/
def LookedThrough (state : SessionState) : LoopPhase → Prop
  | .parked => state.windows.Served ∧ state.signals.Served
  | .flushing stage _ => state.Passed stage
  | .handing event _ => state.Passed event.stage
  | .draining | .finished | .cancelled => True

theorem LookedThrough.of_same {before after : SessionState} {phase : LoopPhase}
    (looked : before.LookedThrough phase) (windows : after.windows = before.windows)
    (signals : after.signals = before.signals) : after.LookedThrough phase := by
  have passed {stage : FlushStage} (wasPassed : before.Passed stage) : after.Passed stage := by
    cases stage with
    | windows => trivial
    | signals =>
        show after.windows.Served
        rw [windows]
        exact wasPassed
  cases phase with
  | parked =>
      show after.windows.Served ∧ after.signals.Served
      rw [windows, signals]
      exact looked
  | flushing stage request => exact passed looked
  | handing event request => exact passed looked
  | draining | finished | cancelled => trivial

end SessionState

namespace Session

/-- No event waits in the feeds that the loop has been through, unless somebody has attached since
and the loop is told of it. -/
structure Attentive (session : Session) : Prop where
  /-- Nobody waits for sizes before there is a terminal. -/
  terminal : session.state.windows.consumer ≠ none → session.state.terminal.isSome = true
  looked : session.notice = true ∨ session.state.LookedThrough session.phase

/-! ### The steps of the loop -/

section Steps

variable {session middle after : Session}

theorem served_of_nothing {stage : FlushStage} (nothing : session.nextEvent? stage = none)
    (passed : session.state.Passed stage) :
    session.state.windows.Served ∧ session.state.signals.Served := by
  unfold nextEvent? at nothing
  cases stage with
  | windows =>
      cases windows : session.state.windows.next? with
      | some pair =>
          rw [windows] at nothing
          exact absurd nothing (Option.some_ne_none _)
      | none =>
          rw [windows] at nothing
          refine ⟨windows, ?_⟩
          cases signals : session.state.signals.next? with
          | none => exact signals
          | some pair =>
              rw [signals] at nothing
              exact absurd nothing (Option.some_ne_none _)
  | signals =>
      refine ⟨passed, ?_⟩
      cases signals : session.state.signals.next? with
      | none => exact signals
      | some pair =>
          rw [signals] at nothing
          exact absurd nothing (Option.some_ne_none _)

/-- The loop turns to signals only where no size waits for a consumer. -/
theorem passed_of_next {stage : FlushStage} {event : Handover}
    (next : session.nextEvent? stage = some (event, middle)) (passed : session.state.Passed stage) :
    middle.state.Passed event.stage := by
  rcases nextEvent_cases next with
    ⟨_, _, _, rfl, -, -⟩ | ⟨consumer, signal, rest, rfl, -, rfl⟩
  · trivial
  · cases stage with
    | signals => exact passed
    | windows =>
        show session.state.windows.Served
        unfold nextEvent? at next
        cases windows : session.state.windows.next? with
        | none => exact windows
        | some pair =>
            rw [windows] at next
            exact Handover.noConfusion (Prod.mk.inj (Option.some.inj next)).1

/-- A signal that is handed over leaves the sizes alone, and a size takes at most its consumer
away. -/
theorem deliver_windows {event : Handover}
    (delivery : session.deliver event = .delivered after ∨ session.deliver event = .lost after) :
    after.state.windows = session.state.windows ∨
      event.stage = .windows ∧ ∃ consumer,
        after.state.windows = session.state.windows.detach consumer := by
  cases event with
  | window consumer size =>
      simp only [deliver] at delivery
      split at delivery
      · simp only [reduceCtorEq, false_or, Delivery.lost.injEq] at delivery
        subst delivery
        exact .inl rfl
      · split at delivery
        · simp only [reduceCtorEq, false_or, Delivery.lost.injEq] at delivery
          subst delivery
          exact .inr ⟨rfl, consumer, rfl⟩
        · split at delivery
          · simp only [reduceCtorEq, or_false, Delivery.delivered.injEq] at delivery
            subst delivery
            exact .inl rfl
          · simp only [reduceCtorEq, or_false] at delivery
  | signal consumer signal =>
      left
      simp only [deliver] at delivery
      split at delivery
      · simp only [reduceCtorEq, false_or, Delivery.lost.injEq] at delivery
        rw [← delivery]
      · split at delivery
        · simp only [reduceCtorEq, false_or, Delivery.lost.injEq] at delivery
          rw [← delivery]
        · split at delivery
          · simp only [reduceCtorEq, or_false, Delivery.delivered.injEq] at delivery
            rw [← delivery]
          · simp only [reduceCtorEq, or_false] at delivery

/-- A request that is answered at once brings no event to hand over. -/
theorem flush_of_parked {request : Request} (parked : (session.dispatch request).phase = .parked) :
    (session.state.judge session.subsystems request.kind request.payload.toList).2.flush =
      false := by
  rw [← Bool.not_eq_true]
  intro flush
  unfold dispatch at parked
  dsimp only at parked
  rw [if_pos flush] at parked
  exact LoopPhase.noConfusion parked

/-- Whatever the loop takes up, the feeds that it has been through stay without anything to hand
over. -/
theorem Attentive.dispatched (attentive : Attentive session) {request : Request}
    {requests : RequestStream} (parked : session.phase = .parked)
    (notice : session.notice = false) :
    Attentive
      ({ session with channel := { session.channel with requests } }.dispatch request) := by
  obtain ⟨phase, _, _, same, cases⟩ :=
    dispatch_cases { session with channel := { session.channel with requests } } request
  have quiet :=
    @flush_of_parked { session with channel := { session.channel with requests } } request
  have holding := session.state.judge_holding session.subsystems request.kind
    request.payload.toList
  rw [same] at quiet ⊢
  constructor
  case terminal =>
    intro consumer
    exact SessionState.judge_terminal (attentive.terminal (holding.windows ▸ consumer)) _ _ _
  case looked =>
    right
    rcases cases with ⟨rfl, -⟩ | ⟨rfl, -⟩
    · trivial
    · have before := attentive.looked.resolve_left (by simp [notice])
      rw [parked] at before
      obtain ⟨windows, signals⟩ := session.state.judge_quiet _ _ _ (quiet rfl)
      refine ⟨?_, ?_⟩
      · rcases windows with unchanged | ⟨noTerminal, size, pushed⟩
        · rw [unchanged]
          exact before.1
        · -- The first size finds nobody who waits for it, as there was no terminal.
          rw [pushed, Feed.served_iff, Feed.consumer_push]
          left
          by_contra consumer
          have granted := attentive.terminal consumer
          rw [noTerminal] at granted
          exact absurd granted Bool.false_ne_true
      · rw [signals]
        exact before.2

/-- Handing over an event changes nothing in the feeds that come before it. -/
theorem Attentive.settled (attentive : Attentive session) {event : Handover}
    {request : Option (Request × Bool)}
    (source : (∃ stage, session.phase = .flushing stage request ∧
        session.nextEvent? stage = some (event, middle)) ∨
      session.phase = .handing event request ∧ session.closed = false ∧ middle = session) :
    (middle.state.windows.consumer ≠ none → middle.state.terminal.isSome = true) ∧
      (middle.notice = true ∨ middle.state.Passed event.stage) := by
  rcases source with ⟨stage, flushing, next⟩ | ⟨handing, -, rfl⟩
  · have looked := attentive.looked
    rw [flushing] at looked
    have passed := looked.imp_right (passed_of_next next)
    rcases nextEvent_cases next with ⟨_, _, _, -, -, rfl⟩ | ⟨_, _, _, -, -, rfl⟩
    · exact ⟨attentive.terminal, passed⟩
    · exact ⟨attentive.terminal, passed⟩
  · have looked := attentive.looked
    rw [handing] at looked
    exact ⟨attentive.terminal, looked⟩

theorem LoopStep.attentive (step : LoopStep session after) (attentive : Attentive session) :
    Attentive after := by
  cases step with
  | noticed => exact ⟨attentive.terminal, .inr trivial⟩
  | dispatched request requests parked _ notice => exact attentive.dispatched parked notice
  | finished request flushing nothing =>
      have looked := attentive.looked
      rw [flushing] at looked
      obtain ⟨_, same⟩ := session.finishRequest_cases request
      rw [same]
      refine ⟨attentive.terminal, looked.imp_right fun passed => ?_⟩
      have served : session.state.windows.Served ∧ session.state.signals.Served :=
        served_of_nothing nothing passed
      exact served
  | handed event request middle delivered source delivery =>
      obtain ⟨terminal, looked⟩ := attentive.settled source
      have windows := deliver_windows delivery
      obtain ⟨_, _, _, _, rfl, -⟩ := deliver_cases delivery
      constructor
      case terminal =>
        intro consumer
        apply terminal
        rcases windows with unchanged | ⟨-, gone, detached⟩
        · exact unchanged ▸ consumer
        · intro nobody
          apply consumer
          show Feed.consumer _ = none
          rw [detached, Feed.consumer_detach, nobody]
          rfl
      case looked =>
        refine looked.imp_right fun passed => ?_
        rcases windows with unchanged | ⟨sizes, -⟩
        · show SessionState.Passed _ event.stage
          cases stage : event.stage with
          | windows => trivial
          | signals =>
              rw [stage] at passed
              show Feed.Served _
              rw [unchanged]
              exact passed
        · show SessionState.Passed _ event.stage
          rw [sizes]
          trivial
  | waits event request middle flushing next =>
      obtain ⟨terminal, looked⟩ := attentive.settled (.inl ⟨_, flushing, next⟩)
      exact ⟨terminal, looked⟩
  | stopped =>
      obtain ⟨_, same⟩ := session.endLoop_cases .draining
      rw [same]
      exact ⟨fun consumer => absurd rfl consumer, .inr trivial⟩
  | drained => exact ⟨attentive.terminal, .inr trivial⟩

end Steps

/-! ### Everything else -/

/-- Whoever attaches leaves a notice, and nobody else changes the feeds. -/
theorem Attentive.step {session : Session} (attentive : Attentive session) (act : SessionAct) :
    Attentive (session.step act) := by
  by_cases isAdvance : act = .advance
  · subst isAdvance
    rcases session.advance_cases with stays | step
    · rw [stays]
      exact attentive
    · exact step.attentive attentive
  · by_cases isCancel : act = .cancel
    · subst isCancel
      show Attentive session.cancel
      unfold cancel
      split
      · exact attentive
      · exact attentive
      · exact ⟨attentive.terminal, .inr trivial⟩
      · obtain ⟨_, same⟩ := session.endLoop_cases .cancelled
        rw [same]
        exact ⟨fun consumer => absurd rfl consumer, .inr trivial⟩
    · have beside := session.step_beside isAdvance isCancel
      obtain ⟨_, _, _, _, facts⟩ := (session.step_outside isAdvance).facts
      have sameTerminal : (session.step act).state.terminal = session.state.terminal := by
        rw [facts]
      constructor
      case terminal =>
        intro consumer
        rw [sameTerminal]
        rcases beside.terminal with unchanged | granted
        · exact attentive.terminal (unchanged ▸ consumer)
        · exact granted
      case looked =>
        rw [step_phase session isAdvance isCancel]
        cases told : (session.step act).notice with
        | true => exact .inl rfl
        | false =>
            right
            have notTold : session.notice ≠ true :=
              fun notice => absurd (told.symm.trans (beside.notice notice)) Bool.false_ne_true
            have unchanged {α : Type} {before after : Feed α}
                (rewired : Rewired before after (session.step act).notice) : after = before := by
              rcases rewired with same | ⟨isTold, -⟩
              · exact same
              · exact absurd (told.symm.trans isTold) Bool.false_ne_true
            exact (attentive.looked.resolve_left notTold).of_same (unchanged beside.windows)
              (unchanged beside.signals)

theorem attentive_run (context : Context) (subsystems : List String) (offer : ChannelOffer)
    (awaited : Bool) (acts : List SessionAct) :
    Attentive ((onOffer context subsystems offer awaited).run acts) := by
  have initial : Attentive (onOffer context subsystems offer awaited) := by
    refine ⟨fun consumer => absurd rfl consumer, .inr ?_⟩
    show Feed.Served _ ∧ Feed.Served _
    exact ⟨rfl, rfl⟩
  exact runFrom_induction Session.step Attentive (fun _ act attentive => attentive.step act)
    initial acts

/-! ### Where the loop looks for requests -/

/-- The events of a kind that arrived and found room. -/
def Record.accepted (seen : Record) : (stage : FlushStage) → List stage.Event
  | .windows => kept seen.sizes
  | .signals => kept seen.signals

/-- Nobody waits for an event, and the loop has been told of nobody whom it has not looked after. -/
structure NothingLeft (seen : Record) (book : (stage : FlushStage) → DeskBook stage.Event)
    (session : Session) : Prop where
  noNotice : session.notice = false
  served : ∀ stage, (session.feed stage).consumer = none ∨ (session.feed stage).pending = []
  free : ∀ stage, session.inHand stage = none
  /-- Where somebody is attached, every event that was accepted has been handed over, or was
  lost. -/
  passed : ∀ stage, (session.feed stage).consumer ≠ none →
    ((book stage).passed.map fun entry => entry.1.event) = seen.accepted stage
  /-- An event is lost only with its receiver. -/
  lostWithReceiver : ∀ stage, ∀ parcel ∈ (book stage).lost, ∃ receiver,
    (session.receivers stage)[parcel.receiver]? = some receiver ∧ receiver.held = false

/-- The loop of a session that is open waits for a request or a notice, or else for the room that a
consumer has to make. -/
theorem waits_cases {session : Session} (isOpen : session.closed = false)
    (goesOn : session.phase.leftOff = false) (settled : session.advanceLoop? = none) :
    session.phase = .parked ∨
      ∃ event request, session.phase = .handing event request ∧ session.deliver event = .full := by
  cases phase : session.phase with
  | parked => exact .inl rfl
  | flushing => exact absurd settled (advance_of_flushing phase)
  | draining | finished | cancelled =>
      rw [phase] at goesOn
      exact absurd goesOn Bool.true_eq_false.mp
  | handing event request =>
      refine .inr ⟨event, request, rfl, ?_⟩
      simp only [advanceLoop?, phase, isOpen, Bool.false_eq_true, if_false] at settled
      split at settled
      · exact absurd settled (Option.some_ne_none _)
      · exact absurd settled (Option.some_ne_none _)
      next full => exact full

/-- A loop that waits for a request, or takes one up, has been told of nobody since it last
looked. -/
theorem noNotice_of_parked {session : Session} (isOpen : session.closed = false)
    (looks : session.phase = .parked ∧ session.advanceLoop? = none ∨
      ∃ next, session.nextRequest? = some next) :
    session.phase = .parked ∧ session.notice = false := by
  rcases looks with ⟨parked, settled⟩ | ⟨next, takes⟩
  · refine ⟨parked, ?_⟩
    rw [← Bool.not_eq_true]
    intro notice
    simp only [advanceLoop?, parked, isOpen, Bool.false_eq_true, if_false, if_pos notice] at settled
    exact absurd settled (Option.some_ne_none _)
  · obtain ⟨request, requests⟩ := next
    obtain ⟨parked, -, notice, -⟩ := nextRequest?_eq_some takes
    exact ⟨parked, notice⟩

/-- Where the loop waits for a request, or takes one up, no event waits for a consumer. -/
theorem served_of_parked (context : Context) (subsystems : List String) (offer : ChannelOffer)
    (awaited : Bool) {acts : List SessionAct} :
    let session := (onOffer context subsystems offer awaited).run acts
    session.closed = false →
      (session.phase = .parked ∧ session.advanceLoop? = none ∨
        ∃ next, session.nextRequest? = some next) →
      session.state.windows.Served ∧ session.state.signals.Served := by
  intro session isOpen looks
  obtain ⟨parked, noNotice⟩ := noNotice_of_parked isOpen looks
  have looked := (attentive_run context subsystems offer awaited acts).looked.resolve_left
    (ne_true_of_eq_false noNotice)
  change session.state.LookedThrough session.phase at looked
  rw [parked] at looked
  exact looked

/-- As long as a session is open, whoever attaches, replaces and drops receivers, and when: wherever
the loop waits for a request or a notice, and wherever it takes up a request, it has been told of
nobody whom it has not looked after, and neither feed has both a consumer and an event for it. Every
event that was accepted has gone to the consumers then, if somebody is attached. Where the loop
waits for anything else, it waits for a consumer to make room. -/
theorem no_event_left_behind (context : Context) (subsystems : List String) (offer : ChannelOffer)
    (awaited : Bool) (acts : List SessionAct)
    (isOpen : ((onOffer context subsystems offer awaited).run acts).closed = false) :
    let start := onOffer context subsystems offer awaited
    let session := start.run acts
    (session.advanceLoop? = none →
        session.phase = .parked ∨
          ∃ event request, session.phase = .handing event request ∧
            session.deliver event = .full) ∧
      (session.phase = .parked ∧ session.advanceLoop? = none ∨
          (∃ next, session.nextRequest? = some next) →
        NothingLeft (start.seenIn acts) (fun stage => start.deskBook stage acts) session) := by
  intro start session
  have tracks := tracks_run context subsystems offer awaited acts isOpen
  have books (stage : FlushStage) := kept_run context subsystems offer awaited stage acts isOpen
  have goesOn : session.phase.leftOff = false := by
    rw [← Bool.not_eq_true]
    intro leftOff
    exact absurd (isOpen.symm.trans (letGo_run rfl acts leftOff).closed) Bool.false_ne_true
  refine ⟨waits_cases isOpen goesOn, fun looks => ?_⟩
  obtain ⟨parked, noNotice⟩ := noNotice_of_parked isOpen looks
  have looked := served_of_parked context subsystems offer awaited isOpen looks
  have served (stage : FlushStage) :
      (session.feed stage).consumer = none ∨ (session.feed stage).pending = [] := by
    cases stage with
    | windows => exact Feed.served_iff.1 looked.1
    | signals => exact Feed.served_iff.1 looked.2
  have free (stage : FlushStage) : session.inHand stage = none := by rw [inHand, parked]
  refine ⟨noNotice, served, free, fun stage consumer => ?_,
    fun stage => (books stage).losesOnce.gone⟩
  have nothingPending := (served stage).resolve_left consumer
  have accounted := (books stage).passed
  have noneInHand : (session.desk stage).inHand = none := free stage
  rw [noneInHand, takenUp_deskEntriesIn] at accounted
  change _ ++ [] = _ at accounted
  rw [List.append_nil] at accounted
  cases stage with
  | windows =>
      have handed := tracks.windowsKept
      change _ ++ (session.feed .windows).pending = _ at handed
      rw [nothingPending, List.append_nil] at handed
      rw [Handover.inStage_windows, handed] at accounted
      exact accounted
  | signals =>
      have handed := tracks.signalsKept
      change _ ++ (session.feed .signals).pending = _ at handed
      rw [nothingPending, List.append_nil] at handed
      rw [Handover.inStage_signals, handed] at accounted
      exact accounted

/-- The loop waits with a signal for a consumer when somebody comes for the size of the terminal. He
has it before the next request is taken up, once the signal has gone. -/
theorem no_event_left_behind_while_handing :
    let terminal : SessionAct :=
      .requests (.send 0 "pty-req" ⟨#[0, 0, 0, 0, 0, 0, 0, 80, 0, 0, 0, 24]⟩ false)
    let signal (name : Array UInt8) : SessionAct :=
      .requests (.send 0 "signal" ⟨#[0, 0, 0, name.size.toUInt8] ++ name⟩ false)
    let start := onOffer default [] ⟨"session", ByteArray.empty⟩ true
    let blocked : List SessionAct :=
      [terminal, .advance, .registerSignals 1, .advance, .advance, signal #[84, 69, 82, 77],
        .advance, .advance, .advance, signal #[73, 78, 84], .advance, .advance, .takeTerminal]
    let acts := blocked ++
      [.takeSignal 0, .advance, .advance, .requests (.send 0 "shell" ByteArray.empty false),
        .advance, .advance, .advance]
    let session := start.run acts
    session.closed = false ∧ (start.run blocked).advanceLoop? = none ∧
      (start.run blocked).phase ≠ .parked ∧ (start.run blocked).notice = true ∧
      (start.run blocked).state.windows.pending = [⟨80, 24⟩] ∧
      (∃ event request, (start.run blocked).phase = .handing event request ∧
        (start.run blocked).deliver event = .full) ∧
      session.nextRequest?.isSome = true ∧ (session.feed .windows).consumer = some 0 ∧
      (session.feed .signals).consumer = some 0 ∧
      NothingLeft (start.seenIn acts) (fun stage => start.deskBook stage acts) session :=
  have waits := (no_event_left_behind default [] ⟨"session", ByteArray.empty⟩ true
    [.requests (.send 0 "pty-req" ⟨#[0, 0, 0, 0, 0, 0, 0, 80, 0, 0, 0, 24]⟩ false), .advance,
      .registerSignals 1, .advance, .advance,
      .requests (.send 0 "signal" ⟨#[0, 0, 0, 4, 84, 69, 82, 77]⟩ false), .advance, .advance,
      .advance, .requests (.send 0 "signal" ⟨#[0, 0, 0, 3, 73, 78, 84]⟩ false), .advance, .advance,
      .takeTerminal] (by decide +kernel)).1 (by decide +kernel)
  ⟨by decide +kernel, by decide +kernel, by decide +kernel, by decide +kernel, by decide +kernel,
    waits.resolve_left (by decide +kernel), by decide +kernel, by decide +kernel,
    by decide +kernel,
    (no_event_left_behind default [] ⟨"session", ByteArray.empty⟩ true _ (by decide +kernel)).2
      (.inr (Option.isSome_iff_exists.1 (by decide +kernel)))⟩

end Session

end SshServer
