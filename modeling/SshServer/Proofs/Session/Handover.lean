import SshServer.Proofs.Session.Lifecycle
import SshServer.Proofs.Session.Receipts

/-!
Contract: a session hands over its events at two desks, one for window sizes and one for signals.

Owns: the desks of a session; what an onlooker sees at a desk with each operation; that every step
of a session whose loop goes on is what is seen at its desks; and the book of a desk over a run.
Does not own: what a book says of a desk (`Proofs.Session.Desk`, `Proofs.Session.Receipts`), and
which events there are (`Proofs.Session.Requests`).

Holders make and drop receivers and take from them at any time, also while the loop waits for one.
-/

namespace SshServer

/-- The events that are handed over in a stage. -/
abbrev FlushStage.Event : FlushStage → Type
  | .windows => WindowSize
  | .signals => Signal

/-- The event with its receiver, if it is handed over in the stage. -/
def Handover.inStage? : Handover → (stage : FlushStage) → Option (Nat × stage.Event)
  | .window receiver size, .windows => some (receiver, size)
  | .signal receiver raised, .signals => some (receiver, raised)
  | _, _ => none

theorem Handover.inStage_windows :
    (fun event : Handover => (event.inStage? .windows).map Prod.snd) = Handover.size? := by
  funext event
  cases event with
  | window receiver size => rfl
  | signal receiver raised => rfl

theorem Handover.inStage_signals :
    (fun event : Handover => (event.inStage? .signals).map Prod.snd) = Handover.signal? := by
  funext event
  cases event with
  | window receiver size => rfl
  | signal receiver raised => rfl

namespace Feed

variable {α : Type}

theorem consumer_of_next {feed after : Feed α} {consumer : Nat} {event : α}
    (next : feed.next? = some ((consumer, event), after)) : feed.consumer = some consumer := by
  unfold next? at next
  split at next
  next first rest isConsumer pending =>
    obtain ⟨same, -⟩ := Prod.mk.inj (Option.some.inj next)
    rw [isConsumer, (Prod.mk.inj same).1]
  · exact absurd next (Option.some_ne_none _).symm

@[simp] theorem consumer_detach (feed : Feed α) (consumer : Nat) :
    (feed.detach consumer).consumer =
      Desk.remaining feed.consumer consumer := by
  unfold detach Desk.remaining
  split <;> rfl

theorem consumer_attach {feed : Feed α} (isOpen : feed.closed = false) (consumer : Nat) :
    (feed.attach consumer).consumer = some consumer := by
  rw [attach, isOpen, if_neg Bool.false_ne_true]

end Feed

namespace Session

/-! ### The desks of a session -/

def feed (session : Session) : (stage : FlushStage) → Feed stage.Event
  | .windows => session.state.windows
  | .signals => session.state.signals

def receivers (session : Session) : (stage : FlushStage) → List (Receiver stage.Event)
  | .windows => session.windowReceivers
  | .signals => session.signalReceivers

/-- The event that waits for its receiver. -/
def inHand (session : Session) (stage : FlushStage) : Option (Nat × stage.Event) :=
  match session.phase with
  | .handing event _ => event.inStage? stage
  | _ => none

def desk (session : Session) (stage : FlushStage) : Desk stage.Event where
  consumer := (session.feed stage).consumer
  receivers := session.receivers stage
  inHand := session.inHand stage

/-! ### What is seen at a desk -/

/-- What becomes of an event that the loop tries to hand over. -/
def outcomeOf (session : Session) (stage : FlushStage) (event : Handover) :
    List (DeskEntry stage.Event) :=
  if event.stage = stage then
    match session.deliver event with
    | .delivered _ => [.handed]
    | .lost _ => [.lost]
    | .full => []
  else []

/-- What a step of the loop does at a desk. -/
def loopEntries (session : Session) (stage : FlushStage) : List (DeskEntry stage.Event) :=
  match session.phase with
  | .flushing current _ =>
    match session.nextEvent? current with
    | none => []
    | some (event, middle) =>
      ((event.inStage? stage).map fun taken => .takenUp taken.1 taken.2).toList ++
        middle.outcomeOf stage event
  | .handing event _ => if session.closed then [] else session.outcomeOf stage event
  | _ => []

/-- What an operation does at a desk. -/
def deskEntries (session : Session) :
    (stage : FlushStage) → SessionAct → List (DeskEntry stage.Event)
  | .windows, .takeTerminal => session.takeTerminal.2.2.toList.map .registered
  | .windows, .takeWindow receiver =>
    ((session.takeWindow? receiver).map fun taken => .took receiver taken.1).toList
  | .windows, .dropWindows receiver => [.dropped receiver]
  | .signals, .registerSignals capacity => [.registered (session.registerSignals capacity).2]
  | .signals, .reregisterSignals receiver =>
    if receiver < session.signalReceivers.length then [.registered receiver] else []
  | .signals, .takeSignal receiver =>
    ((session.takeSignal? receiver).map fun taken => .took receiver taken.1).toList
  | .signals, .dropSignals receiver => [.dropped receiver]
  | stage, .advance => session.loopEntries stage
  | _, _ => []

@[simp] theorem deskEntries_advance (session : Session) (stage : FlushStage) :
    session.deskEntries stage .advance = session.loopEntries stage := by
  cases stage with
  | windows => rfl
  | signals => rfl

def deskEntriesIn (session : Session) (stage : FlushStage) (acts : List SessionAct) :
    List (DeskEntry stage.Event) :=
  observed step (fun session => session.deskEntries stage) session acts

/-- The book of a desk over a run. -/
def deskBook (session : Session) (stage : FlushStage) (acts : List SessionAct) :
    DeskBook stage.Event :=
  .ofEntries (session.deskEntriesIn stage acts)

/-! ### Attempts to hand over an event -/

section Attempts

variable {session middle : Session} {stage current : FlushStage} {event : Handover}
variable {request : Option (Request × Bool)}

/-- The session after the loop tried to hand over an event. -/
def settle (session : Session) (event : Handover) (request : Option (Request × Bool)) : Session :=
  match session.deliver event with
  | .delivered after => { after with phase := .flushing event.stage request }
  | .lost after => { after with phase := .flushing event.stage request }
  | .full => { session with phase := .handing event request }

/-- The event goes to its receiver or is lost with it, or else it waits in hand. -/
theorem settle_cases (session : Session) (event : Handover) (request : Option (Request × Bool)) :
    (∃ after, (session.deliver event = .delivered after ∨ session.deliver event = .lost after) ∧
      session.settle event request = { after with phase := .flushing event.stage request }) ∨
    session.settle event request = { session with phase := .handing event request } := by
  unfold settle
  cases session.deliver event with
  | delivered after => exact .inl ⟨after, .inl rfl, rfl⟩
  | lost after => exact .inl ⟨after, .inr rfl, rfl⟩
  | full => exact .inr rfl

theorem advance_of_next (phase : session.phase = .flushing current request)
    (next : session.nextEvent? current = some (event, middle)) :
    session.step .advance = middle.settle event request := by
  show session.advanceLoop?.getD session = _
  simp only [advanceLoop?, phase, next, settle]
  cases middle.deliver event with
  | delivered after => rfl
  | lost after => rfl
  | full => rfl

theorem advance_of_handing (phase : session.phase = .handing event request)
    (isOpen : session.closed = false) :
    session.step .advance = session.settle event request := by
  have notClosed : ¬session.closed = true := ne_true_of_eq_false isOpen
  show session.advanceLoop?.getD session = _
  unfold advanceLoop? settle
  rw [phase]
  dsimp only
  rw [if_neg notClosed]
  cases session.deliver event with
  | delivered after => rfl
  | lost after => rfl
  | full =>
      rw [← phase]
      rfl

/-- What the loop does with an event of the stage is an attempt at its desk. -/
theorem attempt_of_inStage (session : Session) (request : Option (Request × Bool)) {number : Nat}
    {content : stage.Event} (own : event.inStage? stage = some (number, content)) :
    (session.desk stage).attempt number content =
      (session.outcomeOf stage event, (session.settle event request).desk stage) := by
  cases event with
  | window receiver size =>
      cases stage with
      | signals => exact absurd own (Option.some_ne_none _).symm
      | windows =>
          obtain ⟨rfl, rfl⟩ := Prod.mk.inj (Option.some.inj own)
          have sameStage : (Handover.window receiver size).stage = .windows := rfl
          have sameReceivers : (session.desk .windows).receivers = session.windowReceivers := rfl
          rw [Desk.attempt, outcomeOf, settle, deliver, sameReceivers, if_pos sameStage]
          cases session.windowReceivers[receiver]? with
          | none => rfl
          | some found =>
              dsimp only
              split
              · simp only [desk, feed, receivers, inHand, Feed.consumer_detach]
              · split
                · rfl
                · rfl
  | signal receiver raised =>
      cases stage with
      | windows => exact absurd own (Option.some_ne_none _).symm
      | signals =>
          obtain ⟨rfl, rfl⟩ := Prod.mk.inj (Option.some.inj own)
          have sameStage : (Handover.signal receiver raised).stage = .signals := rfl
          have sameReceivers : (session.desk .signals).receivers = session.signalReceivers := rfl
          rw [Desk.attempt, outcomeOf, settle, deliver, sameReceivers, if_pos sameStage]
          cases session.signalReceivers[receiver]? with
          | none => rfl
          | some found =>
              dsimp only
              split
              · simp only [desk, feed, receivers, inHand, Feed.consumer_detach]
              · split
                · rfl
                · rfl

/-- What the loop does with an event of the other stage leaves a desk alone. -/
theorem settle_of_other (session : Session) (request : Option (Request × Bool))
    (other : event.inStage? stage = none) :
    session.outcomeOf stage event = [] ∧
      (session.settle event request).desk stage = { session.desk stage with inHand := none } := by
  cases event with
  | window receiver size =>
      cases stage with
      | windows => exact absurd other (Option.some_ne_none _)
      | signals =>
          refine ⟨rfl, ?_⟩
          rw [settle, deliver]
          cases session.windowReceivers[receiver]? with
          | none => rfl
          | some found =>
              dsimp only
              cases found.held with
              | false => rfl
              | true =>
                  cases found.hasRoom with
                  | false => rfl
                  | true => rfl
  | signal receiver raised =>
      cases stage with
      | signals => exact absurd other (Option.some_ne_none _)
      | windows =>
          refine ⟨rfl, ?_⟩
          rw [settle, deliver]
          cases session.signalReceivers[receiver]? with
          | none => rfl
          | some found =>
              dsimp only
              cases found.held with
              | false => rfl
              | true =>
                  cases found.hasRoom with
                  | false => rfl
                  | true => rfl

/-- An event that is taken up is for the receiver that is registered. -/
theorem desk_of_next (phase : session.phase = .flushing current request)
    (next : session.nextEvent? current = some (event, middle)) :
    middle.desk stage = session.desk stage ∧ session.inHand stage = none ∧
      ∀ number content, event.inStage? stage = some (number, content) →
        (session.desk stage).consumer = some number := by
  have free : session.inHand stage = none := by rw [inHand, phase]
  unfold nextEvent? at next
  split at next
  next receiver size windows found =>
    obtain ⟨rfl, rfl⟩ := Prod.mk.inj (Option.some.inj next)
    have isConsumer := Feed.consumer_of_next found
    obtain ⟨rest, -, rfl⟩ := Feed.next?_eq_some found
    cases stage with
    | windows =>
        refine ⟨rfl, free, fun number content own => ?_⟩
        rw [← (Prod.mk.inj (Option.some.inj own)).1]
        exact isConsumer
    | signals => exact ⟨rfl, free, fun _ _ own => absurd own (Option.some_ne_none _).symm⟩
  · split at next
    next receiver raised signals found =>
      obtain ⟨rfl, rfl⟩ := Prod.mk.inj (Option.some.inj next)
      have isConsumer := Feed.consumer_of_next found
      obtain ⟨rest, -, rfl⟩ := Feed.next?_eq_some found
      cases stage with
      | windows => exact ⟨rfl, free, fun _ _ own => absurd own (Option.some_ne_none _).symm⟩
      | signals =>
          refine ⟨rfl, free, fun number content own => ?_⟩
          rw [← (Prod.mk.inj (Option.some.inj own)).1]
          exact isConsumer
    · exact absurd next (Option.some_ne_none _).symm

end Attempts

/-! ### Steps of the loop -/

section Loop

variable {session after : Session} {stage current : FlushStage} {event : Handover}
variable {request : Option (Request × Bool)}

theorem inHand_of_other (notHanding : ∀ event request, session.phase ≠ .handing event request) :
    session.inHand stage = none := by
  unfold inHand
  split
  next event request handing => exact absurd handing (notHanding event request)
  · rfl

/-- What the desks are made of. -/
theorem desk_of_frame (windows : after.state.windows.consumer = session.state.windows.consumer)
    (signals : after.state.signals.consumer = session.state.signals.consumer)
    (windowReceivers : after.windowReceivers = session.windowReceivers)
    (signalReceivers : after.signalReceivers = session.signalReceivers)
    (inHand : after.inHand stage = session.inHand stage) :
    after.desk stage = session.desk stage := by
  cases stage with
  | windows => simp only [desk, feed, receivers, windows, windowReceivers, inHand]
  | signals => simp only [desk, feed, receivers, signals, signalReceivers, inHand]

/-- The loop takes up an event and tries to hand it over. -/
theorem runs_of_next {middle : Session} (phase : session.phase = .flushing current request)
    (next : session.nextEvent? current = some (event, middle))
    (known : ∀ number, (session.desk stage).consumer = some number →
      number < (session.desk stage).receivers.length) :
    (session.desk stage).Runs (session.loopEntries stage) ((session.step .advance).desk stage) := by
  obtain ⟨sameDesk, free, consumer⟩ := desk_of_next phase next
  have entries : session.loopEntries stage =
      ((event.inStage? stage).map fun taken => DeskEntry.takenUp taken.1 taken.2).toList ++
        middle.outcomeOf stage event := by
    simp only [loopEntries, phase, next]
  rw [entries, advance_of_next phase next]
  cases own : event.inStage? stage with
  | none =>
      obtain ⟨nothing, after⟩ := settle_of_other middle request own
      rw [nothing, after, sameDesk, Desk.with_inHand free]
      exact .nil _
  | some taken =>
      obtain ⟨number, content⟩ := taken
      have isConsumer := consumer number content own
      have attempts := (session.desk stage).attempt_runs (known number isConsumer) content
      rw [← sameDesk, attempt_of_inStage middle request own, sameDesk] at attempts
      exact .cons (.takenUp number content isConsumer free) attempts

/-- The loop tries again to hand over the event in hand. -/
theorem runs_of_handing (phase : session.phase = .handing event request)
    (isOpen : session.closed = false)
    (known : ∀ number content, (session.desk stage).inHand = some (number, content) →
      number < (session.desk stage).receivers.length) :
    (session.desk stage).Runs (session.loopEntries stage) ((session.step .advance).desk stage) := by
  have inHand : (session.desk stage).inHand = event.inStage? stage := by
    show session.inHand stage = _
    rw [Session.inHand, phase]
  have entries : session.loopEntries stage = session.outcomeOf stage event := by
    simp only [loopEntries, phase, isOpen, Bool.false_eq_true, if_false]
  rw [entries, advance_of_handing phase isOpen]
  cases own : event.inStage? stage with
  | none =>
      obtain ⟨nothing, after⟩ := settle_of_other session request own
      rw [nothing, after, Desk.with_inHand (inHand.trans own)]
      exact .nil _
  | some taken =>
      obtain ⟨number, content⟩ := taken
      have isInHand := inHand.trans own
      have attempts := (session.desk stage).attempt_runs (known number content isInHand) content
      rw [attempt_of_inStage session request own, Desk.with_inHand isInHand] at attempts
      exact attempts

/-- Where the loop hands over nothing, it leaves the desks alone. -/
theorem desk_of_resting (step : LoopStep session after) (goesOn : after.phase.leftOff = false)
    (notFlushing : ∀ current request, session.phase = .flushing current request →
      session.nextEvent? current = none)
    (notHanding : ∀ event request, session.phase ≠ .handing event request) :
    after.desk stage = session.desk stage := by
  have free : session.inHand stage = none := inHand_of_other notHanding
  cases step with
  | noticed => exact desk_of_frame rfl rfl rfl rfl free.symm
  | dispatched taken requests =>
      have holding := SessionState.judge_holding session.state session.subsystems taken.kind
        taken.payload.toList
      obtain ⟨phase, _, _, same, cases⟩ :=
        dispatch_cases { session with channel := { session.channel with requests } } taken
      rw [same]
      refine desk_of_frame holding.windows holding.signals rfl rfl (Eq.trans ?_ free.symm)
      rcases cases with ⟨rfl, -⟩ | ⟨rfl, -⟩
      · rfl
      · rfl
  | finished request =>
      obtain ⟨_, same⟩ := session.finishRequest_cases request
      rw [same]
      exact desk_of_frame rfl rfl rfl rfl free.symm
  | handed event request middle delivered source =>
      rcases source with ⟨current, flushing, next⟩ | ⟨handing, -, -⟩
      · exact absurd (next.symm.trans (notFlushing current request flushing))
          (Option.some_ne_none _)
      · exact absurd handing (notHanding event request)
  | waits event request middle flushing next =>
      exact absurd (next.symm.trans (notFlushing _ request flushing)) (Option.some_ne_none _)
  | stopped => exact absurd goesOn Bool.true_eq_false.mp
  | drained => exact absurd goesOn Bool.true_eq_false.mp

theorem runs_of_resting (goesOn : (session.step .advance).phase.leftOff = false)
    (noEntries : session.loopEntries stage = [])
    (notFlushing : ∀ current request, session.phase = .flushing current request →
      session.nextEvent? current = none)
    (notHanding : ∀ event request, session.phase ≠ .handing event request) :
    (session.desk stage).Runs (session.loopEntries stage) ((session.step .advance).desk stage) := by
  have same : (session.step .advance).desk stage = session.desk stage := by
    rcases session.advance_cases with waits | step
    · rw [waits]
    · exact desk_of_resting step goesOn notFlushing notHanding
  rw [noEntries, same]
  exact .nil _

/-- The loop goes on with the event in hand only where the session is open. -/
theorem open_of_handing (phase : session.phase = .handing event request)
    (goesOn : (session.step .advance).phase.leftOff = false) : session.closed = false := by
  rw [← Bool.not_eq_true]
  intro isClosed
  have ends : session.advanceLoop? = some (session.endLoop .draining) := by
    simp only [advanceLoop?, phase, isClosed, if_true]
  rw [step_of_advance ends] at goesOn
  exact absurd goesOn Bool.true_eq_false.mp

/-- What a step of the loop does at a desk. -/
theorem runs_of_advance (goesOn : (session.step .advance).phase.leftOff = false)
    (consumerKnown : ∀ number, (session.desk stage).consumer = some number →
      number < (session.desk stage).receivers.length)
    (inHandKnown : ∀ number content, (session.desk stage).inHand = some (number, content) →
      number < (session.desk stage).receivers.length) :
    (session.desk stage).Runs (session.deskEntries stage .advance)
      ((session.step .advance).desk stage) := by
  rw [deskEntries_advance]
  cases phase : session.phase with
  | handing event request =>
      exact runs_of_handing phase (open_of_handing phase goesOn) inHandKnown
  | flushing current request =>
      cases next : session.nextEvent? current with
      | some taken => exact runs_of_next phase next consumerKnown
      | none =>
          apply runs_of_resting goesOn
          · simp only [loopEntries, phase, next]
          · intro other held isPhase
            rw [phase] at isPhase
            rw [← (LoopPhase.flushing.inj isPhase).1]
            exact next
          · intro event held isPhase
            rw [phase] at isPhase
            exact LoopPhase.noConfusion isPhase
  | parked | draining | finished | cancelled =>
      apply runs_of_resting goesOn
      · simp only [loopEntries, phase]
      · intro other held isPhase
        rw [phase] at isPhase
        exact LoopPhase.noConfusion isPhase
      · intro event held isPhase
        rw [phase] at isPhase
        exact LoopPhase.noConfusion isPhase

end Loop

/-! ### Operations other than steps of the loop -/

section Outside

variable {session : Session} {stage : FlushStage} {act : SessionAct}

theorem runs_of_silent (noEntries : session.deskEntries stage act = [])
    (same : (session.step act).desk stage = session.desk stage) :
    (session.desk stage).Runs (session.deskEntries stage act) ((session.step act).desk stage) := by
  rw [noEntries, same]
  exact .nil _

theorem runs_of_takeTerminal (feedOpen : session.state.windows.closed = false) :
    (session.desk .windows).Runs (session.deskEntries .windows .takeTerminal)
      ((session.step .takeTerminal).desk .windows) := by
  show Desk.Runs _ (session.takeTerminal.2.2.toList.map DeskEntry.registered)
    (session.takeTerminal.1.desk .windows)
  unfold takeTerminal
  split
  · exact .nil _
  · split
    · exact .nil _
    · exact .one (.enroll 1 (Feed.consumer_attach feedOpen _) rfl rfl)

theorem runs_of_registerSignals (feedOpen : session.state.signals.closed = false)
    (capacity : Nat) :
    (session.desk .signals).Runs (session.deskEntries .signals (.registerSignals capacity))
      ((session.step (.registerSignals capacity)).desk .signals) :=
  .one (.enroll capacity (Feed.consumer_attach feedOpen _) rfl rfl)

theorem runs_of_reregisterSignals (feedOpen : session.state.signals.closed = false)
    (receiver : Nat) :
    (session.desk .signals).Runs (session.deskEntries .signals (.reregisterSignals receiver))
      ((session.step (.reregisterSignals receiver)).desk .signals) := by
  show Desk.Runs _ (if _ then [.registered receiver] else [])
    ((session.reregisterSignals receiver).desk .signals)
  unfold reregisterSignals
  by_cases known : receiver < session.signalReceivers.length
  · rw [if_pos known, if_pos known]
    exact .one (.register known (Feed.consumer_attach feedOpen _) rfl rfl)
  · rw [if_neg known, if_neg known]
    exact .nil _

theorem runs_of_takeWindow (session : Session) (receiver : Nat) :
    (session.desk .windows).Runs (session.deskEntries .windows (.takeWindow receiver))
      ((session.step (.takeWindow receiver)).desk .windows) := by
  show Desk.Runs _ ((session.takeWindow? receiver).map fun taken => .took receiver taken.1).toList
    ((((session.takeWindow? receiver).map Prod.snd).getD session).desk .windows)
  unfold takeWindow?
  cases found : session.windowReceivers[receiver]? with
  | none => exact .nil _
  | some holder =>
      cases taken : holder.take? with
      | none =>
          simp only [Option.bind_eq_bind, Option.bind_some, taken, Option.bind_none]
          exact .nil _
      | some pair =>
          simp only [Option.bind_eq_bind, Option.bind_some, taken]
          exact .one (.took receiver holder pair.2 pair.1 found taken)

theorem runs_of_takeSignal (session : Session) (receiver : Nat) :
    (session.desk .signals).Runs (session.deskEntries .signals (.takeSignal receiver))
      ((session.step (.takeSignal receiver)).desk .signals) := by
  show Desk.Runs _ ((session.takeSignal? receiver).map fun taken => .took receiver taken.1).toList
    ((((session.takeSignal? receiver).map Prod.snd).getD session).desk .signals)
  unfold takeSignal?
  cases found : session.signalReceivers[receiver]? with
  | none => exact .nil _
  | some holder =>
      cases taken : holder.take? with
      | none =>
          simp only [Option.bind_eq_bind, Option.bind_some, taken, Option.bind_none]
          exact .nil _
      | some pair =>
          simp only [Option.bind_eq_bind, Option.bind_some, taken]
          exact .one (.took receiver holder pair.2 pair.1 found taken)

/-! An exit leaves the desks alone, and so does the end of the handler. -/

theorem desk_exit (session : Session) (status : UInt32) :
    (session.exit status).1.desk stage = session.desk stage := by
  unfold exit
  split
  · rfl
  · exact desk_of_frame rfl rfl rfl rfl rfl

theorem desk_endHandler (session : Session) (ending : HandlerEnd) :
    (session.endHandler ending).desk stage = session.desk stage := by
  unfold endHandler
  split
  · exact (desk_of_frame rfl rfl rfl rfl rfl).trans (session.desk_exit ending.status)
  · rfl

theorem desk_loseHandler (session : Session) :
    session.loseHandler.desk stage = session.desk stage := by
  unfold loseHandler
  split
  · exact desk_of_frame rfl rfl rfl rfl rfl
  · rfl

/-- What an operation other than a step of the loop does at a desk. -/
theorem runs_of_outside (other : act ≠ .advance)
    (goesOn : (session.step act).phase.leftOff = false)
    (feedOpen : (session.feed stage).closed = false) :
    (session.desk stage).Runs (session.deskEntries stage act) ((session.step act).desk stage) := by
  cases act with
  | advance => exact absurd rfl other
  | takeTerminal =>
      cases stage with
      | windows => exact runs_of_takeTerminal feedOpen
      | signals =>
          apply runs_of_silent rfl
          show session.takeTerminal.1.desk .signals = _
          unfold takeTerminal
          split
          · rfl
          · split
            · rfl
            · rfl
  | registerSignals capacity =>
      cases stage with
      | windows => exact .nil _
      | signals => exact runs_of_registerSignals feedOpen capacity
  | reregisterSignals receiver =>
      cases stage with
      | windows =>
          apply runs_of_silent rfl
          show (session.reregisterSignals receiver).desk .windows = _
          unfold reregisterSignals
          split
          · rfl
          · rfl
      | signals => exact runs_of_reregisterSignals feedOpen receiver
  | takeWindow receiver =>
      cases stage with
      | windows => exact runs_of_takeWindow session receiver
      | signals =>
          obtain ⟨_, same⟩ := session.takeWindow_cases receiver
          rw [same]
          exact .nil _
  | takeSignal receiver =>
      cases stage with
      | windows =>
          obtain ⟨_, same⟩ := session.takeSignal_cases receiver
          rw [same]
          exact .nil _
      | signals => exact runs_of_takeSignal session receiver
  | dropWindows receiver =>
      cases stage with
      | windows => exact .one (.dropped receiver)
      | signals => exact .nil _
  | dropSignals receiver =>
      cases stage with
      | windows => exact .nil _
      | signals => exact .one (.dropped receiver)
  | exit status => exact runs_of_silent (by cases stage <;> rfl) (session.desk_exit status)
  | endHandler ending =>
      exact runs_of_silent (by cases stage <;> rfl) (session.desk_endHandler ending)
  | loseHandler => exact runs_of_silent (by cases stage <;> rfl) session.desk_loseHandler
  | cancel => exact absurd (session.leftOff_cancel.symm.trans goesOn) Bool.true_eq_false.mp
  | write | shutdown | close | output | input | requests =>
      cases stage with
      | windows => exact .nil _
      | signals => exact .nil _

end Outside

/-! ### Runs -/

section Runs

theorem outcomeOf_cases (session : Session) (stage : FlushStage) (event : Handover) :
    session.outcomeOf stage event = [] ∨ session.outcomeOf stage event = [.handed] ∨
      session.outcomeOf stage event = [.lost] := by
  unfold outcomeOf
  split
  · cases session.deliver event with
    | delivered after => exact .inr (.inl rfl)
    | lost after => exact .inr (.inr rfl)
    | full => exact .inl rfl
  · exact .inl rfl

/-- A step of the loop takes up what it takes out of the feed, and there may be an outcome. -/
theorem loopEntries_cases (session : Session) (stage : FlushStage) :
    ∃ outcome, (outcome = [] ∨ outcome = [.handed] ∨ outcome = [.lost]) ∧
      session.loopEntries stage =
        ((session.handedBy .advance).filterMap fun event => event.inStage? stage).map
          (fun taken => .takenUp taken.1 taken.2) ++ outcome := by
  unfold loopEntries handedBy
  cases session.phase with
  | flushing current request =>
      dsimp only
      cases session.nextEvent? current with
      | none => exact ⟨[], .inl rfl, rfl⟩
      | some taken =>
          obtain ⟨event, middle⟩ := taken
          refine ⟨middle.outcomeOf stage event, middle.outcomeOf_cases stage event, ?_⟩
          cases own : event.inStage? stage with
          | none => simp [own]
          | some content => simp [own]
  | handing event request =>
      dsimp only
      split
      · exact ⟨[], .inl rfl, rfl⟩
      · exact ⟨session.outcomeOf stage event, session.outcomeOf_cases stage event, rfl⟩
  | parked | draining | finished | cancelled => exact ⟨[], .inl rfl, rfl⟩

theorem takenUp_loopEntries (session : Session) (stage : FlushStage) :
    (session.loopEntries stage).filterMap DeskEntry.takenUp? =
      (session.handedBy .advance).filterMap fun event => (event.inStage? stage).map Prod.snd := by
  obtain ⟨outcome, cases, entries⟩ := session.loopEntries_cases stage
  have nothing : outcome.filterMap DeskEntry.takenUp? = [] := by
    rcases cases with rfl | rfl | rfl
    · rfl
    · rfl
    · rfl
  rw [entries, List.filterMap_append, nothing, List.append_nil, List.filterMap_map,
    ← List.map_filterMap, ← List.filterMap_eq_map]
  rfl

/-- The loop registers nobody. -/
theorem registered_loopEntries (session : Session) (stage : FlushStage) :
    (session.loopEntries stage).filterMap DeskEntry.registered? = [] := by
  obtain ⟨outcome, cases, entries⟩ := session.loopEntries_cases stage
  have nothing : outcome.filterMap DeskEntry.registered? = [] := by
    rcases cases with rfl | rfl | rfl
    · rfl
    · rfl
    · rfl
  rw [entries, List.filterMap_append, nothing, List.append_nil, List.filterMap_map,
    List.filterMap_eq_nil_iff]
  exact fun _ _ => rfl

/-- What is taken up at a desk is what the loop takes out of the feed. -/
theorem takenUp_deskEntries (stage : FlushStage) (session : Session) (act : SessionAct) :
    (session.deskEntries stage act).filterMap DeskEntry.takenUp? =
      (session.handedBy act).filterMap fun event => (event.inStage? stage).map Prod.snd := by
  cases act with
  | advance =>
      rw [deskEntries_advance]
      exact session.takenUp_loopEntries stage
  | takeTerminal =>
      cases stage with
      | windows =>
          rw [deskEntries]
          cases session.takeTerminal.2.2 with
          | none => rfl
          | some receiver => rfl
      | signals => rfl
  | reregisterSignals receiver =>
      cases stage with
      | windows => rfl
      | signals =>
          rw [deskEntries]
          split
          · rfl
          · rfl
  | takeWindow receiver =>
      cases stage with
      | windows =>
          rw [deskEntries]
          cases session.takeWindow? receiver with
          | none => rfl
          | some taken => rfl
      | signals => rfl
  | takeSignal receiver =>
      cases stage with
      | windows => rfl
      | signals =>
          rw [deskEntries]
          cases session.takeSignal? receiver with
          | none => rfl
          | some taken => rfl
  | _ => cases stage <;> rfl

theorem takenUp_deskEntriesIn (session : Session) (stage : FlushStage) (acts : List SessionAct) :
    (session.deskEntriesIn stage acts).filterMap DeskEntry.takenUp? =
      (session.seenIn acts).handed.filterMap fun event => (event.inStage? stage).map Prod.snd :=
  observed_filterMap step _ _ (takenUp_deskEntries stage) session acts

theorem FeedsOpen.feed {session : Session} (feeds : session.FeedsOpen) (stage : FlushStage) :
    (session.feed stage).closed = false := by
  cases stage with
  | windows => exact feeds.1
  | signals => exact feeds.2

theorem deskEntriesIn_snoc (session : Session) (stage : FlushStage) (acts : List SessionAct)
    (act : SessionAct) :
    session.deskEntriesIn stage (acts ++ [act]) =
      session.deskEntriesIn stage acts ++ (session.run acts).deskEntries stage act :=
  observed_snoc step _ session acts act

section FromOffer

variable (context : Context) (subsystems : List String) (offer : ChannelOffer) (awaited : Bool)
variable (stage : FlushStage) {acts : List SessionAct}

/-- As long as the loop of a session goes on, a step is what is seen at its desks. -/
theorem runs_of_step {act : SessionAct} {entries : List (DeskEntry stage.Event)}
    (kept : (((onOffer context subsystems offer awaited).run acts).desk stage).Kept entries)
    (goesOn : (((onOffer context subsystems offer awaited).run acts).step act).phase.leftOff =
      false) :
    let session := (onOffer context subsystems offer awaited).run acts
    (session.desk stage).Runs (session.deskEntries stage act) ((session.step act).desk stage) := by
  intro session
  by_cases isAdvance : act = .advance
  · rw [isAdvance] at goesOn ⊢
    exact runs_of_advance goesOn (fun _ => kept.inOrder.consumer_known)
      fun _ _ => kept.inOrder.inHand_known
  · have feeds := (agrees_run context subsystems offer awaited acts).feeds (goesOn_of_step goesOn)
    exact runs_of_outside isAdvance goesOn (feeds.feed stage)

/-- As long as the loop of a session goes on, its books are right about its desks. -/
theorem kept_of_goesOn (acts : List SessionAct)
    (goesOn : ((onOffer context subsystems offer awaited).run acts).phase.leftOff = false) :
    (((onOffer context subsystems offer awaited).run acts).desk stage).Kept
      ((onOffer context subsystems offer awaited).deskEntriesIn stage acts) := by
  induction acts using List.reverseRecOn with
  | nil =>
      cases stage with
      | windows => exact .initial
      | signals => exact .initial
  | append_singleton acts act inductionHypothesis =>
      rw [run_snoc] at goesOn ⊢
      rw [deskEntriesIn_snoc]
      have kept := inductionHypothesis (goesOn_of_step goesOn)
      exact kept.run (runs_of_step context subsystems offer awaited stage kept goesOn)

/-- As long as a session stays open, its books are right about its desks. -/
theorem kept_run (acts : List SessionAct)
    (isOpen : ((onOffer context subsystems offer awaited).run acts).closed = false) :
    (((onOffer context subsystems offer awaited).run acts).desk stage).Kept
      ((onOffer context subsystems offer awaited).deskEntriesIn stage acts) :=
  kept_of_goesOn context subsystems offer awaited stage acts (goesOn_of_open rfl isOpen)

/-- What happens at a desk from some moment on, as long as the loop goes on. -/
theorem desk_runs (earlier later : List SessionAct)
    (goesOn : ((onOffer context subsystems offer awaited).run (earlier ++ later)).phase.leftOff =
      false) :
    let before := (onOffer context subsystems offer awaited).run earlier
    (before.desk stage).Runs (before.deskEntriesIn stage later)
      ((before.run later).desk stage) := by
  intro before
  induction later using List.reverseRecOn with
  | nil => exact .nil _
  | append_singleton later act inductionHypothesis =>
      rw [← List.append_assoc, run_snoc] at goesOn
      have wentOn := goesOn_of_step goesOn
      have kept := kept_of_goesOn context subsystems offer awaited stage _ wentOn
      have last := runs_of_step context subsystems offer awaited stage kept goesOn
      have whole : (onOffer context subsystems offer awaited).run (earlier ++ later) =
          before.run later := runFrom_append step _ earlier later
      rw [deskEntriesIn_snoc, run_snoc]
      rw [whole] at last
      exact (inductionHypothesis wentOn).trans last

end FromOffer

end Runs

end Session

end SshServer
