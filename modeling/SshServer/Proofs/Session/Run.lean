import SshServer.Proofs.Run
import SshServer.Proofs.Output.Run
import SshServer.Session.RequestLoop

/-!
Contract: everything that can happen to a session, in any order.

Owns: the operations of the holders of a session, of its peer, of its request loop and of its
handler; runs of them; and what a step of the loop can do.
Does not own: what can be done with an output (`Proofs.Output.Run`).

Any number of holders share a session, and an operation of any of them may come between any two
steps of the loop. An exit and a close are one step each, and so is every attempt of an operation
that waits.
-/

namespace SshServer

inductive InletAct where
  | offer (sender : Nat) (chunk : ByteArray)
  | retry (sender : Nat)
  | withdraw (sender : Nat)
  | addSender
  | dropSender
  | detach
  | receive (reader : Nat)
  | read (reader count : Nat)

def Inlet.step (inlet : Inlet) : InletAct → Inlet
  | .offer sender chunk => (inlet.offer sender chunk).1
  | .retry sender => (inlet.retry sender).1
  | .withdraw sender => inlet.withdraw sender
  | .addSender => inlet.addSender
  | .dropSender => inlet.dropSender
  | .detach => inlet.detach
  | .receive reader => (inlet.receive reader).1
  | .read reader count => (inlet.read reader count).1

inductive RequestAct where
  /-- Makes a request of any type with any payload, and begins to send it. -/
  | send (sender : Nat) (kind : String) (payload : ByteArray) (wantReply : Bool)
  | retry (sender : Nat)
  | withdraw (sender : Nat)
  /-- Collects an answer, if it has been given. -/
  | collect (number : Nat)
  | addSender
  | dropSender

def RequestStream.step (stream : RequestStream) : RequestAct → RequestStream
  | .send sender kind payload wantReply =>
    let (stream, request) := stream.issue kind payload wantReply
    (stream.offer sender request).1
  | .retry sender => (stream.retry sender).1
  | .withdraw sender => { stream with box := stream.box.withdraw sender }
  | .collect number =>
    match stream.collect? number with
    | none => stream
    | some (_, stream) => stream
  | .addSender => stream.addSender
  | .dropSender => stream.dropSender

inductive SessionAct where
  | takeTerminal
  | registerSignals (capacity : Nat)
  /-- A receiver that was made before is registered, be it dropped or not. -/
  | reregisterSignals (receiver : Nat)
  | takeWindow (receiver : Nat)
  | takeSignal (receiver : Nat)
  | dropWindows (receiver : Nat)
  | dropSignals (receiver : Nat)
  /-- A write that does not wait, to one of the streams. -/
  | write (code : Option UInt32) (content : ByteArray)
  | shutdown
  | exit (status : UInt32)
  | close
  /-- An operation of a writer or of the transport on the output. -/
  | output (act : StreamAct)
  | input (act : InletAct)
  | requests (act : RequestAct)
  /-- The request loop makes a step, if it can. -/
  | advance
  | endHandler (ending : Session.HandlerEnd)
  | loseHandler
  | cancel

namespace Feed

variable {α : Type}

theorem next?_eq_some {feed after : Feed α} {consumer : Nat} {event : α}
    (next : feed.next? = some ((consumer, event), after)) :
    ∃ rest, feed.pending = event :: rest ∧ after = { feed with pending := rest } := by
  unfold next? at next
  split at next
  next first rest _ pending =>
    obtain ⟨same, rfl⟩ := Prod.mk.inj (Option.some.inj next)
    obtain ⟨rfl, rfl⟩ := Prod.mk.inj same
    exact ⟨rest, pending, rfl⟩
  · exact absurd next (Option.some_ne_none _).symm

@[simp] theorem pending_detach (feed : Feed α) (consumer : Nat) :
    (feed.detach consumer).pending = feed.pending := by
  unfold detach
  split <;> rfl

@[simp] theorem closed_detach (feed : Feed α) (consumer : Nat) :
    (feed.detach consumer).closed = feed.closed := by
  unfold detach
  split <;> rfl

@[simp] theorem pending_attach (feed : Feed α) (consumer : Nat) :
    (feed.attach consumer).pending = feed.pending := by
  unfold attach
  split <;> rfl

@[simp] theorem closed_attach (feed : Feed α) (consumer : Nat) :
    (feed.attach consumer).closed = feed.closed := by
  unfold attach
  split <;> rfl

end Feed

namespace SessionState

/-- Two states agree on everything but the events, who gets them, and the exit. -/
def SameFacts (before after : SessionState) : Prop :=
  ∃ windows windowsClaimed signals exited,
    after = { before with windows, windowsClaimed, signals, exited }

/-- Two states have the same events in feeds that are closed alike. -/
def SameEvents (before after : SessionState) : Prop :=
  (after.windows.pending = before.windows.pending ∧
      after.windows.closed = before.windows.closed) ∧
    after.signals.pending = before.signals.pending ∧ after.signals.closed = before.signals.closed

theorem SameFacts.refl (state : SessionState) : state.SameFacts state :=
  ⟨_, _, _, _, rfl⟩

theorem SameEvents.refl (state : SessionState) : state.SameEvents state :=
  ⟨⟨rfl, rfl⟩, rfl, rfl⟩

end SessionState

namespace Session

def step (session : Session) : SessionAct → Session
  | .takeTerminal => session.takeTerminal.1
  | .registerSignals capacity => (session.registerSignals capacity).1
  | .reregisterSignals receiver => session.reregisterSignals receiver
  | .takeWindow receiver => ((session.takeWindow? receiver).map Prod.snd).getD session
  | .takeSignal receiver => ((session.takeSignal? receiver).map Prod.snd).getD session
  | .dropWindows receiver => session.dropWindows receiver
  | .dropSignals receiver => session.dropSignals receiver
  | .write code content => (session.write code content).1
  | .shutdown => session.shutdown.1
  | .exit status => (session.exit status).1
  | .close => session.close.1
  | .output act => (session.onOutput fun output => output.performStream act).1
  | .input act => (session.onInput fun input => (input.step act, ())).1
  | .requests act =>
    { session with
        channel := { session.channel with requests := session.channel.requests.step act } }
  | .advance => session.advanceLoop?.getD session
  | .endHandler ending => session.endHandler ending
  | .loseHandler => session.loseHandler
  | .cancel => session.cancel

def run (session : Session) (acts : List SessionAct) : Session :=
  runFrom step session acts

theorem run_snoc (session : Session) (acts : List SessionAct) (act : SessionAct) :
    session.run (acts ++ [act]) = (session.run acts).step act :=
  runFrom_snoc step session acts act

/-- A session on a channel that was just accepted; `awaited` says whether the transport still waited
for the decision. -/
def onOffer (context : Context) (subsystems : List String) (offer : ChannelOffer) (awaited : Bool) :
    Session :=
  { context, subsystems, channel := .ofOffer offer awaited }

/-! ### The steps of the loop -/

/-- What a step of the loop can do. -/
inductive LoopStep (before : Session) : Session → Prop where
  /-- A consumer was attached, and what waits is handed over to it. -/
  | noticed (phase : before.phase = .parked) (isOpen : before.closed = false)
      (notice : before.notice = true) :
      LoopStep before { before with notice := false, phase := .flushing .windows none }
  | dispatched (request : Request) (requests : RequestStream) (phase : before.phase = .parked)
      (isOpen : before.closed = false) (notice : before.notice = false)
      (taken : before.channel.requests.take? = some (request, requests)) :
      LoopStep before
        ({ before with channel := { before.channel with requests } }.dispatch request)
  /-- No event is left to hand over. -/
  | finished {stage : FlushStage} (request : Option (Request × Bool))
      (phase : before.phase = .flushing stage request) (nothing : before.nextEvent? stage = none) :
      LoopStep before (before.finishRequest request)
  /-- An event is handed over, or lost with its receiver. -/
  | handed (event : Handover) (request : Option (Request × Bool)) (middle after : Session)
      (source : (∃ stage, before.phase = .flushing stage request ∧
          before.nextEvent? stage = some (event, middle)) ∨
        before.phase = .handing event request ∧ before.closed = false ∧ middle = before)
      (delivery : middle.deliver event = .delivered after ∨ middle.deliver event = .lost after) :
      LoopStep before { after with phase := .flushing event.stage request }
  /-- An event has to wait for its consumer. -/
  | waits {stage : FlushStage} (event : Handover) (request : Option (Request × Bool))
      (middle : Session) (phase : before.phase = .flushing stage request)
      (next : before.nextEvent? stage = some (event, middle))
      (full : middle.deliver event = .full) :
      LoopStep before { middle with phase := .handing event request }
  | stopped (cause : before.closed = true ∨ before.channel.requests.box.ended = true) :
      LoopStep before (before.endLoop .draining)
  | drained (phase : before.phase = .draining)
      (handler : ∀ program, before.handler ≠ .running program) :
      LoopStep before { before.release with phase := .finished }

theorem loopStep_of_advance {session after : Session}
    (advanced : session.advanceLoop? = some after) : LoopStep session after := by
  unfold advanceLoop? at advanced
  split at advanced
  next parked =>
    split at advanced
    next isClosed =>
      obtain rfl := Option.some.inj advanced
      exact .stopped (.inl isClosed)
    next isOpen =>
      rw [Bool.not_eq_true] at isOpen
      split at advanced
      next notice =>
        obtain rfl := Option.some.inj advanced
        exact .noticed parked isOpen notice
      next quiet =>
        rw [Bool.not_eq_true] at quiet
        split at advanced
        next request requests taken =>
          obtain rfl := Option.some.inj advanced
          exact .dispatched request requests parked isOpen quiet taken
        · split at advanced
          next ended =>
            obtain rfl := Option.some.inj advanced
            exact .stopped (.inr ended)
          · exact absurd advanced (Option.some_ne_none _).symm
  next stage request flushing =>
    split at advanced
    next nothing =>
      obtain rfl := Option.some.inj advanced
      exact .finished request flushing nothing
    next event middle next =>
      split at advanced
      next delivered =>
        obtain rfl := Option.some.inj advanced
        exact .handed event request middle _ (.inl ⟨stage, flushing, next⟩) (.inl delivered)
      next lost =>
        obtain rfl := Option.some.inj advanced
        exact .handed event request middle _ (.inl ⟨stage, flushing, next⟩) (.inr lost)
      next full =>
        obtain rfl := Option.some.inj advanced
        exact .waits event request middle flushing next full
  next event request handing =>
    split at advanced
    next isClosed =>
      obtain rfl := Option.some.inj advanced
      exact .stopped (.inl isClosed)
    next isOpen =>
      rw [Bool.not_eq_true] at isOpen
      split at advanced
      next delivered =>
        obtain rfl := Option.some.inj advanced
        exact .handed event request session _ (.inr ⟨handing, isOpen, rfl⟩) (.inl delivered)
      next lost =>
        obtain rfl := Option.some.inj advanced
        exact .handed event request session _ (.inr ⟨handing, isOpen, rfl⟩) (.inr lost)
      · exact absurd advanced (Option.some_ne_none _).symm
  next draining =>
    split at advanced
    · exact absurd advanced (Option.some_ne_none _).symm
    next notRunning =>
      obtain rfl := Option.some.inj advanced
      exact .drained draining notRunning
  · exact absurd advanced (Option.some_ne_none _).symm
  · exact absurd advanced (Option.some_ne_none _).symm

/-- The loop has to wait, or it makes a step. -/
theorem advance_cases (session : Session) :
    session.step .advance = session ∨ LoopStep session (session.step .advance) := by
  show session.advanceLoop?.getD session = session ∨
    LoopStep session (session.advanceLoop?.getD session)
  cases advanced : session.advanceLoop? with
  | none => exact .inl rfl
  | some after => exact .inr (loopStep_of_advance advanced)

theorem step_of_advance {session after : Session} (advanced : session.advanceLoop? = some after) :
    session.step .advance = after := by
  show session.advanceLoop?.getD session = after
  rw [advanced, Option.getD_some]

theorem step_of_waits {session : Session} (waits : session.advanceLoop? = none) :
    session.step .advance = session := by
  show session.advanceLoop?.getD session = session
  rw [waits, Option.getD_none]

/-- The event that is taken up next is the first of its feed, and the other feed stays. -/
theorem nextEvent_cases {session middle : Session} {stage : FlushStage} {event : Handover}
    (next : session.nextEvent? stage = some (event, middle)) :
    (∃ consumer size rest, event = .window consumer size ∧
      session.state.windows.pending = size :: rest ∧
      middle = { session with
        state := { session.state with
          windows := { session.state.windows with pending := rest } } }) ∨
    ∃ consumer signal rest, event = .signal consumer signal ∧
      session.state.signals.pending = signal :: rest ∧
      middle = { session with
        state := { session.state with
          signals := { session.state.signals with pending := rest } } } := by
  unfold nextEvent? at next
  split at next
  next consumer size windows found =>
    obtain ⟨rfl, rfl⟩ := Prod.mk.inj (Option.some.inj next)
    obtain ⟨rest, pending, rfl⟩ := Feed.next?_eq_some found
    exact .inl ⟨consumer, size, rest, rfl, pending, rfl⟩
  · split at next
    next consumer signal signals found =>
      obtain ⟨rfl, rfl⟩ := Prod.mk.inj (Option.some.inj next)
      obtain ⟨rest, pending, rfl⟩ := Feed.next?_eq_some found
      exact .inr ⟨consumer, signal, rest, rfl, pending, rfl⟩
    · exact absurd next (Option.some_ne_none _).symm

/-- Taking up an event reaches nothing but the feeds. -/
theorem nextEvent_frame {session middle : Session} {stage : FlushStage} {event : Handover}
    (next : session.nextEvent? stage = some (event, middle)) :
    ∃ windows signals,
      middle = { session with state := { session.state with windows, signals } } := by
  rcases nextEvent_cases next with ⟨_, _, _, -, -, rfl⟩ | ⟨_, _, _, -, -, rfl⟩
  · exact ⟨_, _, rfl⟩
  · exact ⟨_, _, rfl⟩

/-- Handing over an event reaches nothing but the receivers and who the consumers are. -/
theorem deliver_cases {session after : Session} {event : Handover}
    (delivery : session.deliver event = .delivered after ∨ session.deliver event = .lost after) :
    ∃ windows signals windowReceivers signalReceivers,
      after = { session with
        state := { session.state with windows, signals }
        windowReceivers, signalReceivers } ∧
      session.state.SameEvents after.state := by
  -- Both kinds of events are handed over alike.
  cases event
  all_goals
    simp only [deliver] at delivery
    split at delivery
    · simp only [reduceCtorEq, false_or, Delivery.lost.injEq] at delivery
      subst delivery
      exact ⟨_, _, _, _, rfl, ⟨rfl, rfl⟩, rfl, rfl⟩
    · split at delivery
      · simp only [reduceCtorEq, false_or, Delivery.lost.injEq] at delivery
        subst delivery
        exact ⟨_, _, _, _, rfl, ⟨by simp, by simp⟩, by simp, by simp⟩
      · split at delivery
        · simp only [reduceCtorEq, or_false, Delivery.delivered.injEq] at delivery
          subst delivery
          exact ⟨_, _, _, _, rfl, ⟨rfl, rfl⟩, rfl, rfl⟩
        · simp only [reduceCtorEq, or_false] at delivery

/-- A request that the loop holds is answered, and the loop waits. -/
theorem finishRequest_cases (session : Session) (request : Option (Request × Bool)) :
    ∃ requests, session.finishRequest request =
      { session with phase := .parked, channel := { session.channel with requests } } := by
  cases request with
  | none => exact ⟨_, rfl⟩
  | some held => exact ⟨_, rfl⟩

theorem endLoop_cases (session : Session) (phase : LoopPhase) :
    ∃ requests, session.endLoop phase =
      { session with
        phase
        closed := true
        channel := { session.channel with requests }
        state := { session.state with
          windows := session.state.windows.close
          signals := session.state.signals.close } } := by
  unfold endLoop terminate dropRequest
  cases session.heldRequest with
  | none => exact ⟨_, rfl⟩
  | some held => exact ⟨_, rfl⟩

/-- A request that is taken up is answered at once, or the answer is held while events are
handed over. -/
theorem dispatch_cases (session : Session) (request : Request) :
    let judged := session.state.judge session.subsystems request.kind request.payload.toList
    ∃ phase requests log,
      session.dispatch request =
        { session with
          state := judged.1
          handler := (judged.2.start.map HandlerPhase.running).getD session.handler
          phase, log
          channel := { session.channel with requests } } ∧
      (phase = .flushing .windows (some (request, judged.2.answer)) ∧
          requests = session.channel.requests ∨
        phase = .parked ∧
          requests = session.channel.requests.answer request judged.2.answer) := by
  unfold dispatch
  obtain ⟨state, verdict⟩ :=
    session.state.judge session.subsystems request.kind request.payload.toList
  dsimp only
  split
  · cases verdict.start with
    | none => exact ⟨_, _, _, rfl, .inl ⟨rfl, rfl⟩⟩
    | some program => exact ⟨_, _, _, rfl, .inl ⟨rfl, rfl⟩⟩
  · cases verdict.start with
    | none => exact ⟨_, _, _, rfl, .inr ⟨rfl, rfl⟩⟩
    | some program => exact ⟨_, _, _, rfl, .inr ⟨rfl, rfl⟩⟩

theorem takeWindow_cases (session : Session) (receiver : Nat) :
    ∃ windowReceivers, session.step (.takeWindow receiver) = { session with windowReceivers } := by
  show ∃ windowReceivers, ((session.takeWindow? receiver).map Prod.snd).getD session =
    { session with windowReceivers }
  unfold takeWindow?
  cases session.windowReceivers[receiver]? with
  | none => exact ⟨_, rfl⟩
  | some found =>
      cases taken : found.take? with
      | none => exact ⟨session.windowReceivers, by simp [taken]⟩
      | some pair => exact ⟨session.windowReceivers.set receiver pair.2, by simp [taken]⟩

theorem takeSignal_cases (session : Session) (receiver : Nat) :
    ∃ signalReceivers, session.step (.takeSignal receiver) = { session with signalReceivers } := by
  show ∃ signalReceivers, ((session.takeSignal? receiver).map Prod.snd).getD session =
    { session with signalReceivers }
  unfold takeSignal?
  cases session.signalReceivers[receiver]? with
  | none => exact ⟨_, rfl⟩
  | some found =>
      cases taken : found.take? with
      | none => exact ⟨session.signalReceivers, by simp [taken]⟩
      | some pair => exact ⟨session.signalReceivers.set receiver pair.2, by simp [taken]⟩

end Session

end SshServer
