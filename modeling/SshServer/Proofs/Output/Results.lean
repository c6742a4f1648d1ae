import SshServer.Proofs.Input.Stream
import SshServer.Proofs.Output.Rest

/-!
Contract: what the writers of a channel are told, and what decides it.

Owns: that the state of an output decides every result, whatever is written; that failures leave the
output as it was; that no writer is told of a close before there is one; and what is left of a
channel that nobody awaited.
Does not own: how sends end that have to wait (`Proofs.Output.Rest`), and the polls of a writer
(`Channel.Outbox`).

Of two causes an operation is told the close before the absence of the transport.
-/

namespace SshServer

theorem Message.cost_ofStream (code : Option UInt32) (content : ByteArray) :
    (Message.ofStream code content).cost = min content.size outputWindow := by
  cases code with
  | none => rfl
  | some code => rfl

namespace Outbox

/-! ### Refusals and successes -/

section Results

variable {box : Outbox} {cause : Failure}

/-- Every operation of a writer fails for that cause, and leaves the output as it is but for the
first close. -/
structure RefusesFor (box : Outbox) (cause : Failure) : Prop where
  send : ∀ code content, box.send (.ofStream code content) = (box, .done (.error cause))
  trySend : ∀ code content, box.trySend (.ofStream code content) = (box, .error cause)
  eof : box.eof = (box, .error cause)
  exitStatus : ∀ status, box.exitStatus status = (box, .error cause)
  close : box.close = ({ box with closed := true }, .error cause)

theorem Sound.refusesFor (sound : box.Sound) (refused : box.refusal? = some cause) :
    box.RefusesFor cause := by
  have pushes := push_of_refused refused
  rcases refusal?_cases refused with ⟨isClosed, rfl⟩ | ⟨isOpen, isLeft, rfl⟩
  · have same : ({ box with closed := true } : Outbox) = box := by rw [← isClosed]
    exact {
      send := fun code content => send_of_closed isClosed _
      trySend := fun code content => trySend_of_closed isClosed _
      eof := pushes .eof 0
      exitStatus := fun status => pushes (.exitStatus status) 0
      close := by rw [same, close_of_closed isClosed] }
  · have ended : box.credit.closed = true := sound.supply isLeft
    have stillOpen : ¬box.closed = true := Bool.eq_false_iff.1 isOpen
    have noCredit (message : Message) :
        box.credit.acquire box.nextTicket message.cost = (box.credit, .closed) := if_pos ended
    have noCreditAtOnce (message : Message) :
        box.credit.tryAcquire message.cost = (box.credit, .closed) := if_pos ended
    exact {
      send := fun code content => by rw [Outbox.send, if_neg stillOpen, noCredit]
      trySend := fun code content => by rw [Outbox.trySend, if_neg stillOpen, noCreditAtOnce]
      eof := pushes .eof 0
      exitStatus := fun status => pushes (.exitStatus status) 0
      close := by rw [Outbox.close, if_neg stillOpen, isLeft]; rfl }

/-- Every operation of a writer succeeds, unless there is no room for what it writes: then it waits,
or fails at once and leaves the output as it is. -/
structure Accepts (box : Outbox) : Prop where
  send : ∀ code content, (box.send (.ofStream code content)).2 = .done (.ok ()) ∨
    (box.send (.ofStream code content)).2 = .waiting box.nextTicket
  trySend : ∀ code content, min content.size outputWindow ≤ box.credit.free →
    (box.trySend (.ofStream code content)).2 = .ok ()
  full : ∀ code content, box.credit.free < min content.size outputWindow →
    box.trySend (.ofStream code content) = (box, .error .wouldBlock)
  eof : box.eof.2 = .ok ()
  exitStatus : ∀ status, (box.exitStatus status).2 = .ok ()
  close : box.close.2 = .ok ()

/-- What is queued with credit that was taken is queued. -/
theorem push_of_credit (accepted : box.refusal? = none) (credit : Credit) (message : Message)
    (amount : Nat) : (({ box with credit } : Outbox).push message amount).2 = .ok () := by
  have stillAccepted : ({ box with credit } : Outbox).refusal? = none := accepted
  exact congrArg Prod.snd (push_of_accepted stillAccepted message amount)

theorem Sound.send_of_accepted (sound : box.Sound) (accepted : box.refusal? = none)
    (message : Message) :
    (box.send message).2 = .done (.ok ()) ∨ (box.send message).2 = .waiting box.nextTicket := by
  obtain ⟨isOpen, isAttached⟩ := refusal?_eq_none_iff.1 accepted
  have supplied := sound.supplied
  rw [isAttached] at supplied
  unfold send
  rw [if_neg (Bool.eq_false_iff.1 isOpen)]
  split
  next asked =>
    rw [(Credit.acquire_closed asked).1] at supplied
    exact Bool.noConfusion supplied
  next credit _ => exact .inl (congrArg Sending.done (push_of_credit accepted credit _ _))
  · exact .inr rfl

theorem Sound.accepts (sound : box.Sound) (accepted : box.refusal? = none) : box.Accepts := by
  obtain ⟨isOpen, isAttached⟩ := refusal?_eq_none_iff.1 accepted
  have stillOpen : ¬box.closed = true := Bool.eq_false_iff.1 isOpen
  have supplied : ¬box.credit.closed = true := by
    rw [sound.supplied, isAttached]
    exact Bool.false_ne_true
  exact {
    send := fun code content => sound.send_of_accepted accepted _
    trySend := by
      intro code content enough
      rw [← Message.cost_ofStream code content] at enough
      have taken : box.credit.tryAcquire (Message.ofStream code content).cost =
          ({ box.credit with
              free := box.credit.free - (Message.ofStream code content).cost }, .granted) := by
        rw [Credit.tryAcquire, if_neg supplied, if_pos enough]
      rw [Outbox.trySend, if_neg stillOpen, taken]
      exact push_of_credit accepted _ _ _
    full := by
      intro code content lacks
      rw [← Message.cost_ofStream code content] at lacks
      have nothing : box.credit.tryAcquire (Message.ofStream code content).cost =
          (box.credit, .waiting) := by
        rw [Credit.tryAcquire, if_neg supplied, if_neg (Nat.not_le.2 lacks)]
      rw [Outbox.trySend, if_neg stillOpen, nothing]
    eof := congrArg Prod.snd (push_of_accepted accepted .eof 0)
    exitStatus := fun status => congrArg Prod.snd (push_of_accepted accepted (.exitStatus status) 0)
    close := by rw [Outbox.close, if_neg stillOpen, if_pos isAttached] }

end Results

/-! ### Outputs that are open -/

section Open

variable {box : Outbox}

/-- No writer is told that the stream is closed. -/
structure NeverStreamClosed (box : Outbox) : Prop where
  send : ∀ message, (box.send message).2 ≠ .done (.error .streamClosed)
  resume : ∀ ticket, (box.resume ticket).2 ≠ .done (.error .streamClosed)
  trySend : ∀ message, (box.trySend message).2 ≠ .error .streamClosed
  poll : ∀ writer code content,
    (box.pollWrite writer code content).2 ≠ .ready (.error (Failure.toIo .streamClosed))
  eof : box.eof.2 ≠ .error .streamClosed
  exitStatus : ∀ status, (box.exitStatus status).2 ≠ .error .streamClosed
  close : box.close.2 ≠ .error .streamClosed

theorem push_of_open (isOpen : box.closed = false) (message : Message) (credit : Nat) :
    (box.push message credit).2 = .ok () ∨ (box.push message credit).2 = .error .peerHangup := by
  cases refusal : box.refusal? with
  | none => exact .inl (congrArg Prod.snd (push_of_accepted refusal message credit))
  | some cause =>
      rcases refusal?_cases refusal with ⟨isClosed, -⟩ | ⟨-, -, rfl⟩
      · exact absurd (isOpen.symm.trans isClosed) Bool.false_ne_true
      · exact .inr (congrArg Prod.snd (push_of_refused refusal message credit))

theorem push_ne_streamClosed (isOpen : box.closed = false) (message : Message) (credit : Nat) :
    (box.push message credit).2 ≠ .error .streamClosed := by
  rcases push_of_open isOpen message credit with queued | left
  · rw [queued]
    exact nofun
  · rw [left]
    exact nofun

theorem pollWrite_ne_streamClosed (isOpen : box.closed = false) (writer : Nat)
    (code : Option UInt32) (content : ByteArray) :
    (box.pollWrite writer code content).2 ≠ .ready (.error (Failure.toIo .streamClosed)) := by
  have different : Failure.toIo .peerHangup ≠ Failure.toIo .streamClosed := by decide
  have frame := box.pollCredit_frame writer (min content.size outputWindow)
  unfold pollWrite
  split
  · exact nofun
  · rw [if_neg (Bool.eq_false_iff.1 isOpen)]
    dsimp only
    split
    · exact nofun
    · exact fun told => different (Except.error.inj (Polling.ready.inj told))
    next after granted =>
      rw [granted] at frame
      have stillOpen : after.closed = false := frame.closed.trans isOpen
      rcases push_of_open stillOpen
        (.ofStream code (content.extract 0 (min content.size outputWindow)))
        (min content.size outputWindow) with queued | left
      · rw [queued]
        exact nofun
      · rw [left]
        exact fun told => different (Except.error.inj (Polling.ready.inj told))

theorem neverStreamClosed_of_open (isOpen : box.closed = false) : box.NeverStreamClosed where
  send := by
    intro message
    unfold Outbox.send
    rw [if_neg (Bool.eq_false_iff.1 isOpen)]
    split
    · exact nofun
    next credit _ =>
      have stillOpen : ({ box with credit } : Outbox).closed = false := isOpen
      exact fun told => push_ne_streamClosed stillOpen _ _ (Sending.done.inj told)
    · exact nofun
  resume := by
    intro ticket
    unfold Outbox.resume
    split
    · exact nofun
    · split
      · exact nofun
      · exact nofun
      next credit _ =>
        have stillOpen : ({ box.forgetSend ticket with credit } : Outbox).closed = false := isOpen
        exact fun told => push_ne_streamClosed stillOpen _ _ (Sending.done.inj told)
  trySend := by
    intro message
    unfold Outbox.trySend
    rw [if_neg (Bool.eq_false_iff.1 isOpen)]
    split
    · exact nofun
    · exact nofun
    next credit _ =>
      have stillOpen : ({ box with credit } : Outbox).closed = false := isOpen
      exact push_ne_streamClosed stillOpen _ _
  poll := pollWrite_ne_streamClosed isOpen
  eof := push_ne_streamClosed isOpen .eof 0
  exitStatus := fun status => push_ne_streamClosed isOpen (.exitStatus status) 0
  close := by
    unfold Outbox.close
    rw [if_neg (Bool.eq_false_iff.1 isOpen)]
    split
    · exact nofun
    · exact nofun

end Open

end Outbox

/-! ### Channels that nobody awaited -/

/-- Reading, by the chunk or by the byte. -/
def InletAct.reads : InletAct → Bool
  | .receive _ | .read _ _ => true
  | _ => false

namespace Inlet

/-- Nothing is left to be read, and nobody is left who could send. -/
structure Over (inlet : Inlet) : Prop where
  noRest : inlet.rest.size = 0
  noItems : inlet.box.items = .empty
  noSenders : inlet.box.senders = 0

variable {inlet : Inlet}

theorem Over.attend (isOver : inlet.Over) (reader : Nat) : (inlet.attend reader).Over :=
  ⟨isOver.noRest, isOver.noItems, isOver.noSenders⟩

theorem Over.ended (isOver : inlet.Over) : inlet.box.ended = true := by
  rw [Mailbox.ended, isOver.noItems, isOver.noSenders]
  rfl

theorem Over.receive (isOver : inlet.Over) (reader : Nat) :
    inlet.receive reader = (inlet.attend reader, .ended) := by
  have attended := isOver.attend reader
  have nothing : (inlet.attend reader).take? = none := by
    rw [take?, if_pos attended.noRest, Mailbox.take?, attended.noItems]
    rfl
  rw [Inlet.receive, nothing]
  exact if_pos attended.ended

theorem Over.read (isOver : inlet.Over) (reader count : Nat) :
    inlet.read reader count = (inlet.attend reader, .ended) := by
  have attended := isOver.attend reader
  have stays : (inlet.attend reader).advance inlet.box.items.length = inlet.attend reader := by
    rw [isOver.noItems]
    rfl
  rw [Inlet.read, stays, if_pos attended.noRest, if_pos attended.ended]

theorem Over.run (isOver : inlet.Over) (acts : List InletAct)
    (reading : ∀ act ∈ acts, act.reads = true) : (runFrom step inlet acts).Over := by
  induction acts generalizing inlet with
  | nil => exact isOver
  | cons act rest inductionHypothesis =>
      obtain ⟨reads, restReads⟩ := List.forall_mem_cons.1 reading
      refine inductionHypothesis ?_ restReads
      cases act with
      | receive reader =>
          rw [step, isOver.receive]
          exact isOver.attend reader
      | read reader count =>
          rw [step, isOver.read]
          exact isOver.attend reader
      | offer | retry | withdraw | addSender | dropSender | detach => exact Bool.noConfusion reads

end Inlet

/-- The peer will not be heard of again: the input reads as ended however often it is read, there are
no requests and will be none, and no transport takes the output. -/
structure Channel.Deserted (channel : Channel) : Prop where
  input : ∀ acts : List InletAct, (∀ act ∈ acts, act.reads = true) → ∀ reader count,
    ((runFrom Inlet.step channel.input acts).receive reader).2 = .ended ∧
      ((runFrom Inlet.step channel.input acts).read reader count).2 = .ended
  requests : channel.requests.take? = none ∧ channel.requests.box.ended = true
  output : ∀ acts, (channel.output.run acts).attached = false

theorem Channel.deserted_ofOffer (offer : ChannelOffer) : (ofOffer offer false).Deserted where
  input := by
    intro acts reading reader count
    have isOver : (ofOffer offer false).input.Over := ⟨rfl, rfl, rfl⟩
    have stillOver := isOver.run acts reading
    rw [stillOver.receive, stillOver.read]
    exact ⟨rfl, rfl⟩
  requests := ⟨rfl, rfl⟩
  output := by
    intro acts
    rw [← Bool.not_eq_true]
    intro attached
    have wasAttached := Outbox.attached_of_run (Outbox.Sound.ofOffer offer false).streams acts attached
    exact Bool.noConfusion wasAttached

namespace Outbox

/-! ### Results -/

/-- What a send can count on that has begun to wait: it waits until it is given up or told how things
stand; it is told once the transport is gone; and it succeeds where nothing comes in between. -/
structure Pending (box : Outbox) (entry : Nat × Message) : Prop where
  fate : ∀ later, Fate box later entry
  hangup : ∀ later, (box.run later).attached = false → entry ∈ (box.run later).sends →
    ((box.run later).resume entry.1).2 = .done (.error .peerHangup)
  succeeds : ∀ later, (box.run later).refusal? = none → (box.run later).AtRest →
    .stream (.cancel entry.1) ∉ later →
    ∃ before after, later = before ++ .stream (.resume entry.1) :: after ∧
      entry ∈ (box.run before).sends ∧ ((box.run before).resume entry.1).2 = .done (.ok ())

theorem Sound.pending {box : Outbox} (sound : box.Sound) {entry : Nat × Message}
    (waits : entry ∈ box.sends) : box.Pending entry where
  fate := sound.fate waits
  hangup := fun later isLeft stillWaits =>
    resume_of_left isLeft (sound.run later).supply ⟨entry.2, stillWaits⟩
  succeeds := sound.succeeds waits

/-- Whatever has been done with a channel, its state alone decides what a writer is told: the close,
else the absence of the transport, else the lack of room where it must not wait, else success, for
which it may have to wait. Failures leave the output as it was. A send that waits succeeds unless the
channel is closed or left or the send is given up, and nothing else can keep the output from coming
to rest. All this holds of a channel that nobody awaited too, and there the peer is not heard of. -/
theorem results_by_state (offer : ChannelOffer) (awaited : Bool) (acts : List OutputAct) :
    let channel := Channel.ofOffer offer awaited
    let box := channel.output.run acts
    (∀ cause, box.refusal? = some cause → box.RefusesFor cause) ∧
      (box.closed = true → box.close.1 = box) ∧
      (box.refusal? = none → box.Accepts) ∧
      (∀ code content ticket, (box.send (.ofStream code content)).2 = .waiting ticket →
        (box.send (.ofStream code content)).1.Pending (ticket, .ofStream code content)) ∧
      (box.refusal? = none → ∃ later : List OutputAct, (∀ act ∈ later, movesOn act = true) ∧
        (box.run later).refusal? = none ∧ (box.run later).AtRest) ∧
      (awaited = false → channel.Deserted) := by
  intro channel box
  have sound : box.Sound := (Sound.ofOffer offer awaited).run acts
  refine ⟨fun cause => sound.refusesFor, ?_, sound.accepts, ?_, sound.comes_to_rest, ?_⟩
  · intro isClosed
    rw [close_of_closed isClosed]
  · intro code content ticket waits
    exact (sound.step (.stream (.send code content))).pending (mem_sends_of_waiting waits)
  · rintro rfl
    exact Channel.deserted_ofOffer offer

/-- A byte has to wait behind a content that takes the whole window. -/
theorem waits_behind_all {content : ByteArray}
    (fills : (Message.data content).cost = outputWindow) :
    (((Channel.ofOffer ⟨"session", .empty⟩ true).output.run
      [.stream (.send none content)]).send (.ofStream none ⟨#[99]⟩)).2 = .waiting 0 := by
  have byteCost : (Message.data ⟨#[99]⟩).cost = 1 := by decide
  simp [run, runFrom, step, perform, performStream, send, push, Credit.acquire, Channel.ofOffer,
    Message.ofStream, fills, byteCost]

/-- A fresh channel accepts writers, one of whom waits once the window is taken. A channel that nobody
awaited refuses them, and for another cause once it is closed. -/
theorem results_by_state_of_starts :
    let offer : ChannelOffer := ⟨"session", .empty⟩
    let deserted := Channel.ofOffer offer false
    let closed := deserted.output.run [.close]
    let fresh := (Channel.ofOffer offer true).output.run []
    let full := (Channel.ofOffer offer true).output.run [.stream (.send none windowful)]
    ((deserted.output.run []).RefusesFor .peerHangup ∧ deserted.Deserted) ∧
      (closed.RefusesFor .streamClosed ∧ closed.close.1 = closed) ∧
      (fresh.Accepts ∧ ∃ later : List OutputAct, (∀ act ∈ later, movesOn act = true) ∧
        (fresh.run later).refusal? = none ∧ (fresh.run later).AtRest) ∧
      (full.send (.ofStream none ⟨#[99]⟩)).1.Pending (0, .ofStream none ⟨#[99]⟩) := by
  intro offer deserted closed fresh full
  have atStart := results_by_state offer false []
  have afterClose := results_by_state offer false [.close]
  have whenFresh := results_by_state offer true []
  have whenFull := results_by_state offer true [.stream (.send none windowful)]
  refine ⟨⟨atStart.1 _ rfl, atStart.2.2.2.2.2 rfl⟩, ⟨afterClose.1 _ rfl, afterClose.2.1 rfl⟩,
    ⟨whenFresh.2.2.1 rfl, whenFresh.2.2.2.2.1 rfl⟩, ?_⟩
  exact whenFull.2.2.2.1 none _ 0 (waits_behind_all cost_windowful)

end Outbox

end SshServer
