import SshServer.Proofs.Input.Stream
import SshServer.Proofs.Output.Credit
import SshServer.Tunnel.Relay

/-!
Contract: everything that can happen to a tunnel, in any order.

Owns: the operations of the two directions, of the peer, of the transport and of the target; runs of
them; what an onlooker sees pass; what a step of either direction can do; and why a tunnel breaks.
Does not own: what follows for a whole run (`Proofs.Tunnel.Fidelity`).

The directions take turns in any order, and everybody else may act between any two turns. A
direction that has to wait makes no step, so a run fixes which of several waits is over first. Of a
peer that is gone and a target that can be read, the direction to the peer notices either first.
-/

namespace SshServer

/-! ### The peer -/

/-- An operation of somebody who has a handle to send with. -/
inductive SenderAct where
  | offer (sender : Nat) (chunk : ByteArray)
  | retry (sender : Nat)
  | withdraw (sender : Nat)
  | addSender
  | dropSender

namespace Inlet

/-- Once every handle is gone, nobody can send, and nobody can have another handle. -/
def stepOfSender (inlet : Inlet) (act : SenderAct) : Inlet :=
  if inlet.box.senders = 0 then inlet
  else
    match act with
    | .offer sender chunk => (inlet.offer sender chunk).1
    | .retry sender => (inlet.retry sender).1
    | .withdraw sender => inlet.withdraw sender
    | .addSender => inlet.addSender
    | .dropSender => inlet.dropSender

/-- What senders do to an input: chunks arrive, and none once every handle is gone. -/
structure SenderEffect (before after : Inlet) : Prop extends
    Mailbox.Brings before.box after.box where
  rest : after.rest = before.rest
  noSenders : before.box.senders = 0 → after = before

theorem step_sender_effect (inlet : Inlet) (act : SenderAct) :
    SenderEffect inlet (inlet.stepOfSender act) := by
  unfold stepOfSender
  split
  · exact ⟨.of_same rfl rfl, rfl, fun _ => rfl⟩
  next someSender =>
    have absent : ∀ {after : Inlet}, inlet.box.senders = 0 → after = inlet :=
      fun noSenders => absurd noSenders someSender
    cases act with
    | offer sender chunk =>
        refine ⟨?_, notify_rest _, absent⟩
        show Mailbox.Brings inlet.box (inlet.offer sender chunk).1.box
        simp only [offer, notify_box]
        exact inlet.box.offer_brings sender chunk
    | retry sender =>
        refine ⟨?_, notify_rest _, absent⟩
        show Mailbox.Brings inlet.box (inlet.retry sender).1.box
        simp only [retry, notify_box]
        exact inlet.box.retry_brings sender
    | withdraw | addSender => exact ⟨.of_same rfl rfl, rfl, absent⟩
    | dropSender =>
        refine ⟨?_, notify_rest _, absent⟩
        show Mailbox.Brings inlet.box inlet.dropSender.box
        simp only [dropSender, notify_box]
        exact .of_same rfl rfl

theorem SenderEffect.unread {before after : Inlet} (effect : SenderEffect before after) :
    after.unread = before.unread ++ joined (Mailbox.newItems before.box after.box) := by
  rw [Inlet.unread, Inlet.unread, effect.rest, effect.items, joined_append, ByteArray.append_assoc]

/-- An input that has ended has nothing to be read, and nobody can send more. -/
theorem ended_of_nothing {inlet : Inlet} (nothing : inlet.take? = none)
    (ended : inlet.box.ended = true) :
    inlet.unread = ByteArray.empty ∧ inlet.box.senders = 0 := by
  obtain ⟨noRest, noItems⟩ := nothing_of_take nothing
  rw [Mailbox.ended, Bool.and_eq_true, beq_iff_eq] at ended
  exact ⟨unread_of_nothing noRest noItems, ended.2⟩

theorem senders_of_not_ended {inlet : Inlet} (nothing : inlet.take? = none)
    (notEnded : ¬inlet.box.ended = true) : inlet.box.senders ≠ 0 := by
  intro noSenders
  apply notEnded
  rw [Mailbox.ended, Fifo.isEmpty_iff.2 (nothing_of_take nothing).2, noSenders]
  rfl

end Inlet

/-! ### The output -/

inductive TransportAct where
  /-- The transport takes a message. -/
  | take
  | leave

namespace Outbox

/-- Why an output takes no message: a writer has closed it, or the transport is gone. -/
def Refuses (box : Outbox) (cause : Failure) : Prop :=
  box.closed = true ∧ cause = .streamClosed ∨
    (box.attached = false ∨ box.credit.closed = true) ∧ cause = .peerHangup

/-- What becomes of a message that somebody attempts to send. -/
inductive Attempt (before after : Outbox) (message : Message) : Sending → Prop where
  | queued (credit : Nat) (isOpen : before.closed = false) (isAttached : before.attached = true)
      (queue : after.queue = before.queue.push (message, credit)) (noSends : after.sends = []) :
      Attempt before after message (.done (.ok ()))
  | refused (cause : Failure) (refuses : before.Refuses cause)
      (queue : after.queue = before.queue) : Attempt before after message (.done (.error cause))
  | waits (ticket : Nat) (queue : after.queue = before.queue)
      (sends : after.sends = [(ticket, message)]) :
      Attempt before after message (.waiting ticket)

/-- An attempt neither closes the output nor makes the transport leave. -/
structure Attempted (before after : Outbox) (message : Message) (sending : Sending) : Prop where
  closed : after.closed = before.closed
  attached : after.attached = before.attached
  attempt : Attempt before after message sending

theorem push_attempted {before box : Outbox} (message : Message) (credit : Nat)
    (queue : box.queue = before.queue) (closed : box.closed = before.closed)
    (attached : box.attached = before.attached) (noSends : box.sends = []) :
    Attempted before (box.push message credit).1 message
      (.done (box.push message credit).2) := by
  unfold push
  split
  next isClosed =>
    exact ⟨closed, attached, .refused _ (.inl ⟨closed ▸ isClosed, rfl⟩) queue⟩
  next isOpen =>
    split
    next isAttached =>
      refine ⟨closed, attached, .queued credit ?_ (attached ▸ isAttached) ?_ noSends⟩
      · rw [← closed]
        exact Bool.not_eq_true _ ▸ isOpen
      · rw [← queue]
    next isLeft =>
      refine ⟨closed, attached, .refused _ (.inr ⟨.inl ?_, rfl⟩) queue⟩
      rw [← attached]
      exact Bool.not_eq_true _ ▸ isLeft

/-- A message that is not queued leaves no trace. -/
theorem push_of_error {box after : Outbox} {message : Message} {credit : Nat} {cause : Failure}
    (failed : box.push message credit = (after, .error cause)) : after = box := by
  unfold push at failed
  split at failed
  · exact (Prod.mk.inj failed).1.symm
  · split at failed
    · exact nomatch (Prod.mk.inj failed).2
    · exact (Prod.mk.inj failed).1.symm

theorem send_attempted {box : Outbox} (noSends : box.sends = []) (message : Message) :
    Attempted box (box.send message).1 message (box.send message).2 := by
  unfold send
  split
  next isClosed => exact ⟨rfl, rfl, .refused _ (.inl ⟨isClosed, rfl⟩) rfl⟩
  · split
    next acquired =>
      have isClosed := (Credit.acquire_closed acquired).1
      exact ⟨rfl, rfl, .refused _ (.inr ⟨.inr isClosed, rfl⟩) rfl⟩
    · exact push_attempted message _ rfl rfl rfl noSends
    · refine ⟨rfl, rfl, .waits _ rfl ?_⟩
      rw [noSends]
      rfl

theorem resume_attempted {box : Outbox} {ticket : Nat} {message : Message}
    (sends : box.sends = [(ticket, message)]) :
    Attempted box (box.resume ticket).1 message (box.resume ticket).2 := by
  have found : box.sends.lookup ticket = some message := by
    rw [sends, List.lookup_cons_self]
  have noSends : (box.forgetSend ticket).sends = [] := by
    rw [forgetSend, sends]
    simp only [List.filter_cons, bne_self_eq_false, Bool.false_eq_true, if_false, List.filter_nil]
  unfold resume
  rw [found]
  dsimp only
  split
  · exact ⟨rfl, rfl, .waits ticket rfl sends⟩
  next resumed =>
    have isClosed := (Credit.resume_closed resumed).1
    exact ⟨rfl, rfl, .refused _ (.inr ⟨.inr isClosed, rfl⟩) rfl⟩
  · exact push_attempted message _ rfl rfl rfl noSends

def stepOfTransport (box : Outbox) : TransportAct → Outbox
  | .take => box.step (.stream .take)
  | .leave => box.step (.stream .detach)

/-- The transport queues nothing, and it does not come back. -/
structure TransportEffect (before after : Outbox) : Prop where
  quiet : newMessages before after = []
  closed : after.closed = before.closed
  sends : after.sends = before.sends
  attached : after.attached = true → before.attached = true

theorem step_transport_effect (box : Outbox) (act : TransportAct) :
    TransportEffect box (box.stepOfTransport act) := by
  cases act with
  | take =>
      show TransportEffect box (box.performStream .take).1
      unfold performStream
      cases taken : box.take? with
      | none => exact ⟨newMessages_of_queue_eq rfl, rfl, rfl, id⟩
      | some pair =>
          simp only [take?, Option.map_eq_some_iff, Prod.exists] at taken
          obtain ⟨message, credit, queue, popped, rfl⟩ := taken
          refine ⟨newMessages_of_length_le ?_, rfl, rfl, id⟩
          rw [Fifo.toList_of_pop? popped]
          exact Nat.le_succ _
  | leave =>
      refine ⟨newMessages_of_length_le (Nat.zero_le _), rfl, rfl, fun isAttached => ?_⟩
      exact absurd isAttached Bool.false_ne_true

end Outbox

/-! ### The tunnel -/

inductive RelayAct (σ : Type) where
  /-- The direction to the target makes a step, if it can. -/
  | outward
  /-- The direction to the peer makes a step, if it can. -/
  | inward
  /-- The direction to the peer notices that the peer is gone, before it looks at the target. -/
  | hangUp
  | peer (act : SenderAct)
  | transport (act : TransportAct)
  /-- The target changes on its own: bytes come in, room is made, the far end goes. -/
  | target (change : σ → σ)

/-- What passes at a tunnel, from the peer to the target and from the target to the peer. -/
structure Traffic where
  /-- The chunks that arrive from the peer. -/
  arrived : List ByteArray := []
  /-- What the target takes, write by write. -/
  written : List ByteArray := []
  /-- What the target gives, read by read. The end of the stream is a read of nothing. -/
  read : List ByteArray := []
  /-- The messages that are queued for the peer. -/
  queued : List Message := []

/-- What passes first, and then more. -/
def Traffic.add (first later : Traffic) : Traffic where
  arrived := first.arrived ++ later.arrived
  written := first.written ++ later.written
  read := first.read ++ later.read
  queued := first.queued ++ later.queued

theorem Traffic.add_nothing (traffic : Traffic) : traffic.add {} = traffic := by
  unfold add
  simp only [List.append_nil]

namespace Relay

variable {σ : Type} (ops : TargetOps σ)

/-- Takes a turn: a tunnel that is over takes none, and neither does one that waits. -/
def proceed (relay : Relay σ) (next : Option (Relay σ)) : Relay σ :=
  match relay.result with
  | some _ => relay
  | none => next.getD relay

def hangUp? (relay : Relay σ) : Option (Relay σ) :=
  if relay.inbound = .reading ∧ relay.channel.output.attached = false then
    some (relay.finish ops (.error .peerHangup))
  else none

def stepBy (relay : Relay σ) : RelayAct σ → Relay σ
  | .outward => relay.proceed (relay.stepOut? ops)
  | .inward => relay.proceed (relay.stepIn? ops)
  | .hangUp => relay.proceed (relay.hangUp? ops)
  | .peer act =>
    let channel := relay.channel
    { relay with channel := { channel with input := channel.input.stepOfSender act } }
  | .transport act =>
    let channel := relay.channel
    { relay with channel := { channel with output := channel.output.stepOfTransport act } }
  | .target change => { relay with target := change relay.target }

def runBy (relay : Relay σ) (acts : List (RelayAct σ)) : Relay σ :=
  runFrom (stepBy ops) relay acts

def arrivedBy (relay : Relay σ) : RelayAct σ → List ByteArray
  | .peer act =>
    Mailbox.newItems relay.channel.input.box (relay.channel.input.stepOfSender act).box
  | _ => []

/-- What the target takes at a turn of the direction to it. -/
def writes (relay : Relay σ) : List ByteArray :=
  match relay.outbound with
  | .writing chunk done =>
    if done < chunk.size then
      match ops.write chunk done relay.target with
      | (_, .ready count) => [chunk.extract done (done + count)]
      | _ => []
    else []
  | _ => []

/-- What the target gives at a turn of the direction to the peer. -/
def reads (relay : Relay σ) : List ByteArray :=
  match relay.inbound with
  | .reading =>
    match ops.read copyBuffer relay.target with
    | (_, .ready content) => [content]
    | _ => []
  | _ => []

def writtenBy (relay : Relay σ) : RelayAct σ → List ByteArray
  | .outward => if relay.result.isNone then relay.writes ops else []
  | _ => []

def readBy (relay : Relay σ) : RelayAct σ → List ByteArray
  | .inward => if relay.result.isNone then relay.reads ops else []
  | _ => []

def queuedBy (relay : Relay σ) (act : RelayAct σ) : List Message :=
  Outbox.newMessages relay.channel.output (relay.stepBy ops act).channel.output

/-- What an onlooker sees pass at one operation. -/
def seenBy (relay : Relay σ) (act : RelayAct σ) : Traffic where
  arrived := relay.arrivedBy act
  written := relay.writtenBy ops act
  read := relay.readBy ops act
  queued := relay.queuedBy ops act

/-- What an onlooker sees pass over a run. -/
def traffic (relay : Relay σ) (acts : List (RelayAct σ)) : Traffic where
  arrived := observed (stepBy ops) arrivedBy relay acts
  written := observed (stepBy ops) (writtenBy ops) relay acts
  read := observed (stepBy ops) (readBy ops) relay acts
  queued := observed (stepBy ops) (queuedBy ops) relay acts

theorem runBy_append (relay : Relay σ) (first later : List (RelayAct σ)) :
    relay.runBy ops (first ++ later) = (relay.runBy ops first).runBy ops later :=
  runFrom_append (stepBy ops) relay first later

theorem traffic_snoc (relay : Relay σ) (acts : List (RelayAct σ)) (act : RelayAct σ) :
    relay.traffic ops (acts ++ [act]) =
      (relay.traffic ops acts).add ((relay.runBy ops acts).seenBy ops act) := by
  unfold traffic Traffic.add
  simp only [observed_snoc]
  rfl

/-- However far a tunnel goes on its own, it gets there by turns of its two directions. -/
theorem exists_runBy_eq_run (relay : Relay σ) (steps : Nat) :
    ∃ acts, relay.run ops steps = relay.runBy ops acts := by
  induction steps generalizing relay with
  | zero => exact ⟨[], rfl⟩
  | succ steps inductionHypothesis =>
      unfold run
      cases step : relay.step? ops with
      | none => exact ⟨[], rfl⟩
      | some next =>
          obtain ⟨acts, same⟩ := inductionHypothesis next
          have turn : ∃ act, relay.stepBy ops act = next := by
            unfold step? at step
            split at step
            · exact absurd step (Option.some_ne_none _).symm
            next running =>
              cases out : relay.stepOut? ops with
              | some other =>
                  rw [out] at step
                  refine ⟨.outward, ?_⟩
                  simp only [stepBy, proceed, running, out, Option.getD_some]
                  exact Option.some.inj step
              | none =>
                  rw [out] at step
                  refine ⟨.inward, ?_⟩
                  have inn : relay.stepIn? ops = some next := step
                  simp only [stepBy, proceed, running, inn, Option.getD_some]
          obtain ⟨act, taken⟩ := turn
          refine ⟨act :: acts, ?_⟩
          show next.run ops steps = (relay.stepBy ops act).runBy ops acts
          rw [taken]
          exact same

/-! ### The end of a tunnel -/

/-- What the end of a tunnel leaves behind. -/
structure Finished (before after : Relay σ) (outcome : Except Failure (Nat × Nat)) : Prop where
  result : after.result = some outcome
  closed : after.channel.output.closed = true
  attached : after.channel.output.attached = before.channel.output.attached
  detached : after.channel.input.box.attached = false
  senders : after.channel.input.box.senders = before.channel.input.box.senders
  queued : before.channel.output.Extends after.channel.output before.channel.output.closing

theorem finish_finished (relay : Relay σ) (outcome : Except Failure (Nat × Nat)) :
    Finished relay (relay.finish ops outcome) outcome := by
  have queued := relay.channel.output.extends_close
  have attached : relay.channel.output.close.1.attached = relay.channel.output.attached := by
    unfold Outbox.close
    split
    · rfl
    · split <;> rfl
  have output : (relay.finish ops outcome).channel.output =
      (relay.withoutSend relay.channel.output.close.1).dropWriter := rfl
  refine ⟨rfl, ?_, ?_, rfl, rfl, ?_⟩
  · rw [output]
    unfold withoutSend
    split
    · exact Outbox.close_closed _
    · exact Outbox.close_closed _
  · rw [output]
    unfold withoutSend
    split
    · exact attached
    · exact attached
  · rw [output]
    unfold withoutSend
    split
    · exact queued
    · exact queued

theorem settle_cases (relay : Relay σ) :
    (relay.outbound = .finished ∧ relay.inbound = .finished ∧
        relay.settle ops = relay.finish ops (.ok (relay.sent, relay.received))) ∨
      ¬(relay.outbound = .finished ∧ relay.inbound = .finished) ∧ relay.settle ops = relay := by
  unfold settle
  split
  next both => exact .inl ⟨both.1, both.2, rfl⟩
  next notBoth => exact .inr ⟨notBoth, rfl⟩

/-- What breaks a tunnel: the target fails, or the peer cannot be sent to. -/
inductive Breaks (relay : Relay σ) : Failure → Prop where
  | write (chunk : ByteArray) (done : Nat) (target : σ) (cause : IoFailure)
      (writing : relay.outbound = .writing chunk done) (more : done < chunk.size)
      (failed : ops.write chunk done relay.target = (target, .failed cause)) :
      Breaks relay (.io cause)
  /-- The target takes nothing of what it could be given. -/
  | writeZero (chunk : ByteArray) (done : Nat) (target : σ)
      (writing : relay.outbound = .writing chunk done) (more : done < chunk.size)
      (nothing : ops.write chunk done relay.target = (target, .ready 0)) :
      Breaks relay (.io ⟨.writeZero, "failed to write whole buffer"⟩)
  | shutdown (target : σ) (cause : IoFailure) (receiving : relay.outbound = .receiving)
      (isEnded : relay.channel.input.box.ended = true)
      (failed : ops.shutdown relay.target = (target, .failed cause)) : Breaks relay (.io cause)
  | read (target : σ) (cause : IoFailure) (reading : relay.inbound = .reading)
      (failed : ops.read copyBuffer relay.target = (target, .failed cause)) :
      Breaks relay (.io cause)
  | refused (cause : Failure) (refuses : relay.channel.output.Refuses cause) : Breaks relay cause

/-! ### Turns -/

/-- What a turn of the direction to the target can do, with what the target takes. -/
inductive OutTurn (before : Relay σ) : List ByteArray → Relay σ → Prop where
  | idle : OutTurn before [] before
  | took (chunk : ByteArray) (input : Inlet) (receiving : before.outbound = .receiving)
      (taken : before.channel.input.take? = some (chunk, input)) :
      OutTurn before []
        { before with
          channel := { before.channel with input }
          outbound := .writing chunk 0 }
  | wrote (chunk : ByteArray) (done count : Nat) (target : σ)
      (writing : before.outbound = .writing chunk done) (more : done < chunk.size) :
      OutTurn before [chunk.extract done (done + count)]
        { before with target, outbound := .writing chunk (done + count) }
  | through (chunk : ByteArray) (done : Nat) (writing : before.outbound = .writing chunk done)
      (whole : chunk.size ≤ done) :
      OutTurn before [] { before with outbound := .receiving, sent := before.sent + chunk.size }
  | ended (target : σ) (receiving : before.outbound = .receiving)
      (nothing : before.channel.input.take? = none)
      (isEnded : before.channel.input.box.ended = true) :
      OutTurn before [] ({ before with target, outbound := .finished }.settle ops)
  | broke (written : List ByteArray) (target : σ) (cause : Failure)
      (nothing : joined written = ByteArray.empty) (breaks : before.Breaks ops cause) :
      OutTurn before written ({ before with target }.finish ops (.error cause))

theorem stepOut_turn (relay : Relay σ) :
    OutTurn ops relay (relay.writes ops) ((relay.stepOut? ops).getD relay) := by
  unfold stepOut?
  split
  next phase =>
    have silent : relay.writes ops = [] := by simp only [writes, phase]
    rw [silent]
    exact .idle
  next phase =>
    have silent : relay.writes ops = [] := by simp only [writes, phase]
    rw [silent]
    split
    next chunk input taken => exact .took chunk input phase taken
    next nothing =>
      split
      next isEnded =>
        split
        · exact .idle
        next target cause failed =>
          exact .broke [] target _ rfl (.shutdown target cause phase isEnded failed)
        next target _ => exact .ended target phase nothing isEnded
      · exact .idle
  next chunk done phase =>
    split
    next more =>
      split
      next waits =>
        have silent : relay.writes ops = [] := by simp only [writes, phase, more, if_true, waits]
        rw [silent]
        exact .idle
      next target cause failed =>
        have silent : relay.writes ops = [] := by simp only [writes, phase, more, if_true, failed]
        rw [silent]
        exact .broke [] target _ rfl (.write chunk done target cause phase more failed)
      next target count ready =>
        have taken : relay.writes ops = [chunk.extract done (done + count)] := by
          simp only [writes, phase, more, if_true, ready]
        rw [taken]
        split
        next isZero =>
          subst isZero
          refine .broke _ target _ ?_ (.writeZero chunk done target phase more ready)
          rw [joined, joined, ByteArray.append_empty, Nat.add_zero]
          exact ByteArray.size_eq_zero_iff.1 (by rw [ByteArray.size_extract]; omega)
        · exact .wrote chunk done count target phase more
    next whole =>
      have silent : relay.writes ops = [] := by simp only [writes, phase, whole, if_false]
      rw [silent]
      exact .through chunk done phase (Nat.le_of_not_lt whole)

/-- The bytes that were read and wait for credit. -/
def Holds (inbound : Inbound) (output : Outbox) (held : ByteArray) : Prop :=
  match inbound with
  | .sending ticket => output.sends = [(ticket, .data held)]
  | .reading | .finished => output.sends = [] ∧ held = ByteArray.empty

/-- What a turn of the direction to the peer can do, with what the target gives, where `held` was
read before and waits for credit. -/
inductive InTurn (before : Relay σ) (held : ByteArray) : List ByteArray → Relay σ → Prop where
  | idle : InTurn before held [] before
  | passed (content : ByteArray) (target : σ) (output : Outbox) (sending : Outbox.Sending)
      (reading : before.inbound = .reading)
      (attempted : before.channel.output.Attempted output (.data content) sending) :
      InTurn before held [content]
        ({ before with
            target
            channel := { before.channel with output }
            received := before.received + content.size }.afterSend ops sending)
  | resumed (ticket : Nat) (output : Outbox) (sending : Outbox.Sending)
      (isSending : before.inbound = .sending ticket)
      (attempted : before.channel.output.Attempted output (.data held) sending) :
      InTurn before held []
        ({ before with channel := { before.channel with output } }.afterSend ops sending)
  | ended (target : σ) (output : Outbox) (reading : before.inbound = .reading)
      (attempted : before.channel.output.Attempted output .eof (.done (.ok ()))) :
      InTurn before held [ByteArray.empty]
        ({ before with
            target
            channel := { before.channel with output }
            inbound := .finished }.settle ops)
  | broke (read : List ByteArray) (target : σ) (cause : Failure)
      (reading : before.inbound = .reading) (nothing : joined read = ByteArray.empty)
      (breaks : before.Breaks ops cause) :
      InTurn before held read ({ before with target }.finish ops (.error cause))

/-- What waits for credit is a chunk that is named by its ticket. -/
theorem Holds.of_sending {ticket : Nat} {output : Outbox} {held : ByteArray}
    (holds : Holds (.sending ticket) output held) : output.sends = [(ticket, .data held)] :=
  holds

theorem stepIn_turn (relay : Relay σ) {held : ByteArray}
    (holds : Holds relay.inbound relay.channel.output held) :
    InTurn ops relay held (relay.reads ops) ((relay.stepIn? ops).getD relay) := by
  unfold stepIn?
  split
  next phase =>
    have silent : relay.reads ops = [] := by simp only [reads, phase]
    rw [silent]
    exact .idle
  next phase =>
    have noSends : relay.channel.output.sends = [] := by
      rw [phase] at holds
      exact holds.1
    split
    next target content ready =>
      have given : relay.reads ops = [content] := by simp only [reads, phase, ready]
      rw [given]
      unfold forward
      split
      next nothing =>
        obtain rfl := ByteArray.size_eq_zero_iff.1 nothing
        have attempted : Outbox.Attempted relay.channel.output relay.channel.output.eof.1 .eof
            (.done relay.channel.output.eof.2) :=
          Outbox.push_attempted .eof 0 rfl rfl rfl noSends
        split
        next output queued =>
          have isEof : relay.channel.output.eof = (output, .ok ()) := queued
          rw [isEof] at attempted
          exact .ended target output phase attempted
        next output cause failed =>
          have isEof : relay.channel.output.eof = (output, .error cause) := failed
          obtain rfl := Outbox.push_of_error isEof
          rw [isEof] at attempted
          cases attempted.attempt with
          | refused _ refuses _ => exact .broke _ target cause phase rfl (.refused cause refuses)
      next =>
        exact .passed content target _ _ phase (Outbox.send_attempted noSends (.data content))
    next target cause failed =>
      have silent : relay.reads ops = [] := by simp only [reads, phase, failed]
      rw [silent]
      exact .broke [] target _ phase rfl (.read target cause phase failed)
    next waits =>
      have silent : relay.reads ops = [] := by simp only [reads, phase, waits]
      rw [silent]
      split
      · exact .idle
      next isLeft =>
        refine .broke [] relay.target _ phase rfl (.refused _ (.inr ⟨.inl ?_, rfl⟩))
        exact Bool.not_eq_true _ ▸ isLeft
  next ticket phase =>
    have silent : relay.reads ops = [] := by simp only [reads, phase]
    rw [silent]
    rw [phase] at holds
    have attempted := Outbox.resume_attempted holds.of_sending
    split
    · exact .idle
    next output sending _ resumed =>
      rw [resumed] at attempted
      exact .resumed ticket output sending phase attempted

theorem not_failed_of_running {relay : Relay σ} {cause : Failure} (running : relay.result = none) :
    relay.result ≠ some (.error cause) := by
  rw [running]
  exact (Option.some_ne_none _).symm

theorem not_failed_of_settle {relay : Relay σ} {cause : Failure} (running : relay.result = none) :
    (relay.settle ops).result ≠ some (.error cause) := by
  rcases relay.settle_cases ops with ⟨-, -, finishes⟩ | ⟨-, stays⟩
  · rw [finishes]
    exact nofun
  · rw [stays]
    exact not_failed_of_running running

/-- A turn of the direction to the target fails only for a reason. -/
theorem OutTurn.breaks {before after : Relay σ} {written : List ByteArray} {cause : Failure}
    (turn : OutTurn ops before written after) (running : before.result = none)
    (failed : after.result = some (.error cause)) : before.Breaks ops cause := by
  cases turn with
  | idle | took | wrote | through => exact absurd failed (not_failed_of_running running)
  | ended target => exact absurd failed (not_failed_of_settle ops running)
  | broke written target other nothing breaks =>
      obtain rfl := Except.error.inj (Option.some.inj failed)
      exact breaks

theorem afterSend_breaks {before relay : Relay σ} {message : Message} {sending : Outbox.Sending}
    {cause : Failure} (failed : (relay.afterSend ops sending).result = some (.error cause))
    (running : relay.result = none)
    (attempted : before.channel.output.Attempted relay.channel.output message sending) :
    before.Breaks ops cause := by
  cases attempted.attempt with
  | queued | waits => exact absurd failed (not_failed_of_running running)
  | refused other refuses =>
      obtain rfl := Except.error.inj (Option.some.inj failed)
      exact .refused _ refuses

/-- A turn of the direction to the peer fails only for a reason. -/
theorem InTurn.breaks {before after : Relay σ} {held : ByteArray} {read : List ByteArray}
    {cause : Failure} (turn : InTurn ops before held read after) (running : before.result = none)
    (failed : after.result = some (.error cause)) : before.Breaks ops cause := by
  cases turn with
  | idle => exact absurd failed (not_failed_of_running running)
  | passed content target output sending _ attempted =>
      exact afterSend_breaks ops failed running attempted
  | resumed ticket output sending _ attempted =>
      exact afterSend_breaks ops failed running attempted
  | ended target => exact absurd failed (not_failed_of_settle ops running)
  | broke read target other _ nothing breaks =>
      obtain rfl := Except.error.inj (Option.some.inj failed)
      exact breaks

theorem stepBy_outward {relay : Relay σ} (running : relay.result = none) :
    relay.stepBy ops .outward = (relay.stepOut? ops).getD relay := by
  simp only [stepBy, proceed, running]

theorem stepBy_inward {relay : Relay σ} (running : relay.result = none) :
    relay.stepBy ops .inward = (relay.stepIn? ops).getD relay := by
  simp only [stepBy, proceed, running]

theorem stepBy_hangUp {relay : Relay σ} (running : relay.result = none) :
    relay.stepBy ops .hangUp = relay ∨
      relay.Breaks ops .peerHangup ∧
        relay.stepBy ops .hangUp = relay.finish ops (.error .peerHangup) := by
  have turn : relay.stepBy ops .hangUp = (relay.hangUp? ops).getD relay := by
    simp only [stepBy, proceed, running]
  rw [turn]
  unfold hangUp?
  split
  next gone => exact .inr ⟨.refused _ (.inr ⟨.inl gone.2, rfl⟩), rfl⟩
  · exact .inl rfl

/-- A tunnel that is over takes no turn. -/
theorem proceed_of_result {relay : Relay σ} {outcome : Except Failure (Nat × Nat)}
    (isOver : relay.result = some outcome) (next : Option (Relay σ)) :
    relay.proceed next = relay := by
  simp only [proceed, isOver]

/-! ### Waiting -/

/-- What keeps the direction to the target from going on, short of its end. -/
inductive OutWaits (relay : Relay σ) : Prop where
  /-- Nothing has arrived, and somebody can still send. -/
  | peer (receiving : relay.outbound = .receiving) (nothing : relay.channel.input.take? = none)
      (someSender : relay.channel.input.box.senders ≠ 0)
  | shutdown (target : σ) (receiving : relay.outbound = .receiving)
      (ended : relay.channel.input.box.ended = true)
      (pending : ops.shutdown relay.target = (target, .pending))
  | write (chunk : ByteArray) (done : Nat) (target : σ)
      (writing : relay.outbound = .writing chunk done)
      (pending : ops.write chunk done relay.target = (target, .pending))

theorem waits_of_stepOut {relay : Relay σ} (stuck : relay.stepOut? ops = none) :
    relay.outbound = .finished ∨ relay.OutWaits ops := by
  unfold stepOut? at stuck
  split at stuck
  next phase => exact .inl phase
  next phase =>
    right
    split at stuck
    · exact absurd stuck (Option.some_ne_none _)
    next nothing =>
      split at stuck
      next isEnded =>
        split at stuck
        next target pending => exact .shutdown target phase isEnded pending
        · exact absurd stuck (Option.some_ne_none _)
        · exact absurd stuck (Option.some_ne_none _)
      next notEnded => exact .peer phase nothing (Inlet.senders_of_not_ended nothing notEnded)
  next chunk done phase =>
    right
    split at stuck
    · split at stuck
      next target pending => exact .write chunk done target phase pending
      · exact absurd stuck (Option.some_ne_none _)
      · split at stuck
        · exact absurd stuck (Option.some_ne_none _)
        · exact absurd stuck (Option.some_ne_none _)
    · exact absurd stuck (Option.some_ne_none _)

/-- What keeps the direction to the peer from going on, short of its end. -/
inductive InWaits (relay : Relay σ) : Prop where
  /-- The target has nothing to give, and the peer is still there. -/
  | target (target : σ) (reading : relay.inbound = .reading)
      (pending : ops.read copyBuffer relay.target = (target, .pending))
      (isAttached : relay.channel.output.attached = true)
  | credit (ticket : Nat) (isSending : relay.inbound = .sending ticket)
      (waits : (relay.channel.output.credit.resume ticket).2 = .waiting)

theorem waits_of_stepIn {relay : Relay σ} {held : ByteArray}
    (holds : Holds relay.inbound relay.channel.output held) (stuck : relay.stepIn? ops = none) :
    relay.inbound = .finished ∨ relay.InWaits ops := by
  unfold stepIn? at stuck
  split at stuck
  next phase => exact .inl phase
  next phase =>
    right
    split at stuck
    · exact absurd stuck (Option.some_ne_none _)
    · exact absurd stuck (Option.some_ne_none _)
    next target pending =>
      split at stuck
      next isAttached => exact .target target phase pending isAttached
      · exact absurd stuck (Option.some_ne_none _)
  next ticket phase =>
    right
    rw [phase] at holds
    split at stuck
    next output other waits =>
      refine .credit ticket phase ?_
      unfold Outbox.resume at waits
      rw [holds.of_sending, List.lookup_cons_self] at waits
      dsimp only at waits
      split at waits
      next resumed => rw [resumed]
      · exact nomatch (Prod.mk.inj waits).2
      · exact nomatch (Prod.mk.inj waits).2
    · exact absurd stuck (Option.some_ne_none _)

/-- Only the direction to the target shuts the target down, once there is nothing to be taken and
the input has ended. Elsewhere it makes no difference what a shutdown does. -/
theorem asks_shutdown {relay : Relay σ} {act : RelayAct σ}
    {shutdown : σ → σ × StreamAnswer Unit}
    (differs : relay.stepBy { ops with shutdown } act ≠ relay.stepBy ops act) :
    relay.result = none ∧ relay.outbound = .receiving ∧
      relay.channel.input.take? = none ∧ relay.channel.input.box.ended = true := by
  cases act with
  | outward =>
      cases isOver : relay.result with
      | some outcome =>
          refine absurd ?_ differs
          show relay.proceed _ = relay.proceed _
          rw [proceed_of_result isOver, proceed_of_result isOver]
      | none =>
          rw [stepBy_outward _ isOver, stepBy_outward _ isOver] at differs
          unfold stepOut? at differs
          split at differs
          · exact absurd rfl differs
          next phase =>
            split at differs
            · exact absurd rfl differs
            next nothing =>
              split at differs
              next ended => exact ⟨rfl, phase, nothing, ended⟩
              · exact absurd rfl differs
          · exact absurd rfl differs
  | inward | hangUp | peer | transport | target => exact absurd rfl differs

end Relay

end SshServer
