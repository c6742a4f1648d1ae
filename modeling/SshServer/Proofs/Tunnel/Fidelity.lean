import Mathlib.Data.List.Induction
import SshServer.Proofs.Tunnel.Run

/-!
Contract: a tunnel passes on the bytes of either side as they are, each side to its own end.

Owns: the account of what passed while a tunnel runs and once it is over; that every operation keeps
it; and what it says at any moment.
Does not own: what a single turn can do (`Proofs.Tunnel.Run`).

The account is an onlooker's: of the chunks that arrive, of what the target takes and gives, and of
the messages that are queued.
-/

namespace SshServer

/-- What is left of a chunk that is written. -/
def Outbound.left : Outbound → ByteArray
  | .writing chunk done => chunk.extract done chunk.size
  | .receiving | .finished => ByteArray.empty

/-- How much of a chunk that is written is through. -/
def Outbound.through : Outbound → Nat
  | .writing chunk done => min done chunk.size
  | .receiving | .finished => 0

def Inbound.ended : Inbound → Bool
  | .finished => true
  | .reading | .sending _ => false

/-- The messages that end an output: the end of the data, and the close. -/
def Message.endings (ended closed : Bool) : List Message :=
  (if ended then [.eof] else []) ++ if closed then [.close] else []

namespace Relay

/-! ### The account -/

/-- What has passed so far: the target took the first bytes of the peer, and the peer is sent the
first bytes of the target; then, if the target has ended, all of them and the end of the data; and
then perhaps the close. -/
structure Passed (fromPeer written : ByteArray) (read : List ByteArray) (queued : List Message)
    (ended closed : Bool) : Prop where
  outward : ∃ unwritten, written ++ unwritten = fromPeer
  inward : ∃ datas unqueued, queued = datas.map .data ++ Message.endings ended closed ∧
    joined datas ++ unqueued = joined read ∧
    (ended = true → unqueued = ByteArray.empty ∧ read.getLast? = some ByteArray.empty)

/-- Nobody is left to send more to a target that took everything, and the counts say how much it was
and how much the target gave. -/
structure Complete (fromPeer written : ByteArray) (read : List ByteArray) (senders : Nat)
    (counts : Nat × Nat) : Prop where
  noSenders : senders = 0
  written : written = fromPeer
  sent : counts.1 = fromPeer.size
  received : counts.2 = (joined read).size

/-- The direction to the target, with what came from the peer and what was written. -/
structure Outward (fromPeer written : ByteArray) (outbound : Outbound) (sent : Nat)
    (input : Inlet) : Prop where
  split : written ++ (outbound.left ++ input.unread) = fromPeer
  sent : sent + outbound.through = written.size
  finished : outbound = .finished → input.unread = ByteArray.empty ∧ input.box.senders = 0

/-- The direction to the peer, with what was read and what was queued. -/
structure Inward (read : List ByteArray) (queued : List Message) (inbound : Inbound)
    (received : Nat) (output : Outbox) : Prop where
  split : ∃ datas held, Holds inbound output held ∧
    queued = datas.map .data ++ Message.endings inbound.ended false ∧
    joined datas ++ held = joined read
  received : received = (joined read).size
  finished : inbound = .finished → read.getLast? = some ByteArray.empty ∧ output.closed = false

variable {σ : Type} (ops : TargetOps σ) {fromPeer : ByteArray} {traffic : Traffic}
  {wasClosed : Bool}

/-- The account of a tunnel that runs. -/
structure Flowing (fromPeer : ByteArray) (traffic : Traffic) (wasClosed : Bool)
    (relay : Relay σ) : Prop where
  running : relay.result = none
  closed : relay.channel.output.closed = wasClosed
  outward : Outward fromPeer (joined traffic.written) relay.outbound relay.sent relay.channel.input
  inward : Inward traffic.read traffic.queued relay.inbound relay.received relay.channel.output

/-- The account of a tunnel that is over. Only a close that nobody could queue is missing, and a
tunnel that did not fail had not been closed before. -/
structure Over (fromPeer : ByteArray) (traffic : Traffic) (wasClosed : Bool)
    (outcome : Except Failure (Nat × Nat)) (relay : Relay σ) : Prop where
  result : relay.result = some outcome
  closed : relay.channel.output.closed = true
  detached : relay.channel.input.box.attached = false
  passed : ∃ ended closed,
    Passed fromPeer (joined traffic.written) traffic.read traffic.queued ended closed ∧
    (closed = false → wasClosed = true ∨ relay.channel.output.attached = false) ∧
    ∀ counts, outcome = .ok counts → ended = true ∧ wasClosed = false ∧
      Complete fromPeer (joined traffic.written) traffic.read relay.channel.input.box.senders counts

/-- The account of a tunnel: as long as it runs, one of its directions has not ended. -/
def Accounted (fromPeer : ByteArray) (traffic : Traffic) (wasClosed : Bool)
    (relay : Relay σ) : Prop :=
  (Flowing fromPeer traffic wasClosed relay ∧
      ¬(relay.outbound = .finished ∧ relay.inbound = .finished)) ∨
    ∃ outcome, Over fromPeer traffic wasClosed outcome relay

/-! ### The end -/

theorem Passed.close {written : ByteArray} {read : List ByteArray} {queued : List Message}
    {ended : Bool} (passed : Passed fromPeer written read queued ended false) (box : Outbox) :
    ∃ closed, Passed fromPeer written read (queued ++ box.closing) ended closed ∧
      (closed = false → box.closed = true ∨ box.attached = false) := by
  obtain ⟨datas, unqueued, isQueued, split, atEnd⟩ := passed.inward
  unfold Outbox.closing
  split
  next canClose =>
    refine ⟨true, ⟨passed.outward, datas, unqueued, ?_, split, atEnd⟩, nofun⟩
    rw [isQueued, List.append_assoc, Message.endings, Message.endings, List.append_assoc]
    rfl
  next cannot =>
    refine ⟨false, ?_, fun _ => ?_⟩
    · rw [List.append_nil]
      exact passed
    · rcases Bool.eq_false_or_eq_true box.closed with isClosed | isOpen
      · exact .inl isClosed
      · exact .inr (Bool.eq_false_iff.2 fun isAttached => cannot ⟨isOpen, isAttached⟩)

/-- A tunnel that ends is closed, and has passed on what it had. -/
theorem over_of_finish {relay : Relay σ} {ended : Bool} {outcome : Except Failure (Nat × Nat)}
    (passed : Passed fromPeer (joined traffic.written) traffic.read traffic.queued ended false)
    (closed : relay.channel.output.closed = wasClosed)
    (complete : ∀ counts, outcome = .ok counts → ended = true ∧ wasClosed = false ∧
      Complete fromPeer (joined traffic.written) traffic.read relay.channel.input.box.senders
        counts) :
    Over fromPeer { traffic with queued := traffic.queued ++ relay.channel.output.closing }
      wasClosed outcome (relay.finish ops outcome) := by
  have finished := relay.finish_finished ops outcome
  obtain ⟨isClosed, all, missing⟩ := passed.close relay.channel.output
  refine ⟨finished.result, finished.closed, finished.detached, ended, isClosed, all, ?_, ?_⟩
  · rw [finished.attached, ← closed]
    exact missing
  · rw [finished.senders]
    exact complete

theorem Flowing.passed {relay : Relay σ} (flowing : Flowing fromPeer traffic wasClosed relay) :
    Passed fromPeer (joined traffic.written) traffic.read traffic.queued relay.inbound.ended
      false := by
  obtain ⟨datas, held, holds, queued, split⟩ := flowing.inward.split
  refine ⟨⟨_, flowing.outward.split⟩, datas, held, queued, split, fun isEnded => ?_⟩
  cases phase : relay.inbound with
  | finished =>
      rw [phase] at holds
      exact ⟨holds.2, (flowing.inward.finished phase).1⟩
  | reading | sending ticket =>
      rw [phase] at isEnded
      exact absurd isEnded Bool.false_ne_true

/-- What is broken off is over. -/
theorem Flowing.broken {relay : Relay σ} (flowing : Flowing fromPeer traffic wasClosed relay)
    (cause : Failure) :
    Over fromPeer { traffic with queued := traffic.queued ++ relay.channel.output.closing }
      wasClosed (.error cause) (relay.finish ops (.error cause)) :=
  over_of_finish ops flowing.passed flowing.closed nofun

/-- Two directions that have both ended have passed everything on. -/
theorem Flowing.complete {relay : Relay σ} (flowing : Flowing fromPeer traffic wasClosed relay)
    (outEnded : relay.outbound = .finished) (inEnded : relay.inbound = .finished) :
    wasClosed = false ∧ Complete fromPeer (joined traffic.written) traffic.read
      relay.channel.input.box.senders (relay.sent, relay.received) := by
  have outward := flowing.outward
  obtain ⟨nothing, noSenders⟩ := outward.finished outEnded
  have written : joined traffic.written = fromPeer := by
    have split := outward.split
    rw [outEnded, nothing] at split
    rw [← split]
    exact (ByteArray.append_empty).symm
  have sent : relay.sent = fromPeer.size := by
    have counted := outward.sent
    rw [outEnded, written] at counted
    exact counted
  exact ⟨flowing.closed ▸ (flowing.inward.finished inEnded).2, noSenders, written, sent,
    flowing.inward.received⟩

/-- The end of a direction: either the other goes on, or everything is over. -/
theorem Flowing.settle {relay : Relay σ} (flowing : Flowing fromPeer traffic wasClosed relay) :
    ∃ messages, relay.channel.output.Extends (relay.settle ops).channel.output messages ∧
      Accounted fromPeer { traffic with queued := traffic.queued ++ messages } wasClosed
        (relay.settle ops) := by
  rcases relay.settle_cases ops with ⟨outEnded, inEnded, finishes⟩ | ⟨goesOn, stays⟩
  · rw [finishes]
    have isEnded : relay.inbound.ended = true := by
      rw [inEnded]
      rfl
    obtain ⟨isOpen, complete⟩ := flowing.complete outEnded inEnded
    have queued := (relay.finish_finished ops (.ok (relay.sent, relay.received))).queued
    refine ⟨_, queued, .inr ⟨.ok (relay.sent, relay.received), ?_⟩⟩
    apply over_of_finish ops flowing.passed flowing.closed
    rintro counts ⟨⟩
    exact ⟨isEnded, isOpen, complete⟩
  · rw [stays]
    refine ⟨[], .of_queue_eq rfl, .inl ⟨?_, goesOn⟩⟩
    rw [List.append_nil]
    exact flowing

/-! ### Turns of the direction to the target -/

theorem Outward.took {written : ByteArray} {sent : Nat} {input after : Inlet} {chunk : ByteArray}
    (outward : Outward fromPeer written .receiving sent input)
    (taken : input.take? = some (chunk, after)) :
    Outward fromPeer written (.writing chunk 0) sent after := by
  have unread : input.unread = chunk ++ after.unread := (Inlet.take_finds taken).split
  have whole : Outbound.left (.writing chunk 0) = chunk := ByteArray.extract_zero_size
  refine ⟨?_, ?_, nofun⟩
  · rw [whole, ← unread, ← outward.split]
    show written ++ input.unread = written ++ (ByteArray.empty ++ input.unread)
    rw [ByteArray.empty_append]
  · have sentAll : sent + 0 = written.size := outward.sent
    rw [Outbound.through, Nat.zero_min]
    exact sentAll

theorem Outward.wrote {written : ByteArray} {sent : Nat} {input : Inlet} {chunk : ByteArray}
    {done : Nat} (outward : Outward fromPeer written (.writing chunk done) sent input) (count : Nat)
    (more : done < chunk.size) :
    Outward fromPeer (written ++ chunk.extract done (done + count))
      (.writing chunk (done + count)) sent input := by
  refine ⟨?_, ?_, nofun⟩
  · rw [← outward.split, Outbound.left, Outbound.left, ← extract_append_from chunk done count]
    simp only [ByteArray.append_assoc]
  · have sent := outward.sent
    rw [Outbound.through] at sent ⊢
    rw [ByteArray.size_append, ByteArray.size_extract]
    omega

theorem Outward.through {written : ByteArray} {sent : Nat} {input : Inlet} {chunk : ByteArray}
    {done : Nat} (outward : Outward fromPeer written (.writing chunk done) sent input)
    (whole : chunk.size ≤ done) :
    Outward fromPeer written .receiving (sent + chunk.size) input := by
  have nothing : chunk.extract done chunk.size = ByteArray.empty :=
    ByteArray.size_eq_zero_iff.1 (by rw [ByteArray.size_extract]; omega)
  refine ⟨?_, ?_, nofun⟩
  · have split := outward.split
    rw [Outbound.left, nothing] at split
    exact split
  · have sent := outward.sent
    rw [Outbound.through, Nat.min_eq_right whole] at sent
    exact sent

theorem Flowing.outward_kept {before after : Relay σ} {written : List ByteArray}
    (flowing : Flowing fromPeer traffic wasClosed before)
    (unfinished : ¬(before.outbound = .finished ∧ before.inbound = .finished))
    (turn : OutTurn ops before written after) :
    ∃ messages, before.channel.output.Extends after.channel.output messages ∧
      Accounted fromPeer
        { traffic with written := traffic.written ++ written, queued := traffic.queued ++ messages }
        wasClosed after := by
  have outward := flowing.outward
  cases turn with
  | idle =>
      refine ⟨[], .of_queue_eq rfl, .inl ⟨?_, unfinished⟩⟩
      rw [List.append_nil, List.append_nil]
      exact flowing
  | took chunk input receiving taken =>
      rw [receiving] at outward
      refine ⟨[], .of_queue_eq rfl, .inl ⟨?_, nofun⟩⟩
      rw [List.append_nil, List.append_nil]
      exact { flowing with outward := outward.took taken }
  | wrote chunk done count target writing more =>
      rw [writing] at outward
      refine ⟨[], .of_queue_eq rfl, .inl ⟨?_, nofun⟩⟩
      rw [List.append_nil]
      refine { flowing with outward := ?_ }
      rw [joined_snoc]
      exact outward.wrote count more
  | through chunk done writing whole =>
      rw [writing] at outward
      refine ⟨[], .of_queue_eq rfl, .inl ⟨?_, nofun⟩⟩
      rw [List.append_nil, List.append_nil]
      exact { flowing with outward := outward.through whole }
  | ended target receiving nothing isEnded =>
      rw [receiving] at outward
      have atEnd := Inlet.ended_of_nothing nothing isEnded
      have finished : Flowing fromPeer traffic wasClosed
          { before with target, outbound := .finished } :=
        { flowing with outward := ⟨outward.split, outward.sent, fun _ => atEnd⟩ }
      rw [List.append_nil]
      exact finished.settle ops
  | broke written target cause nothing =>
      have same : Flowing fromPeer { traffic with written := traffic.written ++ written } wasClosed
          { before with target } := by
        refine { flowing with outward := ?_ }
        rw [joined_append, nothing, ByteArray.append_empty]
        exact outward
      have queued := (finish_finished ops { before with target } (.error cause)).queued
      exact ⟨_, queued, .inr ⟨_, same.broken ops cause⟩⟩

/-! ### Turns of the direction to the peer -/

/-- A portion that is read is queued, waits for credit, or breaks the tunnel. -/
theorem afterSend_accounted (traffic : Traffic) {before : Outbox} {relay : Relay σ}
    {datas : List ByteArray} {content : ByteArray} {sending : Outbox.Sending}
    (running : relay.result = none) (closed : before.closed = wasClosed)
    (outward : Outward fromPeer (joined traffic.written) relay.outbound relay.sent
      relay.channel.input)
    (queued : traffic.queued = datas.map .data)
    (split : joined datas ++ content = joined traffic.read)
    (received : relay.received = (joined traffic.read).size)
    (attempted : before.Attempted relay.channel.output (.data content) sending) :
    ∃ messages, before.Extends (relay.afterSend ops sending).channel.output messages ∧
      Accounted fromPeer { traffic with queued := traffic.queued ++ messages } wasClosed
        (relay.afterSend ops sending) := by
  have closedAfter : relay.channel.output.closed = wasClosed := attempted.closed.trans closed
  have noEnding : traffic.queued = datas.map .data ++ Message.endings false false := by
    rw [queued]
    exact (List.append_nil _).symm
  cases attempted.attempt with
  | queued credit _ _ queue noSends =>
      refine ⟨[.data content], .of_push queue, .inl ⟨⟨running, closedAfter, outward, ?_⟩, nofun⟩⟩
      refine ⟨⟨datas ++ [content], ByteArray.empty, ⟨noSends, rfl⟩, ?_, ?_⟩, received, nofun⟩
      · rw [queued, List.map_append, List.append_assoc]
        rfl
      · rw [joined_snoc, ByteArray.append_empty]
        exact split
  | refused cause refuses queue =>
      have passed : Passed fromPeer (joined traffic.written) traffic.read traffic.queued false
          false :=
        ⟨⟨_, outward.split⟩, datas, content, noEnding, split, nofun⟩
      have extended : before.Extends (relay.finish ops (.error cause)).channel.output
          ([] ++ relay.channel.output.closing) :=
        (Outbox.Extends.of_queue_eq queue).trans (finish_finished ops relay _).queued
      exact ⟨_, extended, .inr ⟨_, over_of_finish ops passed closedAfter nofun⟩⟩
  | waits ticket queue sends =>
      refine ⟨[], .of_queue_eq queue, .inl ⟨⟨running, closedAfter, outward, ?_⟩, nofun⟩⟩
      refine ⟨⟨datas, content, sends, ?_, split⟩, received, nofun⟩
      rw [List.append_nil]
      exact noEnding

theorem Flowing.inward_kept {relay : Relay σ} (flowing : Flowing fromPeer traffic wasClosed relay)
    (unfinished : ¬(relay.outbound = .finished ∧ relay.inbound = .finished)) :
    ∃ messages,
      relay.channel.output.Extends ((relay.stepIn? ops).getD relay).channel.output messages ∧
      Accounted fromPeer
        { traffic with
          read := traffic.read ++ relay.reads ops
          queued := traffic.queued ++ messages }
        wasClosed ((relay.stepIn? ops).getD relay) := by
  have inward := flowing.inward
  obtain ⟨datas, held, holds, queued, split⟩ := inward.split
  -- what waits for credit decides what the turn resumes
  have turn := stepIn_turn ops relay holds
  generalize relay.reads ops = read at turn ⊢
  generalize (relay.stepIn? ops).getD relay = after at turn ⊢
  cases turn with
  | idle =>
      refine ⟨[], .of_queue_eq rfl, .inl ⟨?_, unfinished⟩⟩
      rw [List.append_nil, List.append_nil]
      exact flowing
  | passed content target output sending reading attempted =>
      rw [reading] at holds queued
      have nothingHeld : held = ByteArray.empty := holds.2
      have splitAfter : joined datas ++ content = joined (traffic.read ++ [content]) := by
        rw [joined_snoc, ← split, nothingHeld, ByteArray.append_empty]
      have received : relay.received + content.size =
          (joined (traffic.read ++ [content])).size := by
        rw [joined_snoc, ByteArray.size_append, inward.received]
      exact afterSend_accounted ops { traffic with read := traffic.read ++ [content] }
        flowing.running flowing.closed flowing.outward (queued.trans (List.append_nil _)) splitAfter
        received attempted
  | resumed ticket output sending isSending attempted =>
      rw [isSending] at queued
      rw [List.append_nil]
      exact afterSend_accounted ops traffic flowing.running flowing.closed flowing.outward
        (queued.trans (List.append_nil _)) split inward.received attempted
  | ended target output reading attempted =>
      rw [reading] at holds queued
      have nothingHeld : held = ByteArray.empty := holds.2
      have sameBytes : joined (traffic.read ++ [ByteArray.empty]) = joined traffic.read := by
        rw [joined_snoc, ByteArray.append_empty]
      cases attempted.attempt with
      | queued credit isOpen _ queue noSends =>
          have finished : Flowing fromPeer
              { traffic with
                read := traffic.read ++ [ByteArray.empty]
                queued := traffic.queued ++ [.eof] }
              wasClosed
              { relay with
                target
                channel := { relay.channel with output }
                inbound := .finished } := by
            refine ⟨flowing.running, attempted.closed.trans flowing.closed, flowing.outward, ?_⟩
            refine ⟨⟨datas, ByteArray.empty, ⟨noSends, rfl⟩, ?_, ?_⟩, ?_, fun _ => ⟨?_, ?_⟩⟩
            · rw [queued, List.append_assoc]
              rfl
            · rw [sameBytes, ← split, nothingHeld]
            · rw [sameBytes]
              exact inward.received
            · exact List.getLast?_concat
            · exact attempted.closed.trans isOpen
          -- the end of the data may be the end of the tunnel, and then the close follows it
          obtain ⟨messages, extended, accounted⟩ := finished.settle ops
          have both : relay.channel.output.Extends _ ([.eof] ++ messages) :=
            (Outbox.Extends.of_push queue).trans extended
          refine ⟨_, both, ?_⟩
          rw [← List.append_assoc]
          exact accounted
  | broke read target cause reading nothing =>
      have sameBytes : joined (traffic.read ++ read) = joined traffic.read := by
        rw [joined_append, nothing, ByteArray.append_empty]
      have same : Flowing fromPeer { traffic with read := traffic.read ++ read } wasClosed
          { relay with target } := by
        refine { flowing with inward := ⟨⟨datas, held, holds, queued, ?_⟩, ?_, ?_⟩ }
        · rw [sameBytes]
          exact split
        · rw [sameBytes]
          exact inward.received
        · rw [reading]
          exact nofun
      have queued := (finish_finished ops { relay with target } (.error cause)).queued
      exact ⟨_, queued, .inr ⟨_, same.broken ops cause⟩⟩

/-! ### Every operation -/

/-- What the peer sends is there to be passed on. -/
theorem Outward.arrives {written : ByteArray} {outbound : Outbound} {sent : Nat}
    {input after : Inlet} (outward : Outward fromPeer written outbound sent input)
    (effect : Inlet.SenderEffect input after) :
    Outward (fromPeer ++ joined (Mailbox.newItems input.box after.box)) written outbound sent
      after := by
  refine ⟨?_, outward.sent, fun isFinished => ?_⟩
  · rw [effect.unread, ← outward.split]
    simp only [ByteArray.append_assoc]
  · obtain ⟨nothing, noSenders⟩ := outward.finished isFinished
    rw [effect.noSenders noSenders]
    exact ⟨nothing, noSenders⟩

/-- What the transport does leaves the account of the direction to the peer as it is. -/
theorem Inward.of_same {read : List ByteArray} {queued : List Message} {inbound : Inbound}
    {received : Nat} {output after : Outbox} (inward : Inward read queued inbound received output)
    (sends : after.sends = output.sends) (closed : after.closed = output.closed) :
    Inward read queued inbound received after := by
  refine ⟨?_, inward.received, ?_⟩
  · obtain ⟨datas, held, holds, isQueued, split⟩ := inward.split
    refine ⟨datas, held, ?_, isQueued, split⟩
    cases inbound with
    | reading | finished => exact ⟨sends.trans holds.1, holds.2⟩
    | sending ticket => exact sends.trans holds
  · rw [closed]
    exact inward.finished

theorem Flowing.step {relay : Relay σ} (flowing : Flowing fromPeer traffic wasClosed relay)
    (unfinished : ¬(relay.outbound = .finished ∧ relay.inbound = .finished)) (act : RelayAct σ) :
    Accounted (fromPeer ++ joined (relay.arrivedBy act)) (traffic.add (relay.seenBy ops act))
      wasClosed (relay.stepBy ops act) := by
  have running := flowing.running
  have isRunning : relay.result.isNone = true := Option.isNone_iff_eq_none.2 running
  have noArrival : fromPeer ++ joined [] = fromPeer := ByteArray.append_empty
  cases act with
  | outward =>
      have turn := flowing.outward_kept ops unfinished (stepOut_turn ops relay)
      rw [← stepBy_outward ops running] at turn
      obtain ⟨messages, extended, accounted⟩ := turn
      have seen : relay.seenBy ops .outward = ⟨[], relay.writes ops, [], messages⟩ := by
        simp only [seenBy, arrivedBy, writtenBy, readBy, queuedBy, isRunning, if_true,
          extended.newMessages]
      simp only [seen, arrivedBy, noArrival, Traffic.add, List.append_nil]
      exact accounted
  | inward =>
      have turn := flowing.inward_kept ops unfinished
      rw [← stepBy_inward ops running] at turn
      obtain ⟨messages, extended, accounted⟩ := turn
      have seen : relay.seenBy ops .inward = ⟨[], [], relay.reads ops, messages⟩ := by
        simp only [seenBy, arrivedBy, writtenBy, readBy, queuedBy, isRunning, if_true,
          extended.newMessages]
      simp only [seen, arrivedBy, noArrival, Traffic.add, List.append_nil]
      exact accounted
  | hangUp =>
      have turn : ∃ messages,
          relay.channel.output.Extends (relay.stepBy ops .hangUp).channel.output messages ∧
          Accounted fromPeer { traffic with queued := traffic.queued ++ messages } wasClosed
            (relay.stepBy ops .hangUp) := by
        rcases relay.stepBy_hangUp ops running with stays | ⟨-, ends⟩
        · rw [stays]
          refine ⟨[], .of_queue_eq rfl, .inl ⟨?_, unfinished⟩⟩
          rw [List.append_nil]
          exact flowing
        · rw [ends]
          exact ⟨_, (relay.finish_finished ops _).queued, .inr ⟨_, flowing.broken ops _⟩⟩
      obtain ⟨messages, extended, accounted⟩ := turn
      have seen : relay.seenBy ops .hangUp = ⟨[], [], [], messages⟩ := by
        simp only [seenBy, arrivedBy, writtenBy, readBy, queuedBy, extended.newMessages]
      simp only [seen, arrivedBy, noArrival, Traffic.add, List.append_nil]
      exact accounted
  | peer act =>
      have effect := relay.channel.input.step_sender_effect act
      have quiet : relay.queuedBy ops (.peer act) = [] := Outbox.newMessages_of_queue_eq rfl
      simp only [seenBy, quiet, writtenBy, readBy, Traffic.add, List.append_nil]
      exact .inl ⟨{ flowing with outward := flowing.outward.arrives effect }, unfinished⟩
  | transport act =>
      have effect := relay.channel.output.step_transport_effect act
      have noMessage : relay.queuedBy ops (.transport act) = [] := effect.quiet
      simp only [seenBy, noMessage, arrivedBy, noArrival, writtenBy, readBy, Traffic.add,
        List.append_nil]
      refine .inl ⟨{ flowing with closed := ?_, inward := ?_ }, unfinished⟩
      · exact effect.closed.trans flowing.closed
      · exact flowing.inward.of_same effect.sends effect.closed
  | target change =>
      have quiet : relay.queuedBy ops (.target change) = [] := Outbox.newMessages_of_queue_eq rfl
      simp only [seenBy, quiet, arrivedBy, noArrival, writtenBy, readBy, Traffic.add,
        List.append_nil]
      exact .inl ⟨{ flowing with }, unfinished⟩

/-- Nothing passes at a tunnel that is over, and it stays over in the same way. -/
theorem Over.step {relay : Relay σ} {outcome : Except Failure (Nat × Nat)}
    (isOver : Over fromPeer traffic wasClosed outcome relay) (act : RelayAct σ) :
    relay.seenBy ops act = {} ∧ Over fromPeer traffic wasClosed outcome (relay.stepBy ops act) := by
  have notRunning : relay.result.isNone = false := by rw [isOver.result]; rfl
  obtain ⟨ended, closed, passed, missing, complete⟩ := isOver.passed
  cases act with
  | outward | inward | hangUp =>
      have stays : ∀ next, relay.proceed next = relay := proceed_of_result isOver.result
      have quiet : ∀ next, Outbox.newMessages relay.channel.output
          (relay.proceed next).channel.output = [] :=
        fun next => by rw [stays, Outbox.newMessages_of_queue_eq rfl]
      refine ⟨?_, ?_⟩
      · simp only [seenBy, arrivedBy, writtenBy, readBy, queuedBy, stepBy, notRunning, quiet,
          Bool.false_eq_true, if_false]
      · rw [stepBy, stays]
        exact isOver
  | peer act =>
      -- the input was given up, so that nothing arrives any more
      have effect := relay.channel.input.step_sender_effect act
      have noArrival := effect.detached isOver.detached
      have detached := effect.attached.trans isOver.detached
      refine ⟨?_, isOver.result, isOver.closed, detached, ended, closed, passed, missing,
        fun counts isOk => ?_⟩
      · have quiet : relay.queuedBy ops (.peer act) = [] := Outbox.newMessages_of_queue_eq rfl
        simp only [seenBy, arrivedBy, writtenBy, readBy, quiet, noArrival]
      · obtain ⟨isEnded, wasOpen, everything⟩ := complete counts isOk
        refine ⟨isEnded, wasOpen, { everything with noSenders := ?_ }⟩
        show (relay.channel.input.stepOfSender act).box.senders = 0
        rw [effect.noSenders everything.noSenders]
        exact everything.noSenders
  | transport act =>
      have effect := relay.channel.output.step_transport_effect act
      refine ⟨?_, isOver.result, effect.closed.trans isOver.closed, isOver.detached, ended, closed,
        passed, fun notClosed => ?_, complete⟩
      · have quiet : relay.queuedBy ops (.transport act) = [] := effect.quiet
        simp only [seenBy, arrivedBy, writtenBy, readBy, quiet]
      · rcases missing notClosed with wasClosed | left
        · exact .inl wasClosed
        · refine .inr (Bool.eq_false_iff.2 fun isAttached => ?_)
          exact Bool.eq_false_iff.1 left (effect.attached isAttached)
  | target change =>
      have quiet : relay.queuedBy ops (.target change) = [] := Outbox.newMessages_of_queue_eq rfl
      refine ⟨?_, isOver.result, isOver.closed, isOver.detached, isOver.passed⟩
      simp only [seenBy, arrivedBy, writtenBy, readBy, quiet]

theorem Accounted.step {relay : Relay σ} (accounted : Accounted fromPeer traffic wasClosed relay)
    (act : RelayAct σ) :
    Accounted (fromPeer ++ joined (relay.arrivedBy act)) (traffic.add (relay.seenBy ops act))
      wasClosed (relay.stepBy ops act) := by
  rcases accounted with ⟨flowing, unfinished⟩ | ⟨outcome, isOver⟩
  · exact flowing.step ops unfinished act
  · obtain ⟨nothing, stays⟩ := isOver.step ops act
    have noArrival : relay.arrivedBy act = [] := congrArg Traffic.arrived nothing
    rw [nothing, noArrival, Traffic.add_nothing, joined, ByteArray.append_empty]
    exact .inr ⟨outcome, stays⟩

theorem accounted_at_start {channel : Channel} (target : σ)
    (soleWriter : channel.output.sends = []) :
    Accounted channel.input.unread {} channel.output.closed ({ channel, target } : Relay σ) := by
  refine .inl ⟨⟨rfl, rfl, ⟨?_, rfl, nofun⟩, ⟨⟨[], ByteArray.empty, ⟨soleWriter, rfl⟩, rfl, rfl⟩,
    rfl, nofun⟩⟩, nofun⟩
  show joined [] ++ (ByteArray.empty ++ channel.input.unread) = channel.input.unread
  rw [joined, ByteArray.empty_append, ByteArray.empty_append]

theorem accounted_run {channel : Channel} (target : σ) (soleWriter : channel.output.sends = [])
    (acts : List (RelayAct σ)) :
    let start : Relay σ := { channel, target }
    Accounted (channel.input.unread ++ joined (start.traffic ops acts).arrived)
      (start.traffic ops acts) channel.output.closed (start.runBy ops acts) := by
  intro start
  -- from the end of the run, since what was seen grows at its end
  induction acts using List.reverseRecOn with
  | nil =>
      have nothing : channel.input.unread ++ joined [] = channel.input.unread :=
        ByteArray.append_empty
      show Accounted (channel.input.unread ++ joined []) {} _ start
      rw [nothing]
      exact accounted_at_start target soleWriter
  | append_singleton acts act inductionHypothesis =>
      have kept := inductionHypothesis.step ops act
      rw [ByteArray.append_assoc, ← joined_append] at kept
      rw [traffic_snoc, runBy_append]
      exact kept

/-- What comes after the end changes nothing. -/
theorem Over.run {relay : Relay σ} {outcome : Except Failure (Nat × Nat)}
    (isOver : Over fromPeer traffic wasClosed outcome relay) (acts : List (RelayAct σ)) :
    relay.traffic ops acts = {} ∧
      Over fromPeer traffic wasClosed outcome (relay.runBy ops acts) := by
  induction acts generalizing relay with
  | nil => exact ⟨rfl, isOver⟩
  | cons act rest inductionHypothesis =>
      obtain ⟨nothing, stays⟩ := isOver.step ops act
      obtain ⟨nothingMore, isStill⟩ := inductionHypothesis stays
      refine ⟨?_, isStill⟩
      have split : relay.traffic ops (act :: rest) =
          (relay.seenBy ops act).add ((relay.stepBy ops act).traffic ops rest) := rfl
      rw [split, nothing, nothingMore]
      rfl

/-! ### What the account says -/

theorem Flowing.breaks {relay : Relay σ} (flowing : Flowing fromPeer traffic wasClosed relay)
    {act : RelayAct σ} {cause : Failure}
    (failed : (relay.stepBy ops act).result = some (.error cause)) : relay.Breaks ops cause := by
  have running := flowing.running
  cases act with
  | outward =>
      rw [stepBy_outward ops running] at failed
      exact (stepOut_turn ops relay).breaks ops running failed
  | inward =>
      obtain ⟨_, held, holds, -, -⟩ := flowing.inward.split
      rw [stepBy_inward ops running] at failed
      exact (stepIn_turn ops relay holds).breaks ops running failed
  | hangUp =>
      rcases relay.stepBy_hangUp ops running with stays | ⟨breaks, finishes⟩
      · rw [stays] at failed
        exact absurd failed (not_failed_of_running running)
      · rw [finishes] at failed
        obtain rfl := Except.error.inj (Option.some.inj failed)
        exact breaks
  | peer | transport | target => exact absurd failed (not_failed_of_running running)

/-- What the result of a tunnel says of what has passed. A close is missing only where nobody could
queue it. -/
def Tells (fromPeer : ByteArray) (traffic : Traffic) (wasClosed ended closed : Bool)
    (relay : Relay σ) : Prop :=
  match relay.result with
  | none => closed = false
  | some (.ok counts) =>
    ended = true ∧
      Complete fromPeer (joined traffic.written) traffic.read relay.channel.input.box.senders
        counts ∧
      (closed = true ∨ relay.channel.output.attached = false)
  | some (.error _) =>
    closed = true ∨ wasClosed = true ∨ relay.channel.output.attached = false

theorem Accounted.tells {relay : Relay σ} (accounted : Accounted fromPeer traffic wasClosed relay) :
    ∃ ended closed,
      Passed fromPeer (joined traffic.written) traffic.read traffic.queued ended closed ∧
        relay.Tells fromPeer traffic wasClosed ended closed := by
  unfold Tells
  rcases accounted with ⟨flowing, -⟩ | ⟨outcome, isOver⟩
  · refine ⟨_, false, flowing.passed, ?_⟩
    rw [flowing.running]
  · obtain ⟨ended, closed, passed, missing, complete⟩ := isOver.passed
    have closes : closed = true ∨ wasClosed = true ∨ relay.channel.output.attached = false := by
      cases closed with
      | true => exact .inl rfl
      | false => exact .inr (missing rfl)
    refine ⟨ended, closed, passed, ?_⟩
    rw [isOver.result]
    cases outcome with
    | error cause => exact closes
    | ok counts =>
        obtain ⟨isEnded, wasOpen, everything⟩ := complete counts rfl
        refine ⟨isEnded, everything, closes.imp_right fun other => ?_⟩
        exact other.resolve_left (Bool.eq_false_iff.1 wasOpen)

/-- A tunnel that has no result yet is one that runs. -/
theorem Accounted.flowing {relay : Relay σ} (accounted : Accounted fromPeer traffic wasClosed relay)
    (running : relay.result = none) :
    Flowing fromPeer traffic wasClosed relay ∧
      ¬(relay.outbound = .finished ∧ relay.inbound = .finished) := by
  rcases accounted with flowing | ⟨outcome, isOver⟩
  · exact flowing
  · rw [isOver.result] at running
    exact absurd running (Option.some_ne_none _)

/-- A tunnel that has a result is over. -/
theorem Accounted.isOver {relay : Relay σ} (accounted : Accounted fromPeer traffic wasClosed relay)
    {outcome : Except Failure (Nat × Nat)} (result : relay.result = some outcome) :
    Over fromPeer traffic wasClosed outcome relay := by
  rcases accounted with ⟨flowing, -⟩ | ⟨other, isOver⟩
  · rw [flowing.running] at result
    exact absurd result.symm (Option.some_ne_none _)
  · obtain rfl := Option.some.inj (isOver.result.symm.trans result)
    exact isOver

/-- A shutdown matters only after the target has taken everything there will ever be. -/
theorem Accounted.shutdown {relay : Relay σ}
    (accounted : Accounted fromPeer traffic wasClosed relay) {act : RelayAct σ}
    {shutdown : σ → σ × StreamAnswer Unit}
    (differs : relay.stepBy { ops with shutdown } act ≠ relay.stepBy ops act) :
    relay.channel.input.box.senders = 0 ∧ joined traffic.written = fromPeer := by
  obtain ⟨running, receiving, nothing, isEnded⟩ := asks_shutdown ops differs
  obtain ⟨noBytes, noSenders⟩ := Inlet.ended_of_nothing nothing isEnded
  have split := (accounted.flowing running).1.outward.split
  rw [receiving, noBytes] at split
  refine ⟨noSenders, ?_⟩
  rw [← split]
  exact ByteArray.append_empty.symm

/-- A direction that makes no step has ended before the other, or waits for its own two ends. -/
theorem Accounted.waits {relay : Relay σ} (accounted : Accounted fromPeer traffic wasClosed relay)
    (running : relay.result = none) :
    (relay.stepIn? ops = none →
        relay.inbound = .finished ∧ relay.outbound ≠ .finished ∨ relay.InWaits ops) ∧
      (relay.stepOut? ops = none →
        relay.outbound = .finished ∧ relay.inbound ≠ .finished ∨ relay.OutWaits ops) := by
  obtain ⟨flowing, unfinished⟩ := accounted.flowing running
  constructor
  · intro stuck
    obtain ⟨_, held, holds, -, -⟩ := flowing.inward.split
    rcases waits_of_stepIn ops holds stuck with inEnded | waits
    · exact .inl ⟨inEnded, fun outEnded => unfinished ⟨outEnded, inEnded⟩⟩
    · exact .inr waits
  · intro stuck
    rcases waits_of_stepOut ops stuck with outEnded | waits
    · exact .inl ⟨outEnded, fun inEnded => unfinished ⟨outEnded, inEnded⟩⟩
    · exact .inr waits

/-- Whatever the peer sends in whatever portions, whatever the target gives and takes, and in
whatever order the two directions go on: the target takes the first bytes of the peer, and the peer
is sent the first bytes of the target, the end of the data once the target has ended and was passed
on as a whole, and the close only at the end. The target is shut down only when it took everything
and nobody can send more. A direction goes on until it has ended, unless it waits for its own two
ends; that the other has ended does not stop it. A tunnel ends without a failure if everything has
passed both ways, which the counts then say; it fails only if its target or its output does, and
either way it is closed and nothing passes any more. What the tunnel does on its own is among all
this. -/
theorem passed_on_faithfully (channel : Channel) (target : σ)
    (soleWriter : channel.output.sends = []) (acts : List (RelayAct σ)) :
    let start : Relay σ := { channel, target }
    let relay := start.runBy ops acts
    let traffic := start.traffic ops acts
    let fromPeer := channel.input.unread ++ joined traffic.arrived
    (∃ ended closed,
      Passed fromPeer (joined traffic.written) traffic.read traffic.queued ended closed ∧
        relay.Tells fromPeer traffic channel.output.closed ended closed) ∧
      (∀ act shutdown, relay.stepBy { ops with shutdown } act ≠ relay.stepBy ops act →
        relay.channel.input.box.senders = 0 ∧ joined traffic.written = fromPeer) ∧
      (relay.result = none →
        (relay.stepIn? ops = none →
            relay.inbound = .finished ∧ relay.outbound ≠ .finished ∨ relay.InWaits ops) ∧
          (relay.stepOut? ops = none →
            relay.outbound = .finished ∧ relay.inbound ≠ .finished ∨ relay.OutWaits ops) ∧
          ∀ act cause, (relay.stepBy ops act).result = some (.error cause) →
            relay.Breaks ops cause) ∧
      (∀ outcome, relay.result = some outcome →
        relay.channel.output.closed = true ∧
          ∀ later, (relay.runBy ops later).result = some outcome ∧
            relay.traffic ops later = {}) ∧
      ∀ steps, ∃ own, relay.run ops steps = start.runBy ops (acts ++ own) := by
  intro start relay traffic fromPeer
  have accounted : Accounted fromPeer traffic channel.output.closed relay :=
    accounted_run ops target soleWriter acts
  refine ⟨accounted.tells, fun act shutdown differs => accounted.shutdown ops differs,
    fun running => ?_, fun outcome result => ?_, fun steps => ?_⟩
  · obtain ⟨inWaits, outWaits⟩ := accounted.waits ops running
    have flowing := (accounted.flowing running).1
    exact ⟨inWaits, outWaits, fun act cause failed => flowing.breaks ops failed⟩
  · have isOver := accounted.isOver result
    refine ⟨isOver.closed, fun later => ?_⟩
    obtain ⟨nothing, stays⟩ := isOver.run ops later
    exact ⟨stays.result, nothing⟩
  · obtain ⟨own, same⟩ := relay.exists_runBy_eq_run ops steps
    refine ⟨own, ?_⟩
    rw [runBy_append]
    exact same

/-- Three bytes one way and two the other, through pipes that hold two bytes. When all three are
written the target is shut down, and the direction to the peer goes on by itself. -/
theorem passed_on_faithfully_through_pipes :
    let channel : Channel := { channelType := "direct-tcpip" }
    let start : Relay PipePair := { channel, target := .ofCapacity 2 }
    let before : List (RelayAct PipePair) :=
      [.peer (.offer 0 ⟨#[97, 98, 99]⟩), .outward, .outward, .outward,
        .target (fun pair => { pair with outward := { pair.outward with content := .empty } }),
        .peer .dropSender, .outward, .outward]
    let half := before ++ [.outward]
    let acts := half ++ [.inward,
      .target (fun pair =>
        { pair with inward := { pair.inward with content := ⟨#[100, 101]⟩, closed := true } }),
      .inward, .inward]
    let shut := start.runBy PipePair.near before
    let halfOpen := start.runBy PipePair.near half
    let relay := start.runBy PipePair.near acts
    let traffic := start.traffic PipePair.near acts
    channel.output.sends = [] ∧
      (shut.channel.input.box.senders = 0 ∧
        joined (start.traffic PipePair.near before).written =
          channel.input.unread ++ joined (start.traffic PipePair.near before).arrived) ∧
      (start.traffic PipePair.near before).written = [⟨#[97, 98]⟩, ⟨#[99]⟩] ∧
      (halfOpen.outbound = .finished ∧ halfOpen.InWaits PipePair.near) ∧
      relay.result = some (.ok (3, 2)) ∧
      traffic.queued = [.data ⟨#[100, 101]⟩, .eof, .close] ∧
      relay.channel.output.closed = true ∧
      (relay.runBy PipePair.near [.peer .addSender, .outward]).result = some (.ok (3, 2)) := by
  intro channel start before half acts shut halfOpen relay traffic
  -- the states stay as runs, so that nothing evaluates them but the kernel
  unfold traffic relay halfOpen shut start
  have faithful := passed_on_faithfully PipePair.near channel (.ofCapacity 2) rfl
  have onceShut := (faithful before).2.1 .outward (fun pair => (pair, .pending))
    (fun same => absurd (congrArg Relay.outbound same) (by decide +kernel))
  have running : halfOpen.result = none := Option.isNone_iff_eq_none.1 (by decide +kernel)
  have outEnded : halfOpen.outbound = .finished := by decide +kernel
  have stuck : halfOpen.stepIn? PipePair.near = none :=
    Option.isNone_iff_eq_none.1 (by decide +kernel)
  have waits := (((faithful half).2.2.1 running).1 stuck).resolve_left
    fun inEnded => inEnded.2 outEnded
  have counted : relay.result.bind Except.toOption = some (3, 2) := by decide +kernel
  have isOver : relay.result = some (.ok (3, 2)) := by
    obtain ⟨outcome, result, isOk⟩ := Option.bind_eq_some_iff.1 counted
    cases outcome with
    | error cause => exact nomatch isOk
    | ok counts =>
        obtain rfl := Option.some.inj isOk
        exact result
  have ended := (faithful acts).2.2.2.1 (.ok (3, 2)) isOver
  exact ⟨rfl, onceShut, by decide +kernel, ⟨outEnded, waits⟩, isOver, by decide +kernel, ended.1,
    (ended.2 [.peer .addSender, .outward]).1⟩

end Relay

end SshServer
