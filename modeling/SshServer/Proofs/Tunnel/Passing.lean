import SshServer.Proofs.Output.Window
import SshServer.Proofs.Tunnel.Departure

/-!
Contract: what one turn of a tunnel passes on, whoever else writes to its channel.

Owns: what a target may give; what becomes of an attempt to send among others; that a turn keeps the
ledger of the window, and queues what was read or holds it back; and how far a turn brings the
target.
Does not own: what follows for a whole run (`Proofs.Tunnel.Pressure`), and turns of a tunnel that
writes alone (`Proofs.Tunnel.Run`).
-/

namespace SshServer

/-- A target gives no more than it is asked for. -/
def TargetOps.ReadsWithin {σ : Type} (ops : TargetOps σ) : Prop :=
  ∀ count before after content, ops.read count before = (after, .ready content) →
    content.size ≤ count

theorem PipePair.near_readsWithin : PipePair.near.ReadsWithin := by
  intro count before after content given
  have read : (before.inward.read count).2 = .ready content := congrArg Prod.snd given
  unfold Pipe.read at read
  split at read
  · split at read
    · obtain rfl := StreamAnswer.ready.inj read
      exact Nat.zero_le count
    · exact nomatch read
  · obtain rfl := StreamAnswer.ready.inj read
    rw [ByteArray.size_extract]
    omega

theorem Pipe.read_whole {pipe : Pipe} {count : Nat} (something : pipe.content.size ≠ 0)
    (fits : pipe.content.size ≤ count) :
    pipe.read count = ({ pipe with content := ByteArray.empty }, .ready pipe.content) := by
  have nothing : pipe.content.extract count pipe.content.size = ByteArray.empty :=
    ByteArray.size_eq_zero_iff.1 (by rw [ByteArray.size_extract]; omega)
  have whole := extract_append_rest pipe.content count
  rw [nothing, ByteArray.append_empty] at whole
  rw [Pipe.read, if_neg something, nothing, whole]

namespace Outbox

/-! ### Attempts to send among others -/

/-- What becomes of a message that somebody attempts to send, whoever else waits. -/
inductive Fares (before after : Outbox) (message : Message) : Sending → Prop where
  | queued (grown : Extends before after [message]) : Fares before after message (.done (.ok ()))
  | refused (cause : Failure) (queue : after.queue = before.queue) :
      Fares before after message (.done (.error cause))
  | waits (ticket : Nat) (queue : after.queue = before.queue)
      (member : (ticket, message) ∈ after.sends) : Fares before after message (.waiting ticket)

theorem push_fares {before box : Outbox} (message : Message) (credit : Nat)
    (queue : box.queue = before.queue) :
    Fares before (box.push message credit).1 message (.done (box.push message credit).2) := by
  unfold push
  split
  · exact .refused _ queue
  · split
    · have grown : box.queue.push (message, credit) = before.queue.push (message, credit) := by
        rw [queue]
      exact .queued (.of_push grown)
    · exact .refused _ queue

theorem send_fares (box : Outbox) (message : Message) :
    Fares box (box.send message).1 message (box.send message).2 := by
  unfold send
  split
  · exact .refused _ rfl
  · split
    · exact .refused _ rfl
    · exact push_fares message _ rfl
    · exact .waits _ rfl (List.mem_append_right _ (List.mem_singleton_self _))

theorem resume_fares {box : Outbox} {ticket : Nat} {message : Message}
    (found : box.sends.lookup ticket = some message) :
    Fares box (box.resume ticket).1 message (box.resume ticket).2 := by
  unfold resume
  rw [found]
  dsimp only
  split
  · exact .waits ticket rfl (mem_of_lookup found)
  · exact .refused _ rfl
  · exact push_fares message _ rfl

/-! ### Tickets of sends -/

/-- No poll waits under a ticket. -/
def Unpolled (box : Outbox) (ticket : Nat) : Prop :=
  ∀ entry ∈ box.polls, entry.2.ticket ≠ ticket

@[simp] theorem push_polls (box : Outbox) (message : Message) (credit : Nat) :
    (box.push message credit).1.polls = box.polls := by
  unfold push
  split
  · rfl
  · split <;> rfl

@[simp] theorem close_polls (box : Outbox) : box.close.1.polls = box.polls := by
  unfold close
  split
  · rfl
  · split <;> rfl

@[simp] theorem resume_polls (box : Outbox) (ticket : Nat) :
    (box.resume ticket).1.polls = box.polls := by
  unfold resume
  split
  · rfl
  · split
    · rfl
    · rfl
    · exact push_polls _ _ _

theorem Ledger.unpolled {box : Outbox} {ticket : Nat} (ledger : Ledger box 0)
    (awaits : box.Awaits ticket) : box.Unpolled ticket := by
  obtain ⟨message, member⟩ := awaits
  have distinct := ledger.distinct
  rw [demands, List.map_append, List.nodup_append] at distinct
  have amongSends : ticket ∈ (box.sends.map fun entry => (entry.1, entry.2.cost)).map Prod.fst :=
    List.mem_map.2 ⟨(ticket, message.cost), List.mem_map.2 ⟨(ticket, message), member, rfl⟩, rfl⟩
  intro entry polls same
  refine distinct.2.2 ticket amongSends entry.2.ticket ?_ same.symm
  exact List.mem_map.2 ⟨(entry.2.ticket, entry.2.amount), List.mem_map_of_mem polls, rfl⟩

/-- A ticket of which there is one send has one message. -/
theorem Ledger.lookup {box : Outbox} {ticket : Nat} {message : Message} (ledger : Ledger box 0)
    (member : (ticket, message) ∈ box.sends) : box.sends.lookup ticket = some message := by
  have distinct := ledger.distinct
  rw [demands, List.map_append, List.nodup_append, List.map_map] at distinct
  obtain ⟨other, found⟩ := Awaits.exists_lookup ⟨message, member⟩
  have inside := mem_of_lookup found
  have same := List.inj_on_of_nodup_map distinct.1 member inside rfl
  rw [found, (Prod.mk.inj same).2]

/-- A send may be given up that is no longer there. -/
theorem Ledger.cancelSend {box : Outbox} {ticket : Nat} (ledger : Ledger box 0)
    (unpolled : box.Unpolled ticket) : Ledger (box.cancel ticket) 0 := by
  suffices asked : (box.cancel ticket).demands =
      box.demands.filter fun demand => demand.1 != ticket from
    ledger.giveUp asked ledger.pollers rfl rfl rfl rfl rfl
  have stay : ∀ demand ∈ box.polls.map (fun entry => (entry.2.ticket, entry.2.amount)),
      (demand.1 != ticket) = true := by
    intro demand member
    obtain ⟨entry, polls, rfl⟩ := List.mem_map.1 member
    exact bne_iff_ne.2 (unpolled entry polls)
  rw [demands, demands, List.filter_append, List.filter_eq_self.2 stay, Outbox.cancel, forgetSend,
    List.filter_map]
  rfl

end Outbox

namespace Relay

variable {σ : Type} (ops : TargetOps σ)

/-! ### What is passed on to the peer -/

def bytesOf (messages : List Message) : Nat :=
  (messages.map fun message => message.content.size).sum

/-- The bytes of the messages that the tunnel queued. -/
def ownBytes (line : List (Message × Bool)) : Nat :=
  (line.map fun entry => if entry.2 then entry.1.content.size else 0).sum

theorem bytesOf_append (first later : List Message) :
    bytesOf (first ++ later) = bytesOf first + bytesOf later := by
  rw [bytesOf, List.map_append, List.sum_append, bytesOf, bytesOf]

theorem ownBytes_append (first later : List (Message × Bool)) :
    ownBytes (first ++ later) = ownBytes first + ownBytes later := by
  rw [ownBytes, List.map_append, List.sum_append, ownBytes, ownBytes]

theorem ownBytes_of_own (messages : List Message) :
    ownBytes (messages.map (·, true)) = bytesOf messages := by
  rw [ownBytes, List.map_map]
  rfl

theorem ownBytes_of_others (messages : List Message) :
    ownBytes (messages.map (·, false)) = 0 := by
  rw [ownBytes, List.map_map]
  induction messages with
  | nil => rfl
  | cons message rest inductionHypothesis =>
      rw [List.map_cons, List.sum_cons, inductionHypothesis]
      rfl

/-- Messages that carry nothing are no bytes of anybody. -/
theorem ownBytes_of_empty {messages : List Message} {mark : Bool}
    (empty : mark = true → ∀ message ∈ messages, message.content.size = 0) :
    ownBytes (messages.map (·, mark)) = 0 := by
  cases mark with
  | false => exact ownBytes_of_others messages
  | true =>
      rw [ownBytes_of_own, bytesOf, List.sum_eq_zero_iff]
      intro size member
      obtain ⟨message, inside, rfl⟩ := List.mem_map.1 member
      exact empty rfl message inside

theorem bytesOf_closing (box : Outbox) : bytesOf box.closing = 0 := by
  unfold Outbox.closing
  split <;> rfl

/-- The portion that was read before and waits for credit, if one does, whoever else waits. -/
def Owes (relay : Relay σ) (held : ByteArray) : Prop :=
  match relay.inbound with
  | .sending ticket => (ticket, .data held) ∈ relay.channel.output.sends
  | .reading | .finished => held = ByteArray.empty

theorem Owes.unpolled {relay : Relay σ} {held : ByteArray} (owes : relay.Owes held)
    (ledger : Outbox.Ledger relay.channel.output 0) :
    ∀ ticket, relay.inbound = .sending ticket → relay.channel.output.Unpolled ticket := by
  intro ticket isSending
  rw [Owes, isSending] at owes
  exact ledger.unpolled ⟨_, owes⟩

/-- What a turn does for the peer: what was held before and what is read now is queued in portions,
or still held. What a tunnel holds when it ends is lost. -/
structure PassesOn (before after : Relay σ) (held : ByteArray) (read : List ByteArray) : Prop where
  ledger : Outbox.Ledger after.channel.output 0
  attached : after.channel.output.attached = before.channel.output.attached
  passed : ∃ messages rest, before.channel.output.Extends after.channel.output messages ∧
    (∀ message ∈ messages, message.content.size ≤ copyBuffer) ∧ rest.size ≤ copyBuffer ∧
    held.size + (joined read).size = bytesOf messages + rest.size ∧
    (after.result = none → after.Owes rest)

variable {ops}

theorem finish_ledger {relay : Relay σ} (ledger : Outbox.Ledger relay.channel.output 0)
    (unpolled : ∀ ticket, relay.inbound = .sending ticket → relay.channel.output.Unpolled ticket)
    (outcome : Except Failure (Nat × Nat)) :
    Outbox.Ledger (relay.finish ops outcome).channel.output 0 := by
  have output : (relay.finish ops outcome).channel.output =
      (relay.withoutSend relay.channel.output.close.1).dropWriter := rfl
  rw [output]
  suffices Outbox.Ledger (relay.withoutSend relay.channel.output.close.1) 0 from { this with }
  unfold withoutSend
  split
  next ticket isSending =>
    apply ledger.close.cancelSend
    rw [Outbox.Unpolled, Outbox.close_polls]
    exact unpolled ticket isSending
  · exact ledger.close

/-- A turn that ends the tunnel loses what is held. -/
theorem passesOn_finish (before middle : Relay σ) {held rest : ByteArray} {read : List ByteArray}
    {messages : List Message} (ledger : Outbox.Ledger middle.channel.output 0)
    (attached : middle.channel.output.attached = before.channel.output.attached)
    (unpolled : ∀ ticket, middle.inbound = .sending ticket → middle.channel.output.Unpolled ticket)
    (grown : before.channel.output.Extends middle.channel.output messages)
    (portions : ∀ message ∈ messages, message.content.size ≤ copyBuffer)
    (small : rest.size ≤ copyBuffer)
    (sum : held.size + (joined read).size = bytesOf messages + rest.size)
    (outcome : Except Failure (Nat × Nat)) :
    PassesOn before (middle.finish ops outcome) held read := by
  have finished := middle.finish_finished ops outcome
  refine ⟨finish_ledger ledger unpolled outcome, finished.attached.trans attached,
    messages ++ middle.channel.output.closing, rest, grown.trans finished.queued, ?_, small, ?_,
    nofun⟩
  · intro message member
    rcases List.mem_append.1 member with before | closes
    · exact portions message before
    · unfold Outbox.closing at closes
      split at closes
      · rw [List.mem_singleton.1 closes]
        exact Nat.zero_le _
      · exact absurd closes List.not_mem_nil
  · rw [bytesOf_append, bytesOf_closing]
    exact sum

/-- A portion is queued, waits for credit, or is lost with the tunnel. -/
theorem passesOn_afterSend (before middle : Relay σ) {held content : ByteArray}
    {read : List ByteArray} {sending : Outbox.Sending}
    (ledger : Outbox.Ledger middle.channel.output 0)
    (attached : middle.channel.output.attached = before.channel.output.attached)
    (unpolled : ∀ ticket, middle.inbound = .sending ticket → middle.channel.output.Unpolled ticket)
    (fares : before.channel.output.Fares middle.channel.output (.data content) sending)
    (small : content.size ≤ copyBuffer) (sum : held.size + (joined read).size = content.size) :
    PassesOn before (middle.afterSend ops sending) held read := by
  have nothing : held.size + (joined read).size = bytesOf [] + content.size :=
    sum.trans (Nat.zero_add _).symm
  cases fares with
  | queued grown =>
      refine ⟨ledger, attached, [.data content], ByteArray.empty, grown, ?_, Nat.zero_le _, sum,
        fun _ => rfl⟩
      intro message member
      rw [List.mem_singleton.1 member]
      exact small
  | refused cause queue =>
      exact passesOn_finish before middle ledger attached unpolled (.of_queue_eq queue)
        (List.forall_mem_nil _) small nothing _
  | waits ticket queue member =>
      exact ⟨ledger, attached, [], content, .of_queue_eq queue, List.forall_mem_nil _, small,
        nothing, fun _ => member⟩

theorem passesOn_of_same {before after : Relay σ} {held : ByteArray} {read : List ByteArray}
    (output : after.channel.output = before.channel.output)
    (inbound : after.inbound = before.inbound)
    (ledger : Outbox.Ledger before.channel.output 0) (owes : before.Owes held)
    (small : held.size ≤ copyBuffer) (silent : joined read = ByteArray.empty) :
    PassesOn before after held read := by
  refine ⟨output ▸ ledger, by rw [output], [], held, .of_queue_eq (by rw [output]),
    List.forall_mem_nil _, small, ?_, fun _ => ?_⟩
  · rw [silent]
    exact Nat.add_comm _ _
  · rw [Owes, inbound, output]
    exact owes

/-- The target has ended, and the peer is told so: nothing is held by then. -/
theorem passesOn_settle (before middle : Relay σ) {messages : List Message}
    {read : List ByteArray} (ledger : Outbox.Ledger middle.channel.output 0)
    (attached : middle.channel.output.attached = before.channel.output.attached)
    (grown : before.channel.output.Extends middle.channel.output messages)
    (empty : ∀ message ∈ messages, message.content.size = 0)
    (silent : joined read = ByteArray.empty) {held : ByteArray} (owes : middle.Owes held)
    (small : held.size ≤ copyBuffer) :
    PassesOn before (middle.settle ops) held read := by
  have nothing : bytesOf messages = 0 := by
    rw [bytesOf, List.sum_eq_zero_iff]
    intro size member
    obtain ⟨message, inside, rfl⟩ := List.mem_map.1 member
    exact empty message inside
  have portions : ∀ message ∈ messages, message.content.size ≤ copyBuffer := fun message member =>
    (empty message member).symm ▸ Nat.zero_le _
  have sum : held.size + (joined read).size = bytesOf messages + held.size := by
    rw [nothing, silent]
    exact Nat.add_comm _ _
  rcases middle.settle_cases ops with ⟨-, -, finishes⟩ | ⟨-, stays⟩
  · rw [finishes]
    exact passesOn_finish before middle ledger attached (owes.unpolled ledger) grown portions
      small sum _
  · rw [stays]
    exact ⟨ledger, attached, messages, held, grown, portions, small, sum, fun _ => owes⟩

theorem OutTurn.passesOn {before after : Relay σ} {written : List ByteArray} {held : ByteArray}
    (turn : OutTurn ops before written after) (ledger : Outbox.Ledger before.channel.output 0)
    (owes : before.Owes held) (small : held.size ≤ copyBuffer) :
    PassesOn before after held [] := by
  cases turn with
  | idle | took | wrote | through => exact passesOn_of_same rfl rfl ledger owes small rfl
  | ended target =>
      exact passesOn_settle before { before with target, outbound := .finished } ledger rfl
        (.of_queue_eq rfl) (List.forall_mem_nil _) rfl owes small
  | broke _ target =>
      exact passesOn_finish before { before with target } ledger rfl (owes.unpolled ledger)
        (.of_queue_eq rfl) (List.forall_mem_nil _) small (Nat.add_comm _ _) _

theorem passesOn_forward (relay : Relay σ) {content : ByteArray}
    (reading : relay.inbound = .reading) (ledger : Outbox.Ledger relay.channel.output 0)
    (small : content.size ≤ copyBuffer) (target : σ) :
    PassesOn relay (({ relay with target } : Relay σ).forward ops content) ByteArray.empty
      [content] := by
  have notSending : ∀ ticket, relay.inbound ≠ .sending ticket := by
    rw [reading]
    exact nofun
  have whole : ByteArray.empty.size + (joined [content]).size = content.size := by
    rw [joined, joined, ByteArray.append_empty]
    exact Nat.zero_add _
  unfold forward
  split
  next nothing =>
    obtain rfl := ByteArray.size_eq_zero_iff.1 nothing
    have fares : Outbox.Fares relay.channel.output (relay.channel.output.push .eof 0).1 .eof
        (.done (relay.channel.output.push .eof 0).2) := Outbox.push_fares .eof 0 rfl
    have supply := relay.channel.output.push_supply .eof 0
    have kept : Outbox.Ledger (relay.channel.output.push .eof 0).1 0 := ledger.push rfl
    split
    next output queued =>
      rw [show relay.channel.output.push .eof 0 = (output, .ok ()) from queued] at fares supply kept
      cases fares with
      | queued grown =>
          refine passesOn_settle relay _ kept supply.attached grown ?_ rfl rfl (Nat.zero_le _)
          exact fun message member => List.mem_singleton.1 member ▸ rfl
    next output cause failed =>
      rw [show relay.channel.output.push .eof 0 = (output, .error cause) from failed]
        at fares supply kept
      cases fares with
      | refused _ queue =>
          exact passesOn_finish relay
            { relay with target, channel := { relay.channel with output } }
            kept supply.attached (fun ticket isSending => absurd isSending (notSending ticket))
            (.of_queue_eq queue) (List.forall_mem_nil _) (Nat.zero_le _) rfl _
  · exact passesOn_afterSend relay _ (ledger.send _) (relay.channel.output.send_supply _).attached
      (fun ticket isSending => absurd isSending (notSending ticket))
      (relay.channel.output.send_fares _) small whole

/-- The send of the portion that is held goes on. -/
theorem passesOn_resumed {relay : Relay σ} {held : ByteArray} {read : List ByteArray}
    {ticket : Nat} {output : Outbox} {sending : Outbox.Sending}
    (ledger : Outbox.Ledger relay.channel.output 0) (owes : relay.Owes held)
    (small : held.size ≤ copyBuffer) (phase : relay.inbound = .sending ticket)
    (resumed : relay.channel.output.resume ticket = (output, sending))
    (noRead : joined read = ByteArray.empty) :
    PassesOn relay
      ({ relay with channel := { relay.channel with output } }.afterSend ops sending)
      held read := by
  have unpolled := owes.unpolled ledger
  have member : (ticket, .data held) ∈ relay.channel.output.sends := by
    rw [Owes, phase] at owes
    exact owes
  have fares := Outbox.resume_fares (ledger.lookup member)
  have kept := ledger.resume ticket
  have supply := relay.channel.output.resume_supply ticket
  have polls := relay.channel.output.resume_polls ticket
  rw [resumed] at fares kept supply polls
  refine passesOn_afterSend relay _ kept supply.attached (fun other isSending => ?_) fares small ?_
  · rw [Outbox.Unpolled, show output.polls = relay.channel.output.polls from polls]
    exact unpolled other isSending
  · rw [noRead]
    rfl

theorem stepIn_passesOn (within : ops.ReadsWithin) {relay : Relay σ} {held : ByteArray}
    (ledger : Outbox.Ledger relay.channel.output 0) (owes : relay.Owes held)
    (small : held.size ≤ copyBuffer) :
    PassesOn relay ((relay.stepIn? ops).getD relay) held (relay.reads ops) := by
  have silent (phase : relay.reads ops = []) : joined (relay.reads ops) = ByteArray.empty := by
    rw [phase]
    rfl
  unfold stepIn?
  split
  next phase =>
    exact passesOn_of_same rfl rfl ledger owes small (silent (by simp only [reads, phase]))
  next phase =>
    have nothing : held = ByteArray.empty := by
      rw [Owes, phase] at owes
      exact owes
    subst nothing
    split
    next target content ready =>
      have given : relay.reads ops = [content] := by simp only [reads, phase, ready]
      rw [given]
      exact passesOn_forward relay phase ledger (within _ _ _ _ ready) target
    next target cause failed =>
      have noRead := silent (by simp only [reads, phase, failed])
      refine passesOn_finish relay { relay with target } ledger rfl (owes.unpolled ledger)
        (.of_queue_eq rfl) (List.forall_mem_nil _) small ?_ _
      rw [noRead]
      rfl
    next target waits =>
      have noRead := silent (by simp only [reads, phase, waits])
      split
      · exact passesOn_of_same rfl rfl ledger owes small noRead
      · refine passesOn_finish relay relay ledger rfl (owes.unpolled ledger) (.of_queue_eq rfl)
          (List.forall_mem_nil _) small ?_ _
        rw [noRead]
        rfl
  next ticket phase =>
    have noRead := silent (by simp only [reads, phase])
    split
    · exact passesOn_of_same rfl rfl ledger owes small noRead
    next output sending _ resumed =>
      exact passesOn_resumed ledger owes small phase resumed noRead

/-! ### What is taken for the target -/

/-- At most one of the chunks that were taken has not been written in full. -/
def OneBehind (picked written : List ByteArray) : Prop :=
  ∃ through current part left, picked = through ++ current ∧ current.length ≤ 1 ∧
    joined written = joined through ++ part ∧ part ++ left = joined current

/-- How far the target is with the chunks that were taken for it. -/
def Fed (picked written : List ByteArray) : Outbound → Prop
  | .writing chunk done => ∃ through, picked = through ++ [chunk] ∧
      joined written = joined through ++ chunk.extract 0 done
  | .receiving | .finished => joined written = joined picked

theorem Fed.oneBehind {picked written : List ByteArray} {outbound : Outbound}
    (fed : Fed picked written outbound) : OneBehind picked written := by
  have level (same : joined written = joined picked) : OneBehind picked written :=
    ⟨picked, [], ByteArray.empty, ByteArray.empty, (List.append_nil _).symm, Nat.zero_le _,
      by rw [same, ByteArray.append_empty], rfl⟩
  cases outbound with
  | receiving | finished => exact level fed
  | writing chunk done =>
      obtain ⟨through, split, soFar⟩ := fed
      refine ⟨through, [chunk], chunk.extract 0 done, chunk.extract done chunk.size, split,
        Nat.le_refl _, soFar, ?_⟩
      rw [joined, joined, ByteArray.append_empty, extract_append_rest]

/-- The chunk that a turn of the direction to the target takes. -/
def picks (relay : Relay σ) : List ByteArray :=
  match relay.outbound with
  | .receiving => (relay.channel.input.take?.map Prod.fst).toList
  | .writing _ _ | .finished => []

theorem finish_outbound (relay : Relay σ) (outcome : Except Failure (Nat × Nat)) :
    (relay.finish ops outcome).outbound = relay.outbound :=
  rfl

theorem settle_outbound (relay : Relay σ) : (relay.settle ops).outbound = relay.outbound := by
  rcases relay.settle_cases ops with ⟨-, -, finishes⟩ | ⟨-, stays⟩
  · rw [finishes]
    rfl
  · rw [stays]

theorem Fed.wrote {picked written : List ByteArray} {chunk : ByteArray} {done : Nat} (count : Nat)
    (fed : Fed picked written (.writing chunk done)) :
    Fed picked (written ++ [chunk.extract done (done + count)])
      (.writing chunk (done + count)) := by
  obtain ⟨through, split, soFar⟩ := fed
  refine ⟨through, split, ?_⟩
  rw [joined_snoc, soFar, ByteArray.append_assoc, ByteArray.extract_append_extract,
    Nat.max_eq_right (Nat.le_add_right done count), Nat.min_eq_left (Nat.zero_le done)]

section StepOut

variable {relay : Relay σ} {picked written : List ByteArray}

variable (ops) in
theorem stepOut_fed_of_receiving (phase : relay.outbound = .receiving)
    (fed : Fed picked written relay.outbound) :
    Fed (picked ++ relay.picks) (written ++ relay.writes ops)
      ((relay.stepOut? ops).getD relay).outbound := by
  have noWrite : relay.writes ops = [] := by simp only [writes, phase]
  have level : joined written = joined picked := by
    rw [phase] at fed
    exact fed
  rw [noWrite, List.append_nil]
  simp only [stepOut?, phase]
  split
  next chunk input taken =>
    have isPicked : relay.picks = [chunk] := by simp only [picks, phase, taken]; rfl
    rw [isPicked]
    refine ⟨picked, rfl, ?_⟩
    rw [level, ByteArray.extract_same, ByteArray.append_empty]
  next nothing =>
    have noPick : relay.picks = [] := by simp only [picks, phase, nothing]; rfl
    rw [noPick, List.append_nil]
    split
    · split
      · exact fed
      · rw [Option.getD_some, finish_outbound]
        exact level
      · rw [Option.getD_some, settle_outbound]
        exact level
    · exact fed

variable (ops) in
theorem stepOut_fed_of_writing {chunk : ByteArray} {done : Nat}
    (phase : relay.outbound = .writing chunk done) (fed : Fed picked written relay.outbound) :
    Fed (picked ++ relay.picks) (written ++ relay.writes ops)
      ((relay.stepOut? ops).getD relay).outbound := by
  have noPick : relay.picks = [] := by simp only [picks, phase]
  rw [noPick, List.append_nil]
  simp only [stepOut?, phase]
  split
  next more =>
    split
    next waits =>
      have noWrite : relay.writes ops = [] := by simp only [writes, phase, more, if_true, waits]
      rw [noWrite, List.append_nil]
      exact fed
    next failed =>
      have noWrite : relay.writes ops = [] := by simp only [writes, phase, more, if_true, failed]
      rw [noWrite, List.append_nil, Option.getD_some, finish_outbound]
      rw [phase] at fed
      exact fed
    next target count ready =>
      have isWritten : relay.writes ops = [chunk.extract done (done + count)] := by
        simp only [writes, phase, more, if_true, ready]
      rw [isWritten]
      rw [phase] at fed
      have further := fed.wrote count
      split
      next isZero =>
        subst isZero
        rw [Option.getD_some, finish_outbound]
        exact further
      · exact further
  next whole =>
    have noWrite : relay.writes ops = [] := by simp only [writes, phase, whole, if_false]
    rw [noWrite, List.append_nil]
    rw [phase] at fed
    obtain ⟨through, split, soFar⟩ := fed
    have nothing : chunk.extract done chunk.size = ByteArray.empty :=
      ByteArray.size_eq_zero_iff.1 (by rw [ByteArray.size_extract]; omega)
    have all := extract_append_rest chunk done
    rw [nothing, ByteArray.append_empty] at all
    show joined written = joined picked
    rw [soFar, split, joined_snoc, all]

variable (ops) in
theorem stepOut_fed (fed : Fed picked written relay.outbound) :
    Fed (picked ++ relay.picks) (written ++ relay.writes ops)
      ((relay.stepOut? ops).getD relay).outbound := by
  cases phase : relay.outbound with
  | finished =>
      have nothing : relay.picks = [] ∧ relay.writes ops = [] := by
        simp only [picks, writes, phase, and_self]
      rw [nothing.1, nothing.2, List.append_nil, List.append_nil]
      simp only [stepOut?, phase]
      exact fed
  | receiving => exact stepOut_fed_of_receiving ops phase fed
  | writing chunk done => exact stepOut_fed_of_writing ops phase fed

end StepOut

end Relay

end SshServer
