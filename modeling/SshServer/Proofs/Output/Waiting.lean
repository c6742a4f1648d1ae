import SshServer.Proofs.Output.Delivery
import SshServer.Proofs.Output.Line
import SshServer.Proofs.Output.Window

/-!
Contract: sends that wait for credit, and behind what they do.

Owns: the settled states of an output; what can be done with a closed output; the credit that sends
spend which go on after the close; how sends end that waited at the close; and that nobody waits
behind an empty queue, unless for credit that was spent.
Does not own: the line of those who wait (`Proofs.Output.Line`), and the window of an output that is
open (`Proofs.Output.Window`).

A send that goes on takes up its credit first and then finds the channel closed. It fails, and
nobody gives its credit back: neither the send itself, nor the transport, which is not given a
message for it.
-/

namespace SshServer.Outbox

/-- No send that waits can go on. -/
def Settled (box : Outbox) : Prop :=
  ∀ entry ∈ box.sends, ∃ ticket, (box.resume entry.1).2 = .waiting ticket

/-- The message of a send that goes on with its credit and finds the channel closed. -/
def spentBy (box : Outbox) : OutputAct → List Message
  | .stream (.resume ticket) =>
    match box.sends.lookup ticket, (box.resume ticket).2 with
    | some message, .done (.error .streamClosed) => [message]
    | _, _ => []
  | _ => []

/-- The messages of all sends of a run that went on with their credit and found the channel
closed. -/
def spentIn (box : Outbox) (acts : List OutputAct) : List Message :=
  observed step spentBy box acts

/-- The credit that messages take. -/
def creditFor (messages : List Message) : Nat :=
  (messages.map Message.cost).sum

/-! ### Closed outputs -/

/-- What can be done with a closed output that the transport still takes from. -/
inductive ClosedStep (box : Outbox) : OutputAct → OutputAnswer → Outbox → Prop where
  | idle {act : OutputAct} {answer : OutputAnswer} {after : Outbox}
      (credit : after.credit = box.credit) (sends : after.sends = box.sends)
      (queue : after.queue = box.queue) (spent : box.spentBy act = []) :
      ClosedStep box act answer after
  /-- A send goes on, and fails. -/
  | failed {ticket : Nat} {message : Message} {credit : Credit}
      (waits : box.sends.lookup ticket = some message)
      (granted : box.credit.resume ticket = (credit, .granted)) :
      ClosedStep box (.stream (.resume ticket)) (.sending (.done (.error .streamClosed)))
        { box.forgetSend ticket with credit }
  | cancelled {ticket : Nat} {message : Message}
      (waits : box.sends.lookup ticket = some message) :
      ClosedStep box (.stream (.cancel ticket)) .nothing (box.cancel ticket)
  | pollGivenUp {writer ticket : Nat} {after : Outbox}
      (credit : after.credit = box.credit.cancel ticket) (sends : after.sends = box.sends)
      (queue : after.queue = box.queue) :
      ClosedStep box (.stream (.dropPoll writer)) .nothing after
  | taken {message : Message} {after : Outbox} (taken : box.take? = some (message, after)) :
      ClosedStep box (.stream .take) (.received (some message)) after

theorem pollWrite_of_closed {box : Outbox} (isClosed : box.closed = true) (writer : Nat)
    (code : Option UInt32) (content : ByteArray) : (box.pollWrite writer code content).1 = box := by
  unfold pollWrite
  rw [if_pos isClosed]
  split
  · rfl
  · rfl

/-- A send that goes on after the close fails. -/
theorem resume_of_closed {box : Outbox} {ticket : Nat} {message : Message} {credit : Credit}
    (isClosed : box.closed = true) (waits : box.sends.lookup ticket = some message)
    (granted : box.credit.resume ticket = (credit, .granted)) :
    box.resume ticket =
      ({ box.forgetSend ticket with credit }, .done (.error .streamClosed)) := by
  have stillClosed : ({ box.forgetSend ticket with credit } : Outbox).closed = true := isClosed
  simp only [resume, waits, granted, push_of_closed stillClosed]

theorem ClosedStep.of_same {box : Outbox} {act : OutputAct} {answer : OutputAnswer}
    (same : box.step act = box) (spent : box.spentBy act = []) :
    ClosedStep box act answer (box.step act) :=
  .idle (congrArg credit same) (congrArg sends same) (congrArg queue same) spent

/-- A send that waits waits on, or it has its credit and fails. -/
theorem closedStep_resume {box : Outbox} (supplied : box.credit.closed = false)
    (isClosed : box.closed = true) (ticket : Nat) :
    ClosedStep box (.stream (.resume ticket)) (.sending (box.resume ticket).2)
      (box.resume ticket).1 := by
  cases waits : box.sends.lookup ticket with
  | none =>
      have same : box.resume ticket = (box, .waiting ticket) := by simp only [resume, waits]
      exact .of_same (congrArg Prod.fst same) (by simp only [spentBy, waits])
  | some message =>
      cases resumed : box.credit.resume ticket with
      | mk credit acquired =>
          cases acquired with
          | waiting =>
              have same : box.resume ticket = (box, .waiting ticket) := by
                simp only [resume, waits, resumed]
              exact .of_same (congrArg Prod.fst same) (by simp only [spentBy, waits, same])
          | closed =>
              have ended := (Credit.resume_closed resumed).1
              rw [supplied] at ended
              exact absurd ended Bool.false_ne_true
          | granted =>
              rw [resume_of_closed isClosed waits resumed]
              exact .failed waits resumed

theorem closedStep_of_attached {box : Outbox} (ledger : Ledger box 0) (streams : box.SendsStream)
    (isClosed : box.closed = true) {act : OutputAct} (attached : (box.step act).attached = true) :
    ClosedStep box act (box.perform act).2 (box.step act) := by
  have push_same (message : Message) (credit : Nat) : (box.push message credit).1 = box :=
    congrArg Prod.fst (push_of_closed isClosed message credit)
  cases act with
  | stream act =>
      cases act with
      | send code content => exact .of_same (congrArg Prod.fst (send_of_closed isClosed _)) rfl
      | resume ticket =>
          have isAttached := attached_of_step streams attached
          have supplied : box.credit.closed = false := by
            rw [← Bool.not_eq_true]
            intro ended
            rw [ledger.ended ended] at isAttached
            exact Bool.false_ne_true isAttached
          exact closedStep_resume supplied isClosed ticket
      | cancel ticket =>
          simp only [step, perform, performStream]
          cases found : box.sends.lookup ticket with
          | none => exact .idle rfl rfl rfl rfl
          | some message => exact .cancelled found
      | trySend code content => exact .of_same (congrArg Prod.fst (trySend_of_closed isClosed _)) rfl
      | eof => exact .of_same (push_same .eof 0) rfl
      | pollWrite writer code content =>
          exact .of_same (pollWrite_of_closed isClosed writer code content) rfl
      | dropPoll writer =>
          simp only [step, perform, performStream, dropPoll]
          cases box.polls.lookup writer with
          | none => exact .idle rfl rfl rfl rfl
          | some wait => exact .pollGivenUp rfl rfl rfl
      | take =>
          simp only [step, perform, performStream]
          cases taken : box.take? with
          | none => exact .idle rfl rfl rfl rfl
          | some pair => exact .taken taken
      | detach => exact absurd attached Bool.false_ne_true
      | addWriter | dropWriter => exact .idle rfl rfl rfl rfl
  | exitStatus status => exact .of_same (push_same (.exitStatus status) 0) rfl
  | close => exact .of_same (congrArg Prod.fst (close_of_closed isClosed)) rfl

/-! ### The credit that is spent -/

theorem creditFor_append (first second : List Message) :
    creditFor (first ++ second) = creditFor first + creditFor second := by
  simp only [creditFor, List.map_append, List.sum_append]

@[simp] theorem push_stored (box : Outbox) (message : Message) :
    (box.push message 0).1.stored = box.stored := by
  unfold push
  split
  · rfl
  · split
    · exact box.stored_push message 0
    · rfl

@[simp] theorem close_stored (box : Outbox) : box.close.1.stored = box.stored := by
  unfold close
  split
  · rfl
  · split
    · exact box.stored_push .close 0
    · rfl

/-- Nothing is spent while the channel is open. -/
theorem spentBy_of_open {box : Outbox} (isOpen : box.closed = false) (act : OutputAct) :
    box.spentBy act = [] := by
  unfold spentBy
  split
  next ticket =>
    split
    next message waits failed =>
      have stillOpen (credit : Credit) :
          ¬({ box.forgetSend ticket with credit } : Outbox).closed = true :=
        Bool.eq_false_iff.1 isOpen
      simp only [resume, waits] at failed
      split at failed
      · simp at failed
      · simp at failed
      · simp only [push, if_neg (stillOpen _)] at failed
        split at failed <;> simp at failed
    · rfl
  · rfl

/-- What the send that fails held is exactly what it spends. -/
theorem spentBy_of_failed {box : Outbox} {ticket : Nat} {message : Message} {credit : Credit}
    (isClosed : box.closed = true) (waits : box.sends.lookup ticket = some message)
    (granted : box.credit.resume ticket = (credit, .granted)) :
    box.spentBy (.stream (.resume ticket)) = [message] := by
  simp only [spentBy, waits, resume_of_closed isClosed waits granted]

/-- On a closed output, the credit of the window is spent or still there. -/
theorem ClosedStep.balance {box after : Outbox} {act : OutputAct} {answer : OutputAnswer}
    (happens : ClosedStep box act answer after) (ledger : Ledger box 0)
    (isClosed : box.closed = true) :
    after.credit.total + after.stored + creditFor (box.spentBy act) =
      box.credit.total + box.stored := by
  cases happens with
  | idle credit _ queue spent =>
      rw [credit, stored, queue, spent]
      rfl
  | @failed ticket message credit waits granted =>
      have demanded : (ticket, message.cost) ∈ box.demands :=
        List.mem_append_left _ (List.mem_map.2 ⟨_, mem_of_lookup waits, rfl⟩)
      have holds := ledger.heldBy_of_granted granted demanded
      have total := Credit.forget_total box.credit ticket
      rw [spentBy_of_failed isClosed waits granted, (Credit.resume_granted granted).2]
      show (box.credit.forget ticket).total + box.stored + (message.cost + 0) = _
      omega
  | cancelled waits =>
      show (box.credit.cancel _).total + box.stored + 0 = _
      rw [ledger.fair.cancel_total]
      rfl
  | pollGivenUp credit _ queue =>
      rw [credit, stored, queue, ledger.fair.cancel_total]
      rfl
  | taken taken => exact take_total ledger.fair taken

theorem balance_step {box : Outbox} (ledger : Ledger box 0) (streams : box.SendsStream)
    {act : OutputAct} (attached : (box.step act).attached = true) :
    (box.step act).credit.total + (box.step act).stored + creditFor (box.spentBy act) =
      box.credit.total + box.stored := by
  cases isClosed : box.closed with
  | true => exact (closedStep_of_attached ledger streams isClosed attached).balance ledger isClosed
  | false =>
      rw [spentBy_of_open isClosed]
      have before := ledger.balanced (attached_of_step streams attached) isClosed
      cases act with
      | stream act =>
          have isOpen := (performStream_effect box act streams).closed_eq.trans isClosed
          have after := (ledger.step (.stream act)).balanced attached isOpen
          exact after.trans before.symm
      | exitStatus status =>
          show (box.push (.exitStatus status) 0).1.credit.total +
            (box.push (.exitStatus status) 0).1.stored + 0 = _
          rw [push_credit, push_stored, Nat.add_zero]
      | close =>
          show box.close.1.credit.total + box.close.1.stored + 0 = _
          rw [close_credit, close_stored, Nat.add_zero]

theorem balance_run {box : Outbox} (ledger : Ledger box 0) (streams : box.SendsStream)
    (acts : List OutputAct) (attached : (box.run acts).attached = true) :
    (box.run acts).credit.total + (box.run acts).stored + creditFor (box.spentIn acts) =
      box.credit.total + box.stored := by
  induction acts generalizing box with
  | nil => rfl
  | cons act rest inductionHypothesis =>
      have attachedNow : (box.step act).attached = true :=
        attached_of_run (streams.step act) rest attached
      have now := balance_step ledger streams attachedNow
      have later := inductionHypothesis (ledger.step act) (streams.step act) attached
      let after := (box.step act).run rest
      calc after.credit.total + after.stored +
            creditFor (box.spentBy act ++ (box.step act).spentIn rest)
          = after.credit.total + after.stored + creditFor ((box.step act).spentIn rest) +
              creditFor (box.spentBy act) := by
            rw [creditFor_append]
            omega
        _ = (box.step act).credit.total + (box.step act).stored + creditFor (box.spentBy act) := by
            rw [later]
        _ = box.credit.total + box.stored := now

/-! ### How a send ends that waited at the close -/

/-- The send under a ticket was given up, or told that the stream is closed. -/
def Ended (transcript : List (OutputAct × OutputAnswer)) (ticket : Nat) : Prop :=
  (∃ answer, (.stream (.cancel ticket), answer) ∈ transcript) ∨
    (.stream (.resume ticket), .sending (.done (.error .streamClosed))) ∈ transcript

theorem ClosedStep.sends {box after : Outbox} {act : OutputAct} {answer : OutputAnswer}
    (happens : ClosedStep box act answer after) {entry : Nat × Message}
    (waits : entry ∈ box.sends) : entry ∈ after.sends ∨ Ended [(act, answer)] entry.1 := by
  have stays (ticket : Nat) (other : entry.1 ≠ ticket) :
      entry ∈ box.sends.filter fun entry => entry.1 != ticket :=
    List.mem_filter.2 ⟨waits, bne_iff_ne.2 other⟩
  cases happens with
  | idle _ sends => exact .inl (sends ▸ waits)
  | pollGivenUp _ sends => exact .inl (sends ▸ waits)
  | @failed ticket _ _ _ _ =>
      by_cases its : entry.1 = ticket
      · exact .inr (.inr (its ▸ List.mem_singleton_self _))
      · exact .inl (stays ticket its)
  | @cancelled ticket _ _ =>
      by_cases its : entry.1 = ticket
      · exact .inr (.inl ⟨.nothing, its ▸ List.mem_singleton_self _⟩)
      · exact .inl (stays ticket its)
  | taken taken =>
      simp only [take?, Option.map_eq_some_iff, Prod.mk.injEq, Prod.exists] at taken
      obtain ⟨_, _, _, _, -, rfl⟩ := taken
      exact .inl waits

theorem Ended.mono {first second : List (OutputAct × OutputAnswer)} {ticket : Nat}
    (ended : Ended first ticket) (subset : first ⊆ second) : Ended second ticket :=
  ended.imp (fun ⟨answer, member⟩ => ⟨answer, subset member⟩) (subset ·)

/-- After the close, a send that waits goes on waiting until it is given up or fails. -/
theorem sends_run_of_closed {box : Outbox} (ledger : Ledger box 0) (streams : box.SendsStream)
    (isClosed : box.closed = true) (acts : List OutputAct)
    (attached : (box.run acts).attached = true) {entry : Nat × Message}
    (waits : entry ∈ box.sends) :
    entry ∈ (box.run acts).sends ∨ Ended (box.transcript acts) entry.1 := by
  induction acts generalizing box with
  | nil => exact .inl waits
  | cons act rest inductionHypothesis =>
      have attachedNow : (box.step act).attached = true :=
        attached_of_run (streams.step act) rest attached
      have happens := closedStep_of_attached ledger streams isClosed attachedNow
      rcases happens.sends waits with stillWaits | ended
      · have later := inductionHypothesis (ledger.step act) (streams.step act)
          (closed_step streams isClosed act) attached stillWaits
        exact later.imp_right fun ended => ended.mono (List.subset_append_right _ _)
      · exact .inr (ended.mono (List.subset_append_left _ _))

/-! ### Who still waits when nothing moves -/

/-- Where no send can go on and no poll waits, nothing is granted that was not taken up. -/
theorem Settled.granted_eq_nil {box : Outbox} (settled : box.Settled) (ledger : Ledger box 0)
    (attached : box.attached = true) (noPolls : box.polls = []) : box.credit.granted = [] := by
  rw [List.eq_nil_iff_forall_not_mem]
  intro ⟨ticket, amount⟩ granted
  have demanded : (ticket, amount) ∈ box.demands :=
    ledger.matched.mem_iff.2 (List.mem_append_right _ granted)
  rw [demands, noPolls, List.map_nil, List.append_nil] at demanded
  obtain ⟨⟨owner, _⟩, waits, same⟩ := List.mem_map.1 demanded
  have isOwner : owner = ticket := congrArg Prod.fst same
  subst isOwner
  have supplied : ¬box.credit.closed = true := by
    intro ended
    rw [ledger.ended ended] at attached
    exact absurd attached Bool.false_ne_true
  have isGranted : (box.credit.granted.any fun grant => grant.1 == owner) = true :=
    List.any_eq_true.2 ⟨_, granted, beq_self_eq_true _⟩
  obtain ⟨held, stuck⟩ := settled _ waits
  -- The send has its credit, so it would go on.
  cases found : box.sends.lookup owner with
  | none => exact absurd rfl (bne_iff_ne.1 (List.lookup_eq_none_iff.1 found _ waits))
  | some message =>
      simp only [resume, found, Credit.resume, if_neg supplied, if_pos isGranted] at stuck
      exact absurd stuck (by simp)

/-- Where sends wait and nothing can move, one of them asks for more than all the credit that there
is, and has all of it but what is under way. -/
theorem Settled.exists_lacking {box : Outbox} (settled : box.Settled) (ledger : Ledger box 0)
    (inLine : box.credit.InLine) (attached : box.attached = true) (noPolls : box.polls = [])
    (somebodyWaits : box.sends ≠ []) : ∃ entry ∈ box.sends, box.credit.total < entry.2.cost := by
  have noGrant := settled.granted_eq_nil ledger attached noPolls
  have matched := ledger.matched
  rw [demands, noPolls, List.map_nil, List.append_nil, Credit.demands, noGrant,
    List.append_nil] at matched
  cases line : box.credit.waiters with
  | nil =>
      rw [line, List.map_nil] at matched
      exact absurd (List.map_eq_nil_iff.1 matched.eq_nil) somebodyWaits
  | cons first rest =>
      have isWaiting : first ∈ box.credit.waiters := line ▸ List.mem_cons_self
      have lacks := ledger.fair.lacking first isWaiting
      have nothingFree := ledger.fair.spent (line ▸ List.cons_ne_nil first rest)
      have total : box.credit.total = first.held := by
        rw [Credit.total, nothingFree, inLine.heldIn_eq line, noGrant, Nat.zero_add]
        rfl
      obtain ⟨entry, waits, demand⟩ :=
        List.mem_map.1 (matched.mem_iff.2 (List.mem_map_of_mem isWaiting))
      have cost : entry.2.cost = first.needed := congrArg Prod.snd demand
      exact ⟨entry, waits, by omega⟩

/-- Once the transport has taken every message and nothing can move, no send waits on an open
channel. On a closed one, a send waits only because sends that failed after the close have spent the
credit it lacks. Whatever waited at the close still waits so, was given up, or was told that the
stream is closed. -/
theorem waits_only_for_spent_credit (offer : ChannelOffer) (awaited : Bool)
    (acts : List OutputAct) :
    let start := (Channel.ofOffer offer awaited).output
    let box := start.run acts
    box.attached = true → box.queue.toList = [] → box.polls = [] → box.Settled →
      (box.closed = false → box.sends = []) ∧
      (box.sends ≠ [] →
        ∃ entry ∈ box.sends, outputWindow < creditFor (start.spentIn acts) + entry.2.cost) ∧
      ∀ before later, acts = before ++ later → (start.run before).closed = true →
        ∀ entry ∈ (start.run before).sends,
          entry ∈ box.sends ∨ Ended ((start.run before).transcript later) entry.1 := by
  intro start box attached taken noPolls settled
  have atFirst : Ledger start 0 := .ofOffer offer awaited
  have streams : start.SendsStream := by
    unfold start
    cases awaited <;> exact fun _ member => absurd member List.not_mem_nil
  have ledger : Ledger box 0 := atFirst.run acts
  have inLine : box.credit.InLine := inLine_run (inLine_ofOffer offer awaited) acts
  have nothingStored : box.stored = 0 := by rw [stored, taken]; rfl
  have lacks := settled.exists_lacking ledger inLine attached noPolls
  refine ⟨?_, ?_, ?_⟩
  · intro isOpen
    by_contra somebodyWaits
    obtain ⟨entry, -, lacking⟩ := lacks somebodyWaits
    have whole := ledger.balanced attached isOpen
    have affordable := entry.2.cost_le
    omega
  · intro somebodyWaits
    obtain ⟨entry, waits, lacking⟩ := lacks somebodyWaits
    have balance : box.credit.total + box.stored + creditFor (start.spentIn acts) =
        start.credit.total + start.stored := balance_run atFirst streams acts attached
    have window : start.credit.total + start.stored = outputWindow := by
      unfold start
      cases awaited <;> rfl
    exact ⟨entry, waits, by omega⟩
  · intro before later split isClosed entry waits
    have runs : box = (start.run before).run later := by
      unfold box
      rw [split, run_append]
    rw [runs] at attached ⊢
    exact sends_run_of_closed (atFirst.run before) (streams.run before) isClosed later attached waits

/-- A content that takes the whole window is under way, the same waits, and behind it a byte. Then
the channel is closed. -/
def crowding (content : ByteArray) : List OutputAct :=
  [.stream (.send none content), .stream (.send none content), .stream (.send none ⟨#[99]⟩), .close]

/-- The transport takes the first message, the second send goes on, and the transport takes the
close. -/
def stranding : List OutputAct :=
  [.stream .take, .stream (.resume 0), .stream .take]

section Stranding

variable {content : ByteArray}

theorem run_crowding (fills : (Message.data content).cost = outputWindow) :
    (Channel.ofOffer ⟨"session", .empty⟩ true).output.run (crowding content) =
      { queue := ⟨[], [(.close, 0), (.data content, outputWindow)]⟩
        credit := ⟨0, [⟨0, outputWindow, 0⟩, ⟨1, 1, 0⟩], [], false⟩
        closed := true
        nextTicket := 2
        sends := [(0, .data content), (1, .data ⟨#[99]⟩)] } := by
  have byteCost : (Message.data ⟨#[99]⟩).cost = 1 := by decide
  have window : outputWindow ≠ 0 := by decide
  simp [crowding, run, runFrom, step, perform, performStream, send, close, push, Credit.acquire,
    Channel.ofOffer, Message.ofStream, Fifo.push, Fifo.empty, fills, byteCost, window]

theorem run_stranding (fills : (Message.data content).cost = outputWindow) :
    (Channel.ofOffer ⟨"session", .empty⟩ true).output.run (crowding content ++ stranding) =
      { credit := ⟨0, [⟨1, 1, 0⟩], [], false⟩
        closed := true
        nextTicket := 2
        sends := [(1, .data ⟨#[99]⟩)] } := by
  have window : outputWindow ≠ 0 := by decide
  have handsOn : Credit.release ⟨0, [⟨0, outputWindow, 0⟩, ⟨1, 1, 0⟩], [], false⟩ outputWindow =
      ⟨0, [⟨1, 1, 0⟩], [(0, outputWindow)], false⟩ := by
    simp [Credit.release, Credit.assign]
  have handsNothing : Credit.release ⟨0, [⟨1, 1, 0⟩], [], false⟩ 0 =
      ⟨0, [⟨1, 1, 0⟩], [], false⟩ := by
    simp [Credit.release, Credit.assign]
  rw [run_append, run_crowding fills]
  simp [stranding, run, runFrom, step, perform, performStream, push, take?, resume, forgetSend,
    Credit.resume, Credit.forget, Fifo.pop?, Fifo.empty, handsOn, handsNothing]

/-- The byte waits when the channel is closed. -/
theorem waiting_after_crowding (fills : (Message.data content).cost = outputWindow) :
    let box := (Channel.ofOffer ⟨"session", .empty⟩ true).output.run (crowding content)
    box.closed = true ∧ (1, .data ⟨#[99]⟩) ∈ box.sends := by
  rw [run_crowding fills]
  exact ⟨rfl, List.mem_cons_of_mem _ (List.mem_singleton_self _)⟩

/-- The transport has taken everything, nothing can move, and the byte still waits. -/
theorem stuck_after_stranding (fills : (Message.data content).cost = outputWindow) :
    let box := (Channel.ofOffer ⟨"session", .empty⟩ true).output.run (crowding content ++ stranding)
    box.attached = true ∧ box.queue.toList = [] ∧ box.polls = [] ∧ box.Settled ∧
      box.sends = [(1, .data ⟨#[99]⟩)] := by
  rw [run_stranding fills]
  refine ⟨rfl, rfl, rfl, ?_, rfl⟩
  intro entry waits
  rw [List.mem_singleton.1 waits]
  exact ⟨1, rfl⟩

end Stranding

/-- As many bytes as the window has credit for. -/
def windowful : ByteArray :=
  ⟨Array.replicate outputWindow 97⟩

theorem cost_windowful : (Message.data windowful).cost = outputWindow := by
  have size : windowful.size = outputWindow := Array.size_replicate
  rw [Message.cost, Message.content, size, Nat.min_self]

/-- The byte that is left lacks what the windowful has spent. -/
theorem waits_only_for_spent_credit_of_stranding :
    let start := (Channel.ofOffer ⟨"session", .empty⟩ true).output
    let acts := crowding windowful ++ stranding
    let box := start.run acts
    box.attached = true ∧ box.queue.toList = [] ∧ box.polls = [] ∧ box.Settled ∧
      ∃ entry ∈ box.sends, outputWindow < creditFor (start.spentIn acts) + entry.2.cost := by
  obtain ⟨attached, taken, noPolls, settled, sends⟩ := stuck_after_stranding cost_windowful
  have somebodyWaits := ne_of_eq_of_ne sends (List.cons_ne_nil _ _)
  exact ⟨attached, taken, noPolls, settled,
    (waits_only_for_spent_credit ⟨"session", .empty⟩ true (crowding windowful ++ stranding)
      attached taken noPolls settled).2.1 somebodyWaits⟩

/-- A send that waited when the channel was closed waits behind an empty queue, and nothing can
move. -/
theorem stranded_behind_empty_queue :
    let start := (Channel.ofOffer ⟨"session", .empty⟩ true).output
    let closed := start.run (crowding windowful)
    let box := start.run (crowding windowful ++ stranding)
    (closed.closed = true ∧ (1, .data ⟨#[99]⟩) ∈ closed.sends) ∧
      box.attached = true ∧ box.queue.toList = [] ∧ box.polls = [] ∧ box.Settled ∧
      box.sends = [(1, .data ⟨#[99]⟩)] :=
  ⟨waiting_after_crowding cost_windowful, stuck_after_stranding cost_windowful⟩

end SshServer.Outbox
