import SshServer.Proofs.Output.Supply
import SshServer.Proofs.Output.Waiting

/-!
Contract: how sends end that have to wait.

Owns: what holds of every output that an acceptance brings about; the cause for which writers are
refused; what becomes of a send that waits; that an output which accepts writers can always come to
rest; and that nobody waits when it has.
Does not own: the order in which sends go on that wait (`Proofs.Output.Line`).

A send that has waited learns that the transport is gone before it learns of a close, because the
supply of credit has ended with the transport.
-/

namespace SshServer

/-- A request that is taken up finds a supply that has not ended. -/
theorem Credit.closed_of_resume_granted {credit after : Credit} {ticket : Nat}
    (granted : credit.resume ticket = (after, .granted)) : credit.closed = false := by
  unfold resume at granted
  split at granted
  · simp at granted
  next isOpen => exact Bool.not_eq_true _ ▸ isOpen

namespace Outbox

/-! ### Outputs of accepted channels -/

/-- What holds of the output of an accepted channel, whatever is done with it. -/
structure Sound (box : Outbox) : Prop where
  ledger : Ledger box 0
  supply : box.SupplyEnds
  streams : box.SendsStream
  inLine : box.credit.InLine
  ordered : box.credit.Ordered box.nextTicket

theorem Sound.run {box : Outbox} (sound : box.Sound) (acts : List OutputAct) :
    (box.run acts).Sound where
  ledger := sound.ledger.run acts
  supply := sound.supply.run acts
  streams := sound.streams.run acts
  inLine := inLine_run sound.inLine acts
  ordered := ordered_run sound.ordered acts

theorem Sound.step {box : Outbox} (sound : box.Sound) (act : OutputAct) : (box.step act).Sound :=
  sound.run [act]

theorem Sound.ofOffer (offer : ChannelOffer) (awaited : Bool) :
    (Channel.ofOffer offer awaited).output.Sound where
  ledger := .ofOffer offer awaited
  supply := .ofOffer offer awaited
  streams := by cases awaited <;> exact fun _ waits => absurd waits List.not_mem_nil
  inLine := inLine_ofOffer offer awaited
  ordered := ordered_ofOffer offer awaited

/-- There is credit to be had for as long as the transport is there. -/
theorem Sound.supplied {box : Outbox} (sound : box.Sound) :
    box.credit.closed = !box.attached := by
  cases attached : box.attached with
  | true =>
      rw [Bool.not_true, ← Bool.not_eq_true]
      intro ended
      rw [sound.ledger.ended ended] at attached
      exact Bool.false_ne_true attached
  | false => exact sound.supply attached

/-! ### Refusals -/

/-- Why writers are refused, if they are. -/
def refusal? (box : Outbox) : Option Failure :=
  if box.closed then some .streamClosed
  else if box.attached then none
  else some .peerHangup

section Refusals

variable {box : Outbox} {cause : Failure}

theorem refusal?_eq_none_iff :
    box.refusal? = none ↔ box.closed = false ∧ box.attached = true := by
  unfold refusal?
  cases box.closed <;> cases box.attached <;> simp

theorem refusal?_cases (refused : box.refusal? = some cause) :
    (box.closed = true ∧ cause = .streamClosed) ∨
      (box.closed = false ∧ box.attached = false ∧ cause = .peerHangup) := by
  revert refused
  unfold refusal?
  cases box.closed <;> cases box.attached <;> simp [eq_comm]

theorem push_of_refused (refused : box.refusal? = some cause) (message : Message) (credit : Nat) :
    box.push message credit = (box, .error cause) := by
  rcases refusal?_cases refused with ⟨isClosed, rfl⟩ | ⟨isOpen, isLeft, rfl⟩
  · exact push_of_closed isClosed message credit
  · rw [push, isOpen, isLeft]
    rfl

theorem push_of_accepted (accepted : box.refusal? = none) (message : Message) (credit : Nat) :
    box.push message credit = ({ box with queue := box.queue.push (message, credit) }, .ok ()) := by
  obtain ⟨isOpen, isAttached⟩ := refusal?_eq_none_iff.1 accepted
  rw [push, isOpen, isAttached]
  rfl

end Refusals

/-! ### Sends that wait -/

/-- What a send is told that has waited and goes on. -/
def outcomeOfWait (box : Outbox) : Except Failure Unit :=
  if box.attached then
    if box.closed then .error .streamClosed else .ok ()
  else .error .peerHangup

section Waits

variable {box : Outbox} {entry : Nat × Message}

theorem push_of_attached (isAttached : box.attached = true) (message : Message) (credit : Nat) :
    (box.push message credit).2 = if box.closed then .error .streamClosed else .ok () := by
  unfold push
  split
  · rfl
  · rfl

/-- A send that looks whether it can go on waits on, or is told how things stand. -/
theorem Sound.resume_cases (sound : box.Sound) (waits : entry ∈ box.sends) :
    box.resume entry.1 = (box, .waiting entry.1) ∨
      (box.resume entry.1).2 = .done box.outcomeOfWait := by
  have supplied := sound.supplied
  obtain ⟨message, found⟩ : ∃ message, box.sends.lookup entry.1 = some message :=
    Awaits.exists_lookup ⟨entry.2, waits⟩
  unfold resume outcomeOfWait
  rw [found]
  dsimp only
  split
  · exact .inl rfl
  next resumed =>
    have isLeft := sound.ledger.ended (Credit.resume_closed resumed).1
    rw [isLeft]
    exact .inr rfl
  next credit resumed =>
    have isAttached : box.attached = true := by
      rw [Credit.closed_of_resume_granted resumed] at supplied
      cases attached : box.attached with
      | true => rfl
      | false => exact Bool.noConfusion (attached ▸ supplied)
    have stillAttached : ({ box.forgetSend entry.1 with credit } : Outbox).attached = true :=
      isAttached
    rw [if_pos isAttached]
    exact .inr (congrArg Sending.done (push_of_attached stillAttached message message.cost))

/-- What becomes of a send that waits, over the operations of others and its own. -/
inductive Fate (box : Outbox) (later : List OutputAct) (entry : Nat × Message) : Prop where
  | waits (still : entry ∈ (box.run later).sends)
  | givenUp (before after : List OutputAct)
      (split : later = before ++ .stream (.cancel entry.1) :: after)
      (waited : entry ∈ (box.run before).sends)
  | told (before after : List OutputAct)
      (split : later = before ++ .stream (.resume entry.1) :: after)
      (waited : entry ∈ (box.run before).sends)
      (outcome : ((box.run before).resume entry.1).2 = .done (box.run before).outcomeOfWait)

theorem Fate.cons {act : OutputAct} {rest : List OutputAct}
    (fate : Fate (box.step act) rest entry) : Fate box (act :: rest) entry := by
  cases fate with
  | waits still => exact .waits still
  | givenUp before after split waited =>
      exact .givenUp (act :: before) after (congrArg (act :: ·) split) waited
  | told before after split waited outcome =>
      exact .told (act :: before) after (congrArg (act :: ·) split) waited outcome

theorem Sound.fate (sound : box.Sound) (waits : entry ∈ box.sends) (later : List OutputAct) :
    Fate box later entry := by
  induction later generalizing box with
  | nil => exact .waits waits
  | cons act rest inductionHypothesis =>
      by_cases its : act.ticket? = some entry.1
      · -- Only a look at the send itself, or giving it up, has its ticket.
        unfold OutputAct.ticket? at its
        split at its
        next ticket =>
          obtain rfl := Option.some.inj its
          rcases sound.resume_cases waits with stays | outcome
          · have same : box.step (.stream (.resume entry.1)) = box := congrArg Prod.fst stays
            exact .cons (same.symm ▸ inductionHypothesis sound waits)
          · exact .told [] rest rfl waits outcome
        next ticket =>
          obtain rfl := Option.some.inj its
          exact .givenUp [] rest rfl waits
        · exact absurd its (Option.some_ne_none _).symm
      · exact .cons (inductionHypothesis (sound.step act) (mem_sends_step waits its))

end Waits

/-! ### Coming to rest -/

/-- Nothing is under way, nobody polls, and no send that waits can go on. -/
structure AtRest (box : Outbox) : Prop where
  taken : box.queue.toList = []
  noPolls : box.polls = []
  settled : box.Settled

/-- An operation by which the transport, a send that waits or a poll that waits gets out of the
way. -/
def movesOn : OutputAct → Bool
  | .stream .take | .stream (.resume _) | .stream (.dropPoll _) => true
  | _ => false

/-- What is in the way of rest. A send that goes on puts one message in the place of itself. -/
def unrest (box : Outbox) : Nat :=
  2 * box.sends.length + box.queue.toList.length + box.polls.length

section Rest

variable {box : Outbox}

/-- Nobody waits at rest. -/
theorem Sound.sends_of_atRest (sound : box.Sound) (accepted : box.refusal? = none)
    (atRest : box.AtRest) : box.sends = [] := by
  obtain ⟨isOpen, isAttached⟩ := refusal?_eq_none_iff.1 accepted
  by_contra somebodyWaits
  obtain ⟨entry, -, lacking⟩ :=
    atRest.settled.exists_lacking sound.ledger sound.inLine isAttached atRest.noPolls somebodyWaits
  have whole := sound.ledger.balanced isAttached isOpen
  have nothingStored : box.stored = 0 := by
    rw [stored, atRest.taken]
    rfl
  have affordable := entry.2.cost_le
  omega

theorem length_filter_ne_lt {β : Type} {entries : List (Nat × β)} {entry : Nat × β}
    (member : entry ∈ entries) :
    (entries.filter fun other => other.1 != entry.1).length < entries.length := by
  apply List.length_filter_lt_length_iff_exists.2
  exact ⟨entry, member, by simp⟩

/-- A message that is under way can be taken. -/
theorem moves_of_queue (accepted : box.refusal? = none) (underWay : box.queue.toList ≠ []) :
    (box.step (.stream .take)).refusal? = none ∧ (box.step (.stream .take)).unrest < box.unrest := by
  cases popped : box.queue.pop? with
  | none => exact absurd (Fifo.pop?_eq_none_iff.1 popped) underWay
  | some pair =>
      have takes : box.step (.stream .take) =
          { box with queue := pair.2, credit := box.credit.release pair.1.2 } := by
        simp only [step, perform, performStream, take?, popped, Option.map_some]
      have fewer := congrArg List.length (Fifo.toList_of_pop? popped)
      rw [List.length_cons] at fewer
      rw [takes]
      refine ⟨accepted, ?_⟩
      simp only [unrest]
      omega

/-- A poll that waits can be given up. -/
theorem moves_of_poll (accepted : box.refusal? = none) {writer : Nat} {wait : PollWait}
    (polls : (writer, wait) ∈ box.polls) :
    (box.step (.stream (.dropPoll writer))).refusal? = none ∧
      (box.step (.stream (.dropPoll writer))).unrest < box.unrest := by
  have frame := box.dropPoll_frame writer
  have fewer : (box.dropPoll writer).polls.length < box.polls.length := by
    unfold dropPoll
    split
    next absent => exact absurd rfl (bne_iff_ne.1 (List.lookup_eq_none_iff.1 absent _ polls))
    · exact length_filter_ne_lt polls
  show (box.dropPoll writer).refusal? = none ∧ (box.dropPoll writer).unrest < box.unrest
  constructor
  · rw [refusal?, frame.closed, frame.attached]
    exact accepted
  · simp only [unrest, frame.sends, frame.queue]
    omega

/-- A send that has its credit can go on, and its message is under way then. -/
theorem moves_of_send (accepted : box.refusal? = none) {entry : Nat × Message}
    (waits : entry ∈ box.sends) (goesOn : ∀ ticket, (box.resume entry.1).2 ≠ .waiting ticket)
    (sound : box.Sound) :
    (box.step (.stream (.resume entry.1))).refusal? = none ∧
      (box.step (.stream (.resume entry.1))).unrest < box.unrest := by
  obtain ⟨isOpen, isAttached⟩ := refusal?_eq_none_iff.1 accepted
  obtain ⟨message, found⟩ : ∃ message, box.sends.lookup entry.1 = some message :=
    Awaits.exists_lookup ⟨entry.2, waits⟩
  show (box.resume entry.1).1.refusal? = none ∧ (box.resume entry.1).1.unrest < box.unrest
  cases resumed : box.credit.resume entry.1 with
  | mk credit acquired =>
      cases acquired with
      | waiting =>
          have stays : (box.resume entry.1).2 = .waiting entry.1 := by
            simp only [resume, found, resumed]
          exact absurd stays (goesOn entry.1)
      | closed =>
          rw [sound.ledger.ended (Credit.resume_closed resumed).1] at isAttached
          exact absurd isAttached Bool.false_ne_true
      | granted =>
          let forgotten : Outbox := { box.forgetSend entry.1 with credit }
          have stillAccepted : forgotten.refusal? = none := accepted
          have queued : (box.resume entry.1).1 =
              { forgotten with queue := box.queue.push (message, message.cost) } := by
            simp only [resume, found, resumed]
            exact congrArg Prod.fst (push_of_accepted stillAccepted message message.cost)
          have fewer := length_filter_ne_lt waits
          rw [queued]
          refine ⟨accepted, ?_⟩
          simp only [unrest, Fifo.toList_push, List.length_append, List.length_singleton, forgotten,
            forgetSend]
          omega

/-- As long as there is unrest, something can move that lessens it. -/
theorem Sound.moves (sound : box.Sound) (accepted : box.refusal? = none) :
    box.AtRest ∨ ∃ act, movesOn act = true ∧ (box.step act).refusal? = none ∧
      (box.step act).unrest < box.unrest := by
  by_cases taken : box.queue.toList = []
  · cases polls : box.polls with
    | cons poll rest =>
        have waits : (poll.1, poll.2) ∈ box.polls := polls ▸ List.mem_cons_self
        exact .inr ⟨.stream (.dropPoll poll.1), rfl, moves_of_poll accepted waits⟩
    | nil =>
        by_cases settled : box.Settled
        · exact .inl ⟨taken, polls, settled⟩
        · simp only [Settled, not_forall, not_exists] at settled
          obtain ⟨entry, waits, goesOn⟩ := settled
          exact .inr ⟨.stream (.resume entry.1), rfl, moves_of_send accepted waits goesOn sound⟩
  · exact .inr ⟨.stream .take, rfl, moves_of_queue accepted taken⟩

/-- An output that accepts writers comes to rest once the transport takes what is under way and those
who have their credit go on. -/
theorem Sound.comes_to_rest (sound : box.Sound) (accepted : box.refusal? = none) :
    ∃ later : List OutputAct, (∀ act ∈ later, movesOn act = true) ∧
      (box.run later).refusal? = none ∧ (box.run later).AtRest := by
  induction unrest : box.unrest using Nat.strongRecOn generalizing box with
  | ind amount inductionHypothesis =>
      rcases sound.moves accepted with atRest | ⟨act, moves, stillAccepted, lessens⟩
      · exact ⟨[], fun _ member => absurd member List.not_mem_nil, accepted, atRest⟩
      · obtain ⟨later, allMove, endsAccepted, atRest⟩ :=
          inductionHypothesis _ (unrest ▸ lessens) (sound.step act) stillAccepted rfl
        exact ⟨act :: later, List.forall_mem_cons.2 ⟨moves, allMove⟩, endsAccepted, atRest⟩

/-- A send that has to wait on an output that accepts writers to the end, and is not given up,
succeeds before the output is at rest. -/
theorem Sound.succeeds (sound : box.Sound) {entry : Nat × Message} (waits : entry ∈ box.sends)
    (later : List OutputAct) (accepted : (box.run later).refusal? = none)
    (atRest : (box.run later).AtRest) (kept : .stream (.cancel entry.1) ∉ later) :
    ∃ before after, later = before ++ .stream (.resume entry.1) :: after ∧
      entry ∈ (box.run before).sends ∧ ((box.run before).resume entry.1).2 = .done (.ok ()) := by
  obtain ⟨isOpen, isAttached⟩ := refusal?_eq_none_iff.1 accepted
  cases sound.fate waits later with
  | waits still =>
      rw [(sound.run later).sends_of_atRest accepted atRest] at still
      exact absurd still List.not_mem_nil
  | givenUp before after split _ =>
      rw [split] at kept
      exact absurd (List.mem_append_right _ List.mem_cons_self) kept
  | told before after split waited outcome =>
      rw [split, run_append] at isOpen isAttached
      have wasSound := sound.run before
      have wasAttached := attached_of_run wasSound.streams _ isAttached
      have wasOpen : (box.run before).closed = false := by
        rw [← Bool.not_eq_true]
        intro wasClosed
        rw [closed_run wasSound.streams wasClosed] at isOpen
        exact Bool.noConfusion isOpen
      rw [outcomeOfWait, wasOpen, wasAttached] at outcome
      exact ⟨before, after, split, waited, outcome⟩

end Rest

end Outbox

end SshServer
