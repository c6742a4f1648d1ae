import Mathlib.Logic.Relation
import SshServer.Proofs.Output.Credit
import SshServer.Proofs.Output.Run

/-!
Contract: the line in which requests wait for credit.

Owns: the moves of which every operation on a supply of credit consists; that only the request in
front holds a part of what it asks for; that requests are filled in the order in which they were
made; and that every operation on an output makes such moves.
Does not own: how much credit there is (`Proofs.Output.Credit`), and where it is
(`Proofs.Output.Ledger`).

Tickets are numbers that grow, and the owner of the tickets gives a request that has to wait the next
one. So the order of the requests is the order of their tickets.
-/

namespace SshServer

namespace Credit

/-- What can happen to a supply of credit. -/
inductive Move (credit : Credit) : Credit → Prop where
  | take (amount : Nat) : Move credit { credit with free := credit.free - amount }
  | wait {ticket needed : Nat} {after : Credit}
      (waits : credit.acquire ticket needed = (after, .waiting)) : Move credit after
  | release (amount : Nat) : Move credit (credit.release amount)
  | forget (ticket : Nat) : Move credit (credit.forget ticket)
  | close : Move credit credit.close

/-- A move of credit beside the next ticket, which goes to the request that begins to wait. -/
inductive TicketMove : Credit × Nat → Credit × Nat → Prop where
  | take {credit : Credit} {next : Nat} (amount : Nat) :
      TicketMove (credit, next) ({ credit with free := credit.free - amount }, next)
  | wait {credit after : Credit} {next needed : Nat}
      (waits : credit.acquire next needed = (after, .waiting)) :
      TicketMove (credit, next) (after, next + 1)
  | release {credit : Credit} {next : Nat} (amount : Nat) :
      TicketMove (credit, next) (credit.release amount, next)
  | forget {credit : Credit} {next : Nat} (ticket : Nat) :
      TicketMove (credit, next) (credit.forget ticket, next)
  | close {credit : Credit} {next : Nat} : TicketMove (credit, next) (credit.close, next)

/-- Any number of moves, one after another. -/
abbrev TicketMoves : Credit × Nat → Credit × Nat → Prop :=
  Relation.ReflTransGen TicketMove

theorem TicketMove.move {before after : Credit × Nat} (move : TicketMove before after) :
    Move before.1 after.1 := by
  cases move with
  | take amount => exact .take amount
  | wait waits => exact .wait waits
  | release amount => exact .release amount
  | forget ticket => exact .forget ticket
  | close => exact .close

/-- No ticket is given out again. -/
theorem TicketMoves.le {before after : Credit × Nat} (moves : TicketMoves before after) :
    before.2 ≤ after.2 := by
  induction moves with
  | refl => exact Nat.le_refl _
  | tail _ move inductionHypothesis =>
      apply Nat.le_trans inductionHypothesis
      cases move with
      | wait => exact Nat.le_succ _
      | take | release | forget | close => exact Nat.le_refl _

/-! ### Operations are moves -/

/-- A request takes credit at once, or waits under the next ticket. -/
theorem acquire_moves {credit after : Credit} {next needed : Nat} {acquired : Acquired}
    (asked : credit.acquire next needed = (after, acquired)) :
    TicketMoves (credit, next) (after, if acquired = .waiting then next + 1 else next) := by
  cases acquired with
  | granted =>
      obtain ⟨-, rfl⟩ := acquire_granted asked
      exact .single (.take needed)
  | waiting => exact .single (.wait asked)
  | closed =>
      obtain ⟨-, rfl⟩ := acquire_closed asked
      exact .refl

theorem tryAcquire_moves (credit : Credit) (next needed : Nat) :
    TicketMoves (credit, next) ((credit.tryAcquire needed).1, next) := by
  unfold tryAcquire
  split
  · exact .refl
  · split
    · exact .single (.take needed)
    · exact .refl

theorem resume_moves (credit : Credit) (next ticket : Nat) :
    TicketMoves (credit, next) ((credit.resume ticket).1, next) := by
  unfold resume
  split
  · exact .single (.forget ticket)
  · split
    · exact .single (.forget ticket)
    · exact .refl

theorem cancel_moves (credit : Credit) (next ticket : Nat) :
    TicketMoves (credit, next) (credit.cancel ticket, next) :=
  (Relation.ReflTransGen.single (.forget ticket)).tail (.release _)

/-! ### Who holds a part -/

/-- A fair supply in which nobody behind the first in line holds anything. -/
structure InLine (credit : Credit) : Prop where
  fair : credit.Fair
  behind : ∀ waiter ∈ credit.waiters.tail, waiter.held = 0

theorem assign_behind (amount : Nat) (waiters : List CreditWaiter)
    (behind : ∀ waiter ∈ waiters.tail, waiter.held = 0) :
    ∀ waiter ∈ (assign amount waiters).2.2.tail, waiter.held = 0 := by
  induction waiters generalizing amount with
  | nil => exact fun _ member => absurd member List.not_mem_nil
  | cons waiter rest inductionHypothesis =>
      by_cases short : waiter.held + amount < waiter.needed
      · rw [assign_of_short amount rest short]
        exact behind
      · rw [assign_of_enough amount rest short]
        exact inductionHypothesis _ fun other member => behind other (List.mem_of_mem_tail member)

/-- Those behind the first that is left were behind the first before. -/
theorem filter_behind {waiters : List CreditWaiter} (keep : CreditWaiter → Bool)
    (behind : ∀ waiter ∈ waiters.tail, waiter.held = 0) :
    ∀ waiter ∈ (waiters.filter keep).tail, waiter.held = 0 := by
  cases waiters with
  | nil => exact fun _ member => absurd member List.not_mem_nil
  | cons waiter rest =>
      intro other member
      apply behind
      rw [List.filter_cons] at member
      split at member
      · exact (List.mem_filter.1 member).1
      · exact (List.mem_filter.1 (List.mem_of_mem_tail member)).1

theorem Fair.move {credit after : Credit} (fair : credit.Fair) (move : Move credit after) :
    after.Fair := by
  cases move with
  | take amount => exact fair.take amount
  | wait waits => exact (fair.wait waits).1
  | release amount => exact fair.release amount
  | forget ticket => exact fair.forget ticket
  | close => exact ⟨fair.lacking, fair.spent⟩

theorem InLine.move {credit after : Credit} (inLine : credit.InLine) (move : Move credit after) :
    after.InLine := by
  refine ⟨inLine.fair.move move, ?_⟩
  cases move with
  | take | close => exact inLine.behind
  | release amount => exact assign_behind amount credit.waiters inLine.behind
  | forget ticket => exact filter_behind _ inLine.behind
  | wait waits =>
      obtain ⟨-, -, rfl⟩ := acquire_waiting waits
      cases line : credit.waiters with
      | nil => exact fun _ member => absurd member List.not_mem_nil
      | cons first rest =>
          -- Somebody waits already, so nothing is free that the new one could take.
          have nothing : credit.free = 0 :=
            inLine.fair.spent (line ▸ List.cons_ne_nil first rest)
          intro waiter member
          rcases List.mem_append.1 member with before | isNew
          · apply inLine.behind
            rw [line]
            exact before
          · rw [List.mem_singleton.1 isNew]
            exact nothing

theorem InLine.moves {before after : Credit × Nat} (inLine : before.1.InLine)
    (moves : TicketMoves before after) : after.1.InLine := by
  induction moves with
  | refl => exact inLine
  | tail _ move inductionHypothesis => exact inductionHypothesis.move move.move

/-- What is held in line, the first holds. -/
theorem InLine.heldIn_eq {credit : Credit} (inLine : credit.InLine) {first : CreditWaiter}
    {rest : List CreditWaiter} (line : credit.waiters = first :: rest) :
    heldIn credit.waiters = first.held := by
  have behind := inLine.behind
  rw [line] at behind ⊢
  have nothing : heldIn rest = 0 := by
    rw [heldIn_eq_sum, List.sum_eq_zero_iff_forall_eq_nat]
    intro held member
    obtain ⟨waiter, isBehind, rfl⟩ := List.mem_map.1 member
    exact behind waiter isBehind
  rw [heldIn, nothing, Nat.add_zero]

/-! ### The order of the requests -/

/-- The requests under way, those that were filled before those that still wait. -/
def line (credit : Credit) : List (Nat × Nat) :=
  credit.granted ++ credit.waiters.map CreditWaiter.demand

/-- The requests stand in the order of their tickets, and the next ticket is behind them all. -/
structure Ordered (credit : Credit) (next : Nat) : Prop where
  rising : credit.line.Pairwise fun earlier later => earlier.1 < later.1
  fresh : ∀ demand ∈ credit.line, demand.1 < next

theorem Ordered.of_sublist {credit after : Credit} {next : Nat} (ordered : credit.Ordered next)
    (sublist : after.line.Sublist credit.line) : after.Ordered next where
  rising := ordered.rising.sublist sublist
  fresh := fun demand member => ordered.fresh demand (sublist.subset member)

/-- Credit that is returned fills requests from the front of those that wait. -/
theorem release_line (credit : Credit) (amount : Nat) : (credit.release amount).line = credit.line := by
  show (credit.granted ++ (assign amount credit.waiters).2.1) ++
    (assign amount credit.waiters).2.2.map CreditWaiter.demand = _
  rw [List.append_assoc, assign_demands]
  rfl

theorem forget_line (credit : Credit) (ticket : Nat) :
    (credit.forget ticket).line = credit.line.filter fun demand => demand.1 != ticket := by
  simp only [line, forget, List.filter_append, List.filter_map]
  rfl

theorem Ordered.wait {credit after : Credit} {next needed : Nat} (ordered : credit.Ordered next)
    (waits : credit.acquire next needed = (after, .waiting)) : after.Ordered (next + 1) := by
  obtain ⟨-, -, rfl⟩ := acquire_waiting waits
  have lengthened (held : Nat) :
      ({ credit with free := 0, waiters := credit.waiters ++ [⟨next, needed, held⟩] } : Credit).line =
        credit.line ++ [(next, needed)] := by
    simp only [line, List.map_append, List.append_assoc, List.map_singleton, CreditWaiter.demand]
  constructor
  · rw [lengthened, List.pairwise_append]
    refine ⟨ordered.rising, List.pairwise_singleton _ _, ?_⟩
    intro earlier before later isNew
    rw [List.mem_singleton.1 isNew]
    exact ordered.fresh earlier before
  · intro demand member
    rw [lengthened] at member
    rcases List.mem_append.1 member with before | isNew
    · exact Nat.lt_succ_of_lt (ordered.fresh demand before)
    · rw [List.mem_singleton.1 isNew]
      exact Nat.lt_succ_self next

theorem Ordered.move {before after : Credit × Nat} (ordered : before.1.Ordered before.2)
    (move : TicketMove before after) : after.1.Ordered after.2 := by
  cases move with
  | take | close => exact ⟨ordered.rising, ordered.fresh⟩
  | wait waits => exact ordered.wait waits
  | @release credit _ amount =>
      have sameLine := release_line credit amount
      exact ⟨sameLine ▸ ordered.rising, sameLine ▸ ordered.fresh⟩
  | forget ticket =>
      apply ordered.of_sublist
      rw [forget_line]
      exact List.filter_sublist

theorem Ordered.moves {before after : Credit × Nat} (ordered : before.1.Ordered before.2)
    (moves : TicketMoves before after) : after.1.Ordered after.2 := by
  induction moves with
  | refl => exact ordered
  | tail _ move inductionHypothesis => exact inductionHypothesis.move move

/-- A request is not filled before one that was made earlier. -/
theorem Ordered.granted_of_lt {credit : Credit} {next earlier later amount other : Nat}
    (ordered : credit.Ordered next) (before : earlier < later)
    (demanded : (earlier, amount) ∈ credit.demands) (granted : (later, other) ∈ credit.granted) :
    (earlier, amount) ∈ credit.granted := by
  rcases List.mem_append.1 demanded with waits | isGranted
  · have behind := (List.pairwise_append.1 ordered.rising).2.2 _ granted _ waits
    exact absurd behind (Nat.lt_asymm before)
  · exact isGranted

end Credit

namespace Outbox

/-! ### Operations on an output -/

@[simp] theorem push_credit (box : Outbox) (message : Message) (credit : Nat) :
    (box.push message credit).1.credit = box.credit := by
  unfold push
  split
  · rfl
  · split <;> rfl

@[simp] theorem close_credit (box : Outbox) : box.close.1.credit = box.credit := by
  unfold close
  split
  · rfl
  · split <;> rfl

@[simp] theorem push_nextTicket (box : Outbox) (message : Message) (credit : Nat) :
    (box.push message credit).1.nextTicket = box.nextTicket := by
  unfold push
  split
  · rfl
  · split <;> rfl

@[simp] theorem close_nextTicket (box : Outbox) : box.close.1.nextTicket = box.nextTicket := by
  unfold close
  split
  · rfl
  · split <;> rfl

/-- The credit of an output with the ticket that is given out next. -/
def ticketed (box : Outbox) : Credit × Nat :=
  (box.credit, box.nextTicket)

theorem ticketed_push (box : Outbox) (message : Message) (credit : Nat) :
    (box.push message credit).1.ticketed = box.ticketed :=
  Prod.ext (push_credit box message credit) (push_nextTicket box message credit)

theorem ticketed_close (box : Outbox) : box.close.1.ticketed = box.ticketed :=
  Prod.ext (close_credit box) (close_nextTicket box)

theorem send_moves (box : Outbox) (message : Message) :
    Credit.TicketMoves box.ticketed (box.send message).1.ticketed := by
  unfold send
  split
  · exact .refl
  · split
    · exact .refl
    next asked =>
      rw [ticketed_push]
      exact Credit.acquire_moves asked
    next asked => exact Credit.acquire_moves asked

theorem resume_moves (box : Outbox) (ticket : Nat) :
    Credit.TicketMoves box.ticketed (box.resume ticket).1.ticketed := by
  have moves := box.credit.resume_moves box.nextTicket ticket
  unfold resume
  split
  · exact .refl
  · split
    · exact .refl
    next resumed =>
      rw [resumed] at moves
      exact moves
    next resumed =>
      rw [resumed] at moves
      rw [ticketed_push]
      exact moves

theorem trySend_moves (box : Outbox) (message : Message) :
    Credit.TicketMoves box.ticketed (box.trySend message).1.ticketed := by
  have moves := box.credit.tryAcquire_moves box.nextTicket message.cost
  unfold trySend
  split
  · exact .refl
  · split
    · exact .refl
    · exact .refl
    next asked =>
      rw [asked] at moves
      rw [ticketed_push]
      exact moves

theorem askAnew_moves (box : Outbox) (writer amount : Nat) :
    Credit.TicketMoves box.ticketed (pollCredit.askAnew writer amount box).1.ticketed := by
  unfold pollCredit.askAnew
  split
  next asked => exact Credit.acquire_moves asked
  next credit acquired notWaiting asked =>
    have moves := Credit.acquire_moves asked
    rw [if_neg notWaiting] at moves
    exact moves

theorem dropPoll_moves (box : Outbox) (writer : Nat) :
    Credit.TicketMoves box.ticketed (box.dropPoll writer).ticketed := by
  unfold dropPoll
  split
  · exact .refl
  · exact box.credit.cancel_moves box.nextTicket _

theorem pollCredit_moves (box : Outbox) (writer amount : Nat) :
    Credit.TicketMoves box.ticketed (box.pollCredit writer amount).1.ticketed := by
  unfold pollCredit
  split
  next wait _ =>
    split
    · have moves := box.credit.resume_moves box.nextTicket wait.ticket
      split
      · exact .refl
      next resumed =>
        rw [resumed] at moves
        exact moves
    · exact (box.dropPoll_moves writer).trans ((box.dropPoll writer).askAnew_moves writer amount)
  · exact box.askAnew_moves writer amount

theorem pollWrite_moves (box : Outbox) (writer : Nat) (code : Option UInt32)
    (content : ByteArray) :
    Credit.TicketMoves box.ticketed (box.pollWrite writer code content).1.ticketed := by
  have moves := box.pollCredit_moves writer (min content.size outputWindow)
  unfold pollWrite
  split
  · exact .refl
  · split
    · exact .refl
    · dsimp only
      split
      next polled =>
        rw [polled] at moves
        exact moves
      next polled =>
        rw [polled] at moves
        exact moves
      next polled =>
        rw [polled] at moves
        rw [ticketed_push]
        exact moves

/-- Whatever is done with an output, its credit makes moves. -/
theorem step_moves (box : Outbox) (act : OutputAct) :
    Credit.TicketMoves box.ticketed (box.step act).ticketed := by
  cases act with
  | stream act =>
      cases act with
      | send code content => exact box.send_moves _
      | resume ticket => exact box.resume_moves ticket
      | cancel ticket =>
          show Credit.TicketMoves box.ticketed
            (if (box.sends.lookup ticket).isSome then box.cancel ticket else box).ticketed
          split
          · exact box.credit.cancel_moves box.nextTicket ticket
          · exact .refl
      | trySend code content => exact box.trySend_moves _
      | eof => exact ticketed_push box .eof 0 ▸ .refl
      | pollWrite writer code content => exact box.pollWrite_moves writer code content
      | dropPoll writer => exact box.dropPoll_moves writer
      | take =>
          show Credit.TicketMoves box.ticketed (box.performStream .take).1.ticketed
          unfold performStream
          cases taken : box.take? with
          | none => exact .refl
          | some pair =>
              simp only [take?, Option.map_eq_some_iff, Prod.exists] at taken
              obtain ⟨_, credit, _, -, rfl⟩ := taken
              exact .single (.release credit)
      | detach => exact .single .close
      | addWriter | dropWriter => exact .refl
  | exitStatus status => exact ticketed_push box (.exitStatus status) 0 ▸ .refl
  | close => exact ticketed_close box ▸ .refl

theorem inLine_run {box : Outbox} (inLine : box.credit.InLine) (acts : List OutputAct) :
    (box.run acts).credit.InLine := by
  have kept (box : Outbox) (act : OutputAct) (inLine : box.ticketed.1.InLine) :
      (box.step act).ticketed.1.InLine := inLine.moves (box.step_moves act)
  exact runFrom_induction Outbox.step (fun box => box.credit.InLine) kept inLine acts

theorem inLine_ofOffer (offer : ChannelOffer) (awaited : Bool) :
    (Channel.ofOffer offer awaited).output.credit.InLine := by
  have nobody : (Channel.ofOffer offer awaited).output.credit.waiters = [] := by
    cases awaited <;> rfl
  refine ⟨⟨?_, fun somebody => absurd nobody somebody⟩, ?_⟩
  · rw [nobody]
    exact fun _ member => absurd member List.not_mem_nil
  · rw [nobody]
    exact fun _ member => absurd member List.not_mem_nil

theorem ordered_run {box : Outbox} (ordered : box.credit.Ordered box.nextTicket)
    (acts : List OutputAct) : (box.run acts).credit.Ordered (box.run acts).nextTicket := by
  have kept (box : Outbox) (act : OutputAct) (ordered : box.ticketed.1.Ordered box.ticketed.2) :
      (box.step act).ticketed.1.Ordered (box.step act).ticketed.2 :=
    ordered.moves (box.step_moves act)
  exact runFrom_induction Outbox.step (fun box => box.credit.Ordered box.nextTicket) kept ordered
    acts

theorem ordered_ofOffer (offer : ChannelOffer) (awaited : Bool) :
    (Channel.ofOffer offer awaited).output.credit.Ordered
      (Channel.ofOffer offer awaited).output.nextTicket := by
  have nobody : (Channel.ofOffer offer awaited).output.credit.line = [] := by
    cases awaited <;> rfl
  refine ⟨?_, ?_⟩
  · rw [nobody]
    exact List.Pairwise.nil
  · rw [nobody]
    exact fun _ member => absurd member List.not_mem_nil

end Outbox

end SshServer
