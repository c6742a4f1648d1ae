import Mathlib.Data.List.Nodup
import SshServer.Proofs.Output.Credit
import SshServer.Proofs.Output.Run

/-!
Contract: the ledger of an output, which says where the credit of its window is.

Owns: the four places of credit, the ledger, and the moves of credit that keep it.
Does not own: the laws of a supply of credit (`Proofs.Output.Credit`), and which moves an operation
of a writer or of the transport makes (`Proofs.Output.Window`).

Credit is in one of three places: free, assigned to a send or a poll that waits or has not gone on
since it was filled, or stored with a queued message. An operation moves it in two steps, so the
ledger has a fourth place for what an operation took up and has not stored yet. What an operation on
a closed output took up is spent, so there the sum only shrinks.
-/

namespace SshServer.Outbox

/-- The credit that the queued messages hold. -/
def stored (box : Outbox) : Nat :=
  (box.queue.toList.map Prod.snd).sum

/-- The tickets of the sends and polls that wait, each with the amount asked for. -/
def demands (box : Outbox) : List (Nat × Nat) :=
  box.sends.map (fun entry => (entry.1, entry.2.cost)) ++
    box.polls.map fun entry => (entry.2.ticket, entry.2.amount)

/-- The credit assigned to sends and polls that wait, or that were filled and have not gone on. -/
def assigned (box : Outbox) : Nat :=
  (box.sends.map fun entry => box.credit.heldBy entry.1).sum +
    (box.polls.map fun entry => box.credit.heldBy entry.2.ticket).sum

/-- Where the credit of the window is, while an operation has `inHand` of it. -/
structure Ledger (box : Outbox) (inHand : Nat) : Prop where
  fair : box.credit.Fair
  /-- The requests for credit are those of the sends and polls that wait. -/
  matched : box.demands.Perm box.credit.demands
  distinct : (box.demands.map Prod.fst).Nodup
  fresh : ∀ demand ∈ box.demands, demand.1 < box.nextTicket
  pollers : (box.polls.map Prod.fst).Nodup
  /-- A supply ends only when the transport leaves. -/
  ended : box.credit.closed = true → box.attached = false
  costs : ∀ entry ∈ box.queue.toList, entry.2 = entry.1.cost
  bounded : box.credit.total + box.stored + inHand ≤ outputWindow
  balanced : box.attached = true → box.closed = false →
    box.credit.total + box.stored + inHand = outputWindow

/-- A queued message stores the credit that it holds. -/
theorem stored_push (box : Outbox) (message : Message) (credit : Nat) :
    ((box.queue.push (message, credit)).toList.map Prod.snd).sum = box.stored + credit := by
  rw [Fifo.toList_push, List.map_append, List.sum_append, List.map_singleton, List.sum_singleton,
    stored]

/-- A message that is taken gives back the credit that it held. -/
theorem take_total {box after : Outbox} {message : Message} (fair : box.credit.Fair)
    (taken : box.take? = some (message, after)) :
    after.credit.total + after.stored = box.credit.total + box.stored := by
  simp only [take?, Option.map_eq_some_iff, Prod.mk.injEq, Prod.exists] at taken
  obtain ⟨first, credit, queue, popped, -, rfl⟩ := taken
  have stores : box.stored = credit + (queue.toList.map Prod.snd).sum := by
    rw [stored, Fifo.toList_of_pop? popped, List.map_cons, List.sum_cons]
  show (box.credit.release credit).total + (queue.toList.map Prod.snd).sum = _
  rw [fair.release_total, stores, Nat.add_assoc]

namespace Ledger

section Moves

variable {box after : Outbox} {ticket amount : Nat}

/-- A move of credit that leaves the queue and the marks as they are. -/
theorem of_credit {before now : Nat} (ledger : Ledger box before) (fair : after.credit.Fair)
    (matched : after.demands.Perm after.credit.demands)
    (distinct : (after.demands.map Prod.fst).Nodup)
    (fresh : ∀ demand ∈ after.demands, demand.1 < after.nextTicket)
    (pollers : (after.polls.map Prod.fst).Nodup)
    (supply : after.credit.closed = box.credit.closed) (queue : after.queue = box.queue)
    (closed : after.closed = box.closed) (attached : after.attached = box.attached)
    (shrinks : after.credit.total + now ≤ box.credit.total + before)
    (total : after.attached = true → after.credit.total + now = box.credit.total + before) :
    Ledger after now := by
  have sameStored : after.stored = box.stored := by rw [stored, queue, stored]
  refine ⟨fair, matched, distinct, fresh, pollers, ?_, ?_, ?_, ?_⟩
  · rw [supply, attached]
    exact ledger.ended
  · rw [queue]
    exact ledger.costs
  · have bounded := ledger.bounded
    omega
  · intro isAttached isOpen
    have sum := total isAttached
    have balanced := ledger.balanced (attached ▸ isAttached) (closed ▸ isOpen)
    omega

/-- Free credit is taken up at once. -/
theorem takeUp (ledger : Ledger box 0) (enough : amount ≤ box.credit.free) :
    Ledger { box with credit := { box.credit with free := box.credit.free - amount } } amount := by
  have sum := Credit.take_total enough
  apply ledger.of_credit
  case fair => exact ledger.fair.take amount
  case matched => exact ledger.matched
  case distinct => exact ledger.distinct
  case fresh => exact ledger.fresh
  case pollers => exact ledger.pollers
  case shrinks => exact Nat.le_of_eq sum
  case total => exact fun _ => sum
  all_goals rfl

/-- A new request waits, under the next ticket. -/
theorem wait {credit : Credit} (ledger : Ledger box 0)
    (waits : box.credit.acquire box.nextTicket amount = (credit, .waiting))
    (asked : after.demands.Perm (box.demands ++ [(box.nextTicket, amount)]))
    (pollers : (after.polls.map Prod.fst).Nodup) (supplied : after.credit = credit)
    (next : after.nextTicket = box.nextTicket + 1) (queue : after.queue = box.queue)
    (closed : after.closed = box.closed) (attached : after.attached = box.attached) :
    Ledger after 0 := by
  obtain ⟨fair, total, demands⟩ := ledger.fair.wait waits
  have supply : credit.closed = box.credit.closed := by
    rw [(Credit.acquire_waiting waits).2.2]
  have newTicket : box.nextTicket ∉ box.demands.map Prod.fst := by
    intro member
    obtain ⟨demand, inDemands, same⟩ := List.mem_map.1 member
    have below := ledger.fresh demand inDemands
    omega
  apply ledger.of_credit (supplied ▸ fair) ?_ ?_ ?_ pollers (supplied ▸ supply) queue closed
    attached
  · exact Nat.le_of_eq (by rw [supplied, total])
  · intro _
    rw [supplied, total]
  · rw [supplied]
    exact asked.trans ((ledger.matched.append_right _).trans demands.symm)
  · rw [(asked.map Prod.fst).nodup_iff, List.map_append, List.map_singleton, List.nodup_append]
    refine ⟨ledger.distinct, List.nodup_cons.2 ⟨List.not_mem_nil, List.nodup_nil⟩, ?_⟩
    intro old member new isNew same
    rw [List.mem_singleton.1 isNew] at same
    rw [same] at member
    exact newTicket member
  · intro demand member
    rw [next]
    rcases List.mem_append.1 (asked.mem_iff.1 member) with old | isNew
    · exact Nat.lt_succ_of_lt (ledger.fresh demand old)
    · rw [List.mem_singleton.1 isNew]
      exact Nat.lt_succ_self _

/-- The facts about tickets that remain when one of them is removed. -/
theorem remove_ticket {credit : Credit} (ledger : Ledger box 0)
    (demands : credit.demands.Perm (box.credit.demands.filter fun demand => demand.1 != ticket))
    (asked : after.demands = box.demands.filter fun demand => demand.1 != ticket)
    (next : after.nextTicket = box.nextTicket) :
    after.demands.Perm credit.demands ∧ (after.demands.map Prod.fst).Nodup ∧
      ∀ demand ∈ after.demands, demand.1 < after.nextTicket := by
  refine ⟨?_, ?_, ?_⟩
  · rw [asked]
    exact (ledger.matched.filter _).trans demands.symm
  · rw [asked]
    exact ledger.distinct.sublist (List.filter_sublist.map Prod.fst)
  · intro demand member
    rw [asked] at member
    rw [next]
    exact ledger.fresh demand (List.mem_filter.1 member).1

/-- A request is given up, and what it held goes back into the window. -/
theorem giveUp (ledger : Ledger box 0)
    (asked : after.demands = box.demands.filter fun demand => demand.1 != ticket)
    (pollers : (after.polls.map Prod.fst).Nodup)
    (supplied : after.credit = box.credit.cancel ticket)
    (next : after.nextTicket = box.nextTicket) (queue : after.queue = box.queue)
    (closed : after.closed = box.closed) (attached : after.attached = box.attached) :
    Ledger after 0 := by
  obtain ⟨matched, distinct, fresh⟩ := ledger.remove_ticket
    (Credit.cancel_demands box.credit ticket) asked next
  have total := ledger.fair.cancel_total ticket
  apply ledger.of_credit (supplied ▸ ledger.fair.cancel ticket) (supplied ▸ matched) distinct fresh
    pollers (by rw [supplied]; rfl) queue closed attached
  · exact Nat.le_of_eq (by rw [supplied, total])
  · intro _
    rw [supplied, total]

/-- A filled request holds what was asked for. -/
theorem heldBy_of_granted {inHand : Nat} {credit : Credit} (ledger : Ledger box inHand)
    (granted : box.credit.resume ticket = (credit, .granted))
    (demanded : (ticket, amount) ∈ box.demands) : box.credit.heldBy ticket = amount := by
  obtain ⟨⟨held, filled⟩, -⟩ := Credit.resume_granted granted
  -- The ticket has one demand, so what the grant holds is what was asked for.
  have grantDemanded : (ticket, held) ∈ box.demands :=
    ledger.matched.mem_iff.2 (List.mem_append_right _ filled)
  have sameDemand : [(ticket, held)] = [(ticket, amount)] := by
    rw [← Credit.filter_key_eq_singleton ledger.distinct grantDemanded,
      Credit.filter_key_eq_singleton ledger.distinct demanded]
  have sameAmount : held = amount := by
    simpa using sameDemand
  rw [← sameAmount]
  exact Credit.heldBy_of_granted ((ledger.matched.map Prod.fst).nodup_iff.1 ledger.distinct) filled

/-- A filled request goes on, and the operation has in hand what was asked for. -/
theorem goOn {credit : Credit} (ledger : Ledger box 0)
    (granted : box.credit.resume ticket = (credit, .granted))
    (demanded : (ticket, amount) ∈ box.demands)
    (asked : after.demands = box.demands.filter fun demand => demand.1 != ticket)
    (pollers : (after.polls.map Prod.fst).Nodup) (supplied : after.credit = credit)
    (next : after.nextTicket = box.nextTicket) (queue : after.queue = box.queue)
    (closed : after.closed = box.closed) (attached : after.attached = box.attached) :
    Ledger after amount := by
  have holds := ledger.heldBy_of_granted granted demanded
  obtain ⟨-, rfl⟩ := Credit.resume_granted granted
  obtain ⟨matched, distinct, fresh⟩ := ledger.remove_ticket
    (List.Perm.of_eq (Credit.forget_demands box.credit ticket)) asked next
  have total := Credit.forget_total box.credit ticket
  rw [holds] at total
  apply ledger.of_credit (supplied ▸ ledger.fair.forget ticket) (supplied ▸ matched) distinct fresh
    pollers (by rw [supplied]; rfl) queue closed attached
  · rw [supplied]
    exact Nat.le_of_eq total
  · intro _
    rw [supplied]
    exact total

/-- A request that finds the supply ended is over, and what it held is gone with the transport. -/
theorem fail {credit : Credit} (ledger : Ledger box 0)
    (closedSupply : box.credit.resume ticket = (credit, .closed))
    (asked : after.demands = box.demands.filter fun demand => demand.1 != ticket)
    (pollers : (after.polls.map Prod.fst).Nodup) (supplied : after.credit = credit)
    (next : after.nextTicket = box.nextTicket) (queue : after.queue = box.queue)
    (closed : after.closed = box.closed) (attached : after.attached = box.attached) :
    Ledger after 0 := by
  obtain ⟨isClosed, rfl⟩ := Credit.resume_closed closedSupply
  obtain ⟨matched, distinct, fresh⟩ := ledger.remove_ticket
    (List.Perm.of_eq (Credit.forget_demands box.credit ticket)) asked next
  have total := Credit.forget_total box.credit ticket
  apply ledger.of_credit (supplied ▸ ledger.fair.forget ticket) (supplied ▸ matched) distinct fresh
    pollers (by rw [supplied]; rfl) queue closed attached
  · rw [supplied]
    omega
  · intro isAttached
    rw [attached, ledger.ended isClosed] at isAttached
    exact absurd isAttached Bool.false_ne_true

/-- What is in hand is stored with the message that it was taken up for. -/
theorem push {message : Message} {credit : Nat} (ledger : Ledger box credit)
    (worth : credit = message.cost) : Ledger (box.push message credit).1 0 := by
  have bounded := ledger.bounded
  unfold Outbox.push
  split
  next isClosed =>
    refine { ledger with bounded := ?_, balanced := ?_ }
    · show box.credit.total + box.stored + 0 ≤ outputWindow
      omega
    · intro _ isOpen
      rw [isClosed] at isOpen
      exact absurd isOpen (Bool.true_eq_false.mp)
  next isOpen =>
    split
    next isAttached =>
      have stores : ({ box with queue := box.queue.push (message, credit) } : Outbox).stored =
          box.stored + credit := box.stored_push message credit
      refine { ledger with costs := ?_, bounded := ?_, balanced := ?_ }
      · intro entry member
        rw [Fifo.toList_push] at member
        rcases List.mem_append.1 member with before | isNew
        · exact ledger.costs entry before
        · rw [List.mem_singleton.1 isNew]
          exact worth
      · rw [stores]
        show box.credit.total + (box.stored + credit) + 0 ≤ outputWindow
        omega
      · intro _ stillOpen
        have balanced := ledger.balanced isAttached stillOpen
        rw [stores]
        show box.credit.total + (box.stored + credit) + 0 = outputWindow
        omega
    next isLeft =>
      refine { ledger with bounded := ?_, balanced := ?_ }
      · show box.credit.total + box.stored + 0 ≤ outputWindow
        omega
      · intro isAttached
        exact absurd isAttached isLeft

end Moves

/-! ### Removing a send or a poll -/

section Removal

variable {box : Outbox} {ticket : Nat}

/-- A ticket of a send is not the ticket of a poll, so only the send goes. -/
theorem forgetSend_demands {inHand : Nat} (ledger : Ledger box inHand) {message : Message}
    (waits : (ticket, message) ∈ box.sends) :
    (box.forgetSend ticket).demands = box.demands.filter fun demand => demand.1 != ticket := by
  have distinct := ledger.distinct
  rw [demands, List.map_append, List.nodup_append] at distinct
  have amongSends : ticket ∈ (box.sends.map fun entry => (entry.1, entry.2.cost)).map Prod.fst :=
    List.mem_map.2 ⟨(ticket, message.cost), List.mem_map.2 ⟨(ticket, message), waits, rfl⟩, rfl⟩
  have pollsStay : ∀ demand ∈ box.polls.map (fun entry => (entry.2.ticket, entry.2.amount)),
      (demand.1 != ticket) = true := by
    intro demand member
    have different := distinct.2.2 ticket amongSends demand.1 (List.mem_map_of_mem member)
    exact bne_iff_ne.2 (Ne.symm different)
  rw [demands, demands, List.filter_append, List.filter_eq_self.2 pollsStay, forgetSend,
    List.filter_map]
  rfl

/-- A polling writer has one poll with one ticket, so only that poll goes. -/
theorem forgetPoll_demands {inHand : Nat} (ledger : Ledger box inHand) {writer : Nat}
    {wait : PollWait} (waits : (writer, wait) ∈ box.polls) :
    (box.forgetPoll writer).demands =
      box.demands.filter fun demand => demand.1 != wait.ticket := by
  have distinct := ledger.distinct
  rw [demands, List.map_append, List.nodup_append] at distinct
  have amongPolls : wait.ticket ∈
      (box.polls.map fun entry => (entry.2.ticket, entry.2.amount)).map Prod.fst :=
    List.mem_map.2 ⟨(wait.ticket, wait.amount), List.mem_map.2 ⟨(writer, wait), waits, rfl⟩, rfl⟩
  have sendsStay : ∀ demand ∈ box.sends.map (fun entry => (entry.1, entry.2.cost)),
      (demand.1 != wait.ticket) = true := by
    intro demand member
    have different := distinct.2.2 demand.1 (List.mem_map_of_mem member) wait.ticket amongPolls
    exact bne_iff_ne.2 different
  have tickets : (box.polls.map fun entry => entry.2.ticket).Nodup := by
    have ofPolls := distinct.2.1
    rw [List.map_map] at ofPolls
    exact ofPolls
  have sameChoice : ∀ entry ∈ box.polls,
      (entry.1 != writer) = (entry.2.ticket != wait.ticket) := by
    intro entry member
    by_cases isWriter : entry.1 = writer
    · have sameEntry : entry = (writer, wait) :=
        List.inj_on_of_nodup_map ledger.pollers member waits isWriter
      rw [sameEntry, bne_self_eq_false, bne_self_eq_false]
    · have otherTicket : entry.2.ticket ≠ wait.ticket := by
        intro sameTicket
        have sameEntry : entry = (writer, wait) :=
          List.inj_on_of_nodup_map tickets member waits sameTicket
        rw [sameEntry] at isWriter
        exact isWriter rfl
      rw [bne_iff_ne.2 isWriter, bne_iff_ne.2 otherTicket]
  rw [demands, demands, List.filter_append, List.filter_eq_self.2 sendsStay, forgetPoll,
    List.filter_map, List.filter_congr sameChoice]
  rfl

end Removal

end Ledger

end SshServer.Outbox
