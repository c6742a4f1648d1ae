import Mathlib.Algebra.Order.BigOperators.Group.List
import Mathlib.Algebra.Order.Group.Nat
import SshServer.Proofs.Output.Ledger

/-!
Contract: the output window of a channel is conserved.

Owns: which moves of credit every operation makes, that every run keeps the ledger, and the bound on
the bytes under way that follows from it.
Does not own: the moves themselves (`Proofs.Output.Ledger`).
-/

namespace SshServer.Outbox

namespace Ledger

variable {box : Outbox}

/-! ### Sends -/

theorem send (ledger : Ledger box 0) (message : Message) : Ledger (box.send message).1 0 := by
  unfold Outbox.send
  split
  · exact ledger
  · split
    · exact ledger
    next credit granted =>
      obtain ⟨enough, rfl⟩ := Credit.acquire_granted granted
      exact (ledger.takeUp enough).push rfl
    next credit waits =>
      apply ledger.wait waits
      case asked =>
        rw [demands, demands, List.map_append, List.map_singleton, List.append_assoc,
          List.append_assoc]
        exact List.perm_append_comm.append_left _
      case pollers => exact ledger.pollers
      all_goals rfl

theorem resume (ledger : Ledger box 0) (ticket : Nat) : Ledger (box.resume ticket).1 0 := by
  unfold Outbox.resume
  split
  · exact ledger
  next message found =>
    have waits := mem_of_lookup found
    have asked := ledger.forgetSend_demands waits
    split
    · exact ledger
    next credit ended =>
      exact ledger.fail ended asked ledger.pollers rfl rfl rfl rfl rfl
    next credit granted =>
      have demanded : (ticket, message.cost) ∈ box.demands :=
        List.mem_append_left _ (List.mem_map.2 ⟨(ticket, message), waits, rfl⟩)
      have inHand : Ledger { box.forgetSend ticket with credit := credit } message.cost :=
        ledger.goOn granted demanded asked ledger.pollers rfl rfl rfl rfl rfl
      exact inHand.push rfl

theorem cancel (ledger : Ledger box 0) {ticket : Nat} {message : Message}
    (found : box.sends.lookup ticket = some message) : Ledger (box.cancel ticket) 0 :=
  ledger.giveUp (ledger.forgetSend_demands (mem_of_lookup found)) ledger.pollers rfl rfl rfl rfl rfl

theorem trySend (ledger : Ledger box 0) (message : Message) : Ledger (box.trySend message).1 0 := by
  unfold Outbox.trySend
  split
  · exact ledger
  · split
    · exact ledger
    · exact ledger
    next credit granted =>
      obtain ⟨enough, rfl⟩ := Credit.tryAcquire_granted granted
      exact (ledger.takeUp enough).push rfl

/-! ### Polls -/

theorem forgetPoll_pollers (ledger : Ledger box 0) (writer : Nat) :
    ((box.forgetPoll writer).polls.map Prod.fst).Nodup :=
  ledger.pollers.sublist (List.filter_sublist.map Prod.fst)

theorem dropPoll (ledger : Ledger box 0) (writer : Nat) : Ledger (box.dropPoll writer) 0 := by
  unfold Outbox.dropPoll
  split
  · exact ledger
  next wait found =>
    exact ledger.giveUp (ledger.forgetPoll_demands (mem_of_lookup found))
      (ledger.forgetPoll_pollers writer) rfl rfl rfl rfl rfl

/-- What a request for credit leaves in the hand of the operation that makes it. -/
def inHand (amount : Nat) : Credit.Acquired → Nat
  | .granted => amount
  | _ => 0

theorem askAnew {writer amount : Nat} (ledger : Ledger box 0)
    (absent : writer ∉ box.polls.map Prod.fst) :
    let asked := pollCredit.askAnew writer amount box
    Ledger asked.1 (inHand amount asked.2) := by
  unfold pollCredit.askAnew
  split
  next credit waits =>
    apply ledger.wait waits
    case asked =>
      rw [demands, demands, List.map_append, List.map_singleton, List.append_assoc]
    case pollers =>
      rw [List.map_append, List.map_singleton, ← List.concat_eq_append, List.nodup_concat]
      exact ⟨absent, ledger.pollers⟩
    all_goals rfl
  next credit acquired notWaiting asked =>
    cases acquired with
    | granted =>
        obtain ⟨enough, rfl⟩ := Credit.acquire_granted asked
        exact ledger.takeUp enough
    | waiting => exact (notWaiting rfl).elim
    | closed =>
        obtain ⟨-, rfl⟩ := Credit.acquire_closed asked
        exact ledger

theorem pollCredit (ledger : Ledger box 0) (writer amount : Nat) :
    let asked := box.pollCredit writer amount
    Ledger asked.1 (inHand amount asked.2) := by
  unfold Outbox.pollCredit
  split
  next wait found =>
    have waits := mem_of_lookup found
    split
    next sameAmount =>
      have asked := ledger.forgetPoll_demands waits
      have pollers := ledger.forgetPoll_pollers writer
      split
      · exact ledger
      next credit acquired notWaiting resumed =>
        cases acquired with
        | granted =>
            have demanded : (wait.ticket, amount) ∈ box.demands :=
              List.mem_append_right _ (List.mem_map.2 ⟨(writer, wait), waits, by rw [sameAmount]⟩)
            exact ledger.goOn resumed demanded asked pollers rfl rfl rfl rfl rfl
        | waiting => exact (notWaiting rfl).elim
        | closed => exact ledger.fail resumed asked pollers rfl rfl rfl rfl rfl
    · apply (ledger.dropPoll writer).askAnew
      rw [Outbox.dropPoll, found]
      intro member
      obtain ⟨entry, remains, same⟩ := List.mem_map.1 member
      exact bne_iff_ne.1 (List.mem_filter.1 remains).2 same
  next absent =>
    apply ledger.askAnew
    intro member
    obtain ⟨entry, waits, same⟩ := List.mem_map.1 member
    exact bne_iff_ne.1 (List.lookup_eq_none_iff.1 absent entry waits) same.symm

/-- A polled write costs what it takes from the bytes that are written. -/
theorem cost_of_part (code : Option UInt32) (content : ByteArray) :
    (Message.ofStream code (content.extract 0 (min content.size outputWindow))).cost =
      min content.size outputWindow := by
  have carried : (Message.ofStream code
      (content.extract 0 (min content.size outputWindow))).content =
        content.extract 0 (min content.size outputWindow) := by
    cases code with
    | none => rfl
    | some code => rfl
  rw [Message.cost, carried, ByteArray.size_extract]
  omega

theorem pollWrite (ledger : Ledger box 0) (writer : Nat) (code : Option UInt32)
    (content : ByteArray) : Ledger (box.pollWrite writer code content).1 0 := by
  unfold Outbox.pollWrite
  split
  · exact ledger
  · split
    · exact ledger
    · have asked := ledger.pollCredit writer (min content.size outputWindow)
      dsimp only
      split
      next after polled =>
        rw [polled] at asked
        exact asked
      next after polled =>
        rw [polled] at asked
        exact asked
      next after polled =>
        rw [polled] at asked
        exact asked.push (cost_of_part code content).symm

/-! ### Ends -/

theorem close (ledger : Ledger box 0) : Ledger box.close.1 0 := by
  have closes (queue : Fifo (Message × Nat))
      (costs : ∀ entry ∈ queue.toList, entry.2 = entry.1.cost)
      (stores : (queue.toList.map Prod.snd).sum = box.stored) :
      Ledger { box with closed := true, queue } 0 := by
    refine { ledger with costs, bounded := ?_, balanced := ?_ }
    · rw [stored, stores]
      exact ledger.bounded
    · exact fun _ isOpen => absurd isOpen (Bool.true_eq_false.mp)
  unfold Outbox.close
  split
  · exact ledger
  · split
    · apply closes
      · intro entry member
        rw [Fifo.toList_push] at member
        rcases List.mem_append.1 member with before | isClose
        · exact ledger.costs entry before
        · rw [List.mem_singleton.1 isClose]
          rfl
      · exact box.stored_push .close 0
    · exact closes box.queue ledger.costs rfl

/-- The credit of a message that is taken goes back into the window. -/
theorem take {after : Outbox} {message : Message} (ledger : Ledger box 0)
    (taken : box.take? = some (message, after)) : Ledger after 0 := by
  have total := take_total ledger.fair taken
  simp only [take?, Option.map_eq_some_iff, Prod.mk.injEq, Prod.exists] at taken
  obtain ⟨first, credit, queue, popped, -, rfl⟩ := taken
  have bounded := ledger.bounded
  refine ⟨ledger.fair.release credit, ?_, ledger.distinct, ledger.fresh, ledger.pollers,
    ledger.ended, ?_, ?_, ?_⟩
  · exact ledger.matched.trans (Credit.release_demands box.credit credit).symm
  · intro entry member
    apply ledger.costs
    rw [Fifo.toList_of_pop? popped]
    exact List.mem_cons_of_mem _ member
  · rw [total]
    exact bounded
  · intro isAttached isOpen
    rw [total]
    exact ledger.balanced isAttached isOpen

theorem detach (ledger : Ledger box 0) : Ledger box.detach 0 := by
  have bounded := ledger.bounded
  refine ⟨⟨ledger.fair.lacking, ledger.fair.spent⟩, ledger.matched, ledger.distinct, ledger.fresh,
    ledger.pollers, fun _ => rfl, ?_, ?_, ?_⟩
  · exact fun _ member => absurd member List.not_mem_nil
  · show box.credit.total + 0 + 0 ≤ outputWindow
    omega
  · exact fun isAttached => absurd isAttached Bool.false_ne_true

/-! ### Runs -/

theorem performStream (ledger : Ledger box 0) (act : StreamAct) :
    Ledger (box.performStream act).1 0 := by
  cases act with
  | send code content => exact ledger.send _
  | resume ticket => exact ledger.resume ticket
  | cancel ticket =>
      show Ledger (if (box.sends.lookup ticket).isSome then box.cancel ticket else box) 0
      split
      next waits =>
        obtain ⟨message, found⟩ := Option.isSome_iff_exists.1 waits
        exact ledger.cancel found
      · exact ledger
  | trySend code content => exact ledger.trySend _
  | eof => exact ledger.push rfl
  | pollWrite writer code content => exact ledger.pollWrite writer code content
  | dropPoll writer => exact ledger.dropPoll writer
  | take =>
      unfold Outbox.performStream
      cases taken : box.take? with
      | none => exact ledger
      | some pair => exact ledger.take taken
  | detach => exact ledger.detach
  | addWriter => exact { ledger with }
  | dropWriter => exact { ledger with }

theorem step (ledger : Ledger box 0) (act : OutputAct) : Ledger (box.step act) 0 := by
  cases act with
  | stream act => exact ledger.performStream act
  | exitStatus status => exact ledger.push rfl
  | close => exact ledger.close

theorem run (ledger : Ledger box 0) (acts : List OutputAct) : Ledger (box.run acts) 0 :=
  runFrom_induction Outbox.step (fun box => Ledger box 0) (fun _ act kept => kept.step act)
    ledger acts

/-- At first all credit is free. -/
theorem initial : Ledger {} 0 where
  fair := ⟨fun _ member => absurd member List.not_mem_nil, fun waits => absurd rfl waits⟩
  matched := List.Perm.refl _
  distinct := List.nodup_nil
  fresh := fun _ member => absurd member List.not_mem_nil
  pollers := List.nodup_nil
  ended := fun isClosed => absurd isClosed Bool.false_ne_true
  costs := fun _ member => absurd member List.not_mem_nil
  bounded := Nat.le_refl _
  balanced := fun _ _ => rfl

theorem ofOffer (offer : ChannelOffer) (awaited : Bool) :
    Ledger (Channel.ofOffer offer awaited).output 0 := by
  unfold Channel.ofOffer
  cases awaited with
  | true => exact initial
  | false => exact { initial.detach with }

end Ledger

/-! ### The window -/

/-- The bytes of the data and extended data under way. -/
def bytesQueued (box : Outbox) : Nat :=
  (box.queue.toList.map fun entry => entry.1.content.size).sum

theorem Ledger.free_add_assigned {box : Outbox} (ledger : Ledger box 0) :
    box.credit.free + box.assigned = box.credit.total := by
  have held : (box.demands.map Prod.fst).map box.credit.heldBy =
      (box.sends.map fun entry => box.credit.heldBy entry.1) ++
        box.polls.map fun entry => box.credit.heldBy entry.2.ticket := by
    simp only [demands, List.map_append, List.map_map]
    rfl
  have sum := Credit.total_eq_free_add_held box.credit ledger.distinct
    (fun demand member => List.mem_map_of_mem (ledger.matched.mem_iff.2 member))
  rw [held, List.sum_append] at sum
  exact sum

/-- Where every message holds its cost, a chunk that is larger than the window leaves room for
nothing but empty ones. -/
theorem bytes_le_window_or_alone {entries : List (Message × Nat)}
    (costs : ∀ entry ∈ entries, entry.2 = entry.1.cost)
    (bounded : (entries.map Prod.snd).sum ≤ outputWindow) :
    (entries.map fun entry => entry.1.content.size).sum ≤ outputWindow ∨
      ∃ front chunk back, entries = front ++ chunk :: back ∧
        outputWindow < chunk.1.content.size ∧
        ∀ other ∈ front ++ back, other.1.content.size = 0 := by
  by_cases large : ∃ entry ∈ entries, outputWindow < entry.1.content.size
  · right
    obtain ⟨chunk, member, larger⟩ := large
    obtain ⟨front, back, rfl⟩ := List.append_of_mem member
    refine ⟨front, chunk, back, rfl, larger, ?_⟩
    intro other otherMember
    -- The large chunk holds the whole window, so the other one holds nothing.
    have chunkCost : chunk.2 = outputWindow := by
      rw [costs chunk member, Message.cost]
      exact Nat.min_eq_right (Nat.le_of_lt larger)
    have otherCost : other.2 = min other.1.content.size outputWindow := by
      apply costs
      rcases List.mem_append.1 otherMember with inFront | inBack
      · exact List.mem_append_left _ inFront
      · exact List.mem_append_right _ (List.mem_cons_of_mem _ inBack)
    have otherHeld : other.2 ≤ ((front ++ back).map Prod.snd).sum :=
      List.le_sum_of_mem (List.mem_map_of_mem otherMember)
    simp only [List.map_append, List.map_cons, List.sum_append, List.sum_cons] at bounded otherHeld
    have positive : 0 < outputWindow := by decide
    omega
  · left
    have sameSizes : (entries.map fun entry => entry.1.content.size) = entries.map Prod.snd := by
      apply List.map_congr_left
      intro entry member
      have fits : entry.1.content.size ≤ outputWindow :=
        Nat.le_of_not_lt fun larger => large ⟨entry, member, larger⟩
      rw [costs entry member, Message.cost, Nat.min_eq_left fits]
    rw [sameSizes]
    exact bounded

/-- Whatever writers and the transport do, in any order, no credit of the output window is lost or
made while the output is neither closed nor left; afterwards it only shrinks. So the bytes under way
never exceed the window, unless one chunk alone does. -/
theorem output_window_conserved (offer : ChannelOffer) (awaited : Bool) (acts : List OutputAct) :
    let box := (Channel.ofOffer offer awaited).output.run acts
    (box.attached = true → box.closed = false →
        box.credit.free + box.assigned + box.stored = outputWindow) ∧
      box.credit.free + box.assigned + box.stored ≤ outputWindow ∧
      (box.bytesQueued ≤ outputWindow ∨
        ∃ front chunk back, box.queue.toList = front ++ chunk :: back ∧
          outputWindow < chunk.1.content.size ∧
          ∀ other ∈ front ++ back, other.1.content.size = 0) := by
  intro box
  have ledger : Ledger box 0 := (Ledger.ofOffer offer awaited).run acts
  have sum := ledger.free_add_assigned
  have bounded := ledger.bounded
  refine ⟨?_, ?_, ?_⟩
  · intro isAttached isOpen
    rw [sum]
    exact ledger.balanced isAttached isOpen
  · rw [sum]
    exact bounded
  · apply bytes_le_window_or_alone ledger.costs
    show box.stored ≤ outputWindow
    omega

/-- Two bytes under way, and the window is whole. -/
theorem output_window_conserved_with_byte :
    let box := (Channel.ofOffer ⟨"session", ByteArray.empty⟩ true).output.run
      [.stream (.send none ⟨#[97]⟩), .stream (.pollWrite 0 (some standardError) ⟨#[98]⟩)]
    box.attached = true ∧ box.closed = false ∧ box.stored = 2 ∧
      box.credit.free + box.assigned + box.stored = outputWindow :=
  ⟨rfl, rfl, rfl, (output_window_conserved ⟨"session", ByteArray.empty⟩ true _).1 rfl rfl⟩

end SshServer.Outbox
