import SshServer.Proofs.Output.Run

/-!
Contract: an output that the transport has left.

Owns: that the supply of credit ends with the transport, and what sends are told afterwards, be they
begun then or have they waited.
Does not own: where the credit is while there is a transport (`Proofs.Output.Ledger`).
-/

namespace SshServer

/-! ### The supply of credit -/

namespace Credit

theorem closed_acquire (credit : Credit) (ticket needed : Nat) :
    (credit.acquire ticket needed).1.closed = credit.closed := by
  unfold acquire
  split
  · rfl
  · split <;> rfl

theorem closed_tryAcquire (credit : Credit) (needed : Nat) :
    (credit.tryAcquire needed).1.closed = credit.closed := by
  unfold tryAcquire
  split
  · rfl
  · split <;> rfl

theorem closed_resume (credit : Credit) (ticket : Nat) :
    (credit.resume ticket).1.closed = credit.closed := by
  unfold resume
  split
  · rfl
  · split <;> rfl

end Credit

namespace Outbox

/-- Without a transport there is no credit to be had. -/
def SupplyEnds (box : Outbox) : Prop :=
  box.attached = false → box.credit.closed = true

/-- The transport is where it was, and so is the supply of credit. -/
structure SameSupply (before after : Outbox) : Prop where
  attached : after.attached = before.attached
  closed : after.credit.closed = before.credit.closed

theorem SameSupply.trans {first second third : Outbox} (earlier : SameSupply first second)
    (later : SameSupply second third) : SameSupply first third where
  attached := later.attached.trans earlier.attached
  closed := later.closed.trans earlier.closed

theorem SameSupply.supplyEnds {before after : Outbox} (same : SameSupply before after)
    (ends : before.SupplyEnds) : after.SupplyEnds := by
  intro isLeft
  rw [same.closed]
  exact ends (same.attached.symm.trans isLeft)

theorem push_supply (box : Outbox) (message : Message) (credit : Nat) :
    SameSupply box (box.push message credit).1 := by
  unfold push
  split
  · exact ⟨rfl, rfl⟩
  · split <;> exact ⟨rfl, rfl⟩

theorem close_supply (box : Outbox) : SameSupply box box.close.1 := by
  unfold close
  split
  · exact ⟨rfl, rfl⟩
  · split <;> exact ⟨rfl, rfl⟩

theorem send_supply (box : Outbox) (message : Message) : SameSupply box (box.send message).1 := by
  have supply := box.credit.closed_acquire box.nextTicket message.cost
  unfold send
  split
  · exact ⟨rfl, rfl⟩
  · split
    · exact ⟨rfl, rfl⟩
    next credit acquired =>
      rw [acquired] at supply
      have taken : SameSupply box { box with credit } := ⟨rfl, supply⟩
      exact taken.trans (push_supply _ message message.cost)
    next acquired =>
      rw [acquired] at supply
      exact ⟨rfl, supply⟩

theorem trySend_supply (box : Outbox) (message : Message) :
    SameSupply box (box.trySend message).1 := by
  have supply := box.credit.closed_tryAcquire message.cost
  unfold trySend
  split
  · exact ⟨rfl, rfl⟩
  · split
    · exact ⟨rfl, rfl⟩
    · exact ⟨rfl, rfl⟩
    next credit acquired =>
      rw [acquired] at supply
      have taken : SameSupply box { box with credit } := ⟨rfl, supply⟩
      exact taken.trans (push_supply _ message message.cost)

theorem resume_supply (box : Outbox) (ticket : Nat) : SameSupply box (box.resume ticket).1 := by
  have supply := box.credit.closed_resume ticket
  unfold resume
  split
  · exact ⟨rfl, rfl⟩
  next message _ =>
    split
    · exact ⟨rfl, rfl⟩
    next acquired =>
      rw [acquired] at supply
      exact ⟨rfl, supply⟩
    next credit acquired =>
      rw [acquired] at supply
      have taken : SameSupply box { box.forgetSend ticket with credit } := ⟨rfl, supply⟩
      exact taken.trans (push_supply _ message message.cost)

theorem dropPoll_supply (box : Outbox) (writer : Nat) : SameSupply box (box.dropPoll writer) := by
  unfold dropPoll
  split <;> exact ⟨rfl, rfl⟩

theorem askAnew_supply (box : Outbox) (writer amount : Nat) :
    SameSupply box (pollCredit.askAnew writer amount box).1 := by
  have supply := box.credit.closed_acquire box.nextTicket amount
  unfold pollCredit.askAnew
  split
  next acquired =>
    rw [acquired] at supply
    exact ⟨rfl, supply⟩
  next acquired =>
    rw [acquired] at supply
    exact ⟨rfl, supply⟩

theorem pollCredit_supply (box : Outbox) (writer amount : Nat) :
    SameSupply box (box.pollCredit writer amount).1 := by
  unfold pollCredit
  split
  next wait _ =>
    have supply := box.credit.closed_resume wait.ticket
    split
    · split
      · exact ⟨rfl, rfl⟩
      next acquired =>
        rw [acquired] at supply
        exact ⟨rfl, supply⟩
    · exact (dropPoll_supply box writer).trans (askAnew_supply (box.dropPoll writer) writer amount)
  · exact askAnew_supply box writer amount

theorem pollWrite_supply (box : Outbox) (writer : Nat) (code : Option UInt32)
    (content : ByteArray) : SameSupply box (box.pollWrite writer code content).1 := by
  have supply := box.pollCredit_supply writer (min content.size outputWindow)
  unfold pollWrite
  split
  · exact ⟨rfl, rfl⟩
  · split
    · exact ⟨rfl, rfl⟩
    · dsimp only
      split
      next polled =>
        rw [polled] at supply
        exact supply
      next polled =>
        rw [polled] at supply
        exact supply
      next polled =>
        rw [polled] at supply
        exact supply.trans (push_supply _ _ _)

/-- Nobody but the transport that leaves does anything to the supply. -/
theorem step_supply (box : Outbox) {act : OutputAct} (stays : act ≠ .stream .detach) :
    SameSupply box (box.step act) := by
  cases act with
  | stream act =>
      cases act with
      | send code content => exact box.send_supply _
      | resume ticket => exact box.resume_supply ticket
      | cancel ticket =>
          show SameSupply box (if (box.sends.lookup ticket).isSome then box.cancel ticket else box)
          split
          · exact ⟨rfl, rfl⟩
          · exact ⟨rfl, rfl⟩
      | trySend code content => exact box.trySend_supply _
      | eof => exact box.push_supply .eof 0
      | pollWrite writer code content => exact box.pollWrite_supply writer code content
      | dropPoll writer => exact box.dropPoll_supply writer
      | take =>
          show SameSupply box (box.performStream .take).1
          unfold performStream
          cases taken : box.take? with
          | none => exact ⟨rfl, rfl⟩
          | some pair =>
              simp only [take?, Option.map_eq_some_iff, Prod.exists] at taken
              obtain ⟨_, _, _, -, rfl⟩ := taken
              exact ⟨rfl, rfl⟩
      | detach => exact absurd rfl stays
      | addWriter | dropWriter => exact ⟨rfl, rfl⟩
  | exitStatus status => exact box.push_supply (.exitStatus status) 0
  | close => exact box.close_supply

theorem SupplyEnds.step {box : Outbox} (ends : box.SupplyEnds) (act : OutputAct) :
    (box.step act).SupplyEnds := by
  by_cases leaves : act = .stream .detach
  · rw [leaves]
    exact fun _ => rfl
  · exact (box.step_supply leaves).supplyEnds ends

theorem SupplyEnds.run {box : Outbox} (ends : box.SupplyEnds) (acts : List OutputAct) :
    (box.run acts).SupplyEnds :=
  runFrom_induction Outbox.step SupplyEnds (fun _ act kept => kept.step act) ends acts

theorem SupplyEnds.ofOffer (offer : ChannelOffer) (awaited : Bool) :
    (Channel.ofOffer offer awaited).output.SupplyEnds := by
  cases awaited with
  | true => exact nofun
  | false => exact fun _ => rfl

/-! ### Sends that wait -/

/-- A send of that ticket waits for credit. -/
def Awaits (box : Outbox) (ticket : Nat) : Prop :=
  ∃ message, (ticket, message) ∈ box.sends

theorem Awaits.exists_lookup {box : Outbox} {ticket : Nat} (awaits : box.Awaits ticket) :
    ∃ message, box.sends.lookup ticket = some message := by
  obtain ⟨message, member⟩ := awaits
  refine Option.ne_none_iff_exists'.1 fun absent => ?_
  exact bne_iff_ne.1 (List.lookup_eq_none_iff.1 absent _ member) rfl

theorem Awaits.of_eq {before after : Outbox} {ticket : Nat} (awaits : before.Awaits ticket)
    (same : after.sends = before.sends) : after.Awaits ticket :=
  awaits.imp fun _ waits => same ▸ waits

theorem awaits_of_send {box : Outbox} {message : Message} {ticket : Nat}
    (waits : (box.send message).2 = .waiting ticket) : (box.send message).1.Awaits ticket :=
  ⟨message, mem_sends_of_waiting waits⟩

theorem Awaits.step {box : Outbox} {ticket : Nat} (awaits : box.Awaits ticket) {act : OutputAct}
    (isOther : act.ticket? ≠ some ticket) : (box.step act).Awaits ticket :=
  awaits.imp fun _ waits => mem_sends_step waits isOther

/-! ### Sends after the departure -/

theorem push_of_left {box : Outbox} (isLeft : box.attached = false) (message : Message)
    (credit : Nat) : ∃ cause, (box.push message credit).2 = .error cause := by
  unfold push
  split
  · exact ⟨_, rfl⟩
  · rw [isLeft]
    exact ⟨_, rfl⟩

theorem send_of_left {box : Outbox} (isLeft : box.attached = false) (ends : box.SupplyEnds)
    (message : Message) : ∃ cause, (box.send message).2 = .done (.error cause) := by
  have noCredit : box.credit.acquire box.nextTicket message.cost = (box.credit, .closed) := by
    rw [Credit.acquire, if_pos (ends isLeft)]
  unfold send
  split
  · exact ⟨_, rfl⟩
  · rw [noCredit]
    exact ⟨_, rfl⟩

theorem resume_of_left {box : Outbox} (isLeft : box.attached = false) (ends : box.SupplyEnds)
    {ticket : Nat} (awaits : box.Awaits ticket) :
    (box.resume ticket).2 = .done (.error .peerHangup) := by
  obtain ⟨message, found⟩ := awaits.exists_lookup
  have noCredit : box.credit.resume ticket = (box.credit.forget ticket, .closed) := by
    rw [Credit.resume, if_pos (ends isLeft)]
  unfold resume
  rw [found]
  dsimp only
  rw [noCredit]

end Outbox

end SshServer
