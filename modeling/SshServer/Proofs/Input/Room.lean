import SshServer.Proofs.Tunnel.Run

/-!
Contract: how much of the peer's input a channel holds.

Owns: that senders never queue more chunks than there is room for, and that readers only make room.
Does not own: which bytes the chunks have (`Proofs.Input.Stream`).
-/

namespace SshServer

namespace Mailbox

variable {α : Type}

/-- No more is queued than there is room for. -/
def Fits (box : Mailbox α) : Prop :=
  box.items.toList.length ≤ box.capacity

theorem Fits.push {box : Mailbox α} (item : α) (room : box.hasRoom = true) :
    ({ box with items := box.items.push item } : Mailbox α).Fits := by
  have below : box.items.length < box.capacity := of_decide_eq_true room
  show (box.items.push item).toList.length ≤ box.capacity
  rw [Fifo.toList_push, List.length_append, List.length_singleton, Fifo.length_toList]
  exact below

theorem Fits.offer {box : Mailbox α} (fits : box.Fits) (sender : Nat) (item : α) :
    (box.offer sender item).1.Fits ∧ (box.offer sender item).1.capacity = box.capacity := by
  unfold Mailbox.offer
  split
  · exact ⟨fits, rfl⟩
  · split
    next free => exact ⟨.push item (Bool.and_eq_true_iff.1 free).2, rfl⟩
    · exact ⟨fits, rfl⟩

theorem Fits.retry {box : Mailbox α} (fits : box.Fits) (sender : Nat) :
    (box.retry sender).1.Fits ∧ (box.retry sender).1.capacity = box.capacity := by
  unfold Mailbox.retry
  split
  · exact ⟨fits, rfl⟩
  · split
    · exact ⟨fits, rfl⟩
    next first item rest _ =>
      split
      next goesOn => exact ⟨.push item goesOn.2, rfl⟩
      · exact ⟨fits, rfl⟩

theorem Fits.take {box rest : Mailbox α} {item : α} (fits : box.Fits)
    (taken : box.take? = some (item, rest)) : rest.Fits ∧ rest.capacity = box.capacity := by
  have items := toList_of_take? taken
  simp only [take?, Option.map_eq_some_iff, Prod.mk.injEq, Prod.exists] at taken
  obtain ⟨_, _, -, -, rfl⟩ := taken
  have room : box.items.toList.length ≤ box.capacity := fits
  rw [items, List.length_cons] at room
  exact ⟨Nat.le_of_succ_le room, rfl⟩

end Mailbox

namespace Inlet

/-- An input holds no more chunks than a channel has room for. -/
structure Bounded (inlet : Inlet) : Prop where
  capacity : inlet.box.capacity = inputBuffer
  fits : inlet.box.Fits

theorem Bounded.of_box {inlet : Inlet} {box : Mailbox ByteArray} (bounded : inlet.Bounded)
    (kept : box.Fits ∧ box.capacity = inlet.box.capacity) {after : Inlet} (same : after.box = box) :
    after.Bounded where
  capacity := same ▸ kept.2.trans bounded.capacity
  fits := same ▸ kept.1

theorem Bounded.chunks {inlet : Inlet} (bounded : inlet.Bounded) :
    inlet.box.items.toList.length ≤ inputBuffer :=
  bounded.capacity ▸ bounded.fits

theorem Bounded.take {inlet rest : Inlet} {chunk : ByteArray} (bounded : inlet.Bounded)
    (taken : inlet.take? = some (chunk, rest)) : rest.Bounded := by
  unfold take? at taken
  split at taken
  · simp only [Option.map_eq_some_iff, Prod.mk.injEq, Prod.exists] at taken
    obtain ⟨_, box, popped, -, rfl⟩ := taken
    exact bounded.of_box (bounded.fits.take popped) rfl
  · obtain ⟨-, rfl⟩ := Prod.mk.inj (Option.some.inj taken)
    exact ⟨bounded.capacity, bounded.fits⟩

theorem Bounded.detach {inlet : Inlet} (bounded : inlet.Bounded) : inlet.detach.Bounded :=
  ⟨bounded.capacity, Nat.zero_le _⟩

/-- Going on to the next chunk takes chunks out of the queue. -/
theorem Bounded.advance {inlet : Inlet} (bounded : inlet.Bounded) (chunks : Nat) :
    (inlet.advance chunks).Bounded := by
  induction chunks generalizing inlet with
  | zero => exact bounded
  | succ chunks inductionHypothesis =>
      unfold Inlet.advance
      split
      · split
        next chunk box taken =>
          exact inductionHypothesis (bounded.of_box (bounded.fits.take taken) rfl)
        · exact bounded
      · exact bounded

theorem Bounded.receive {inlet : Inlet} (bounded : inlet.Bounded) (reader : Nat) :
    (inlet.receive reader).1.Bounded := by
  have attended : (inlet.attend reader).Bounded := ⟨bounded.capacity, bounded.fits⟩
  unfold Inlet.receive
  dsimp only
  split
  next taken => exact attended.take taken
  · split
    · exact attended
    · exact ⟨attended.capacity, attended.fits⟩

theorem Bounded.read {inlet : Inlet} (bounded : inlet.Bounded) (reader count : Nat) :
    (inlet.read reader count).1.Bounded := by
  have attended : (inlet.attend reader).Bounded := ⟨bounded.capacity, bounded.fits⟩
  have advanced := attended.advance inlet.box.items.length
  unfold Inlet.read
  dsimp only
  split
  · split
    · exact advanced
    · exact ⟨advanced.capacity, advanced.fits⟩
  · exact ⟨advanced.capacity, advanced.fits⟩

theorem Bounded.step {inlet : Inlet} (bounded : inlet.Bounded) (act : InletAct) :
    (inlet.step act).Bounded := by
  cases act with
  | offer sender chunk => exact bounded.of_box (bounded.fits.offer sender chunk) (notify_box _)
  | retry sender => exact bounded.of_box (bounded.fits.retry sender) (notify_box _)
  | dropSender =>
      have fits : inlet.box.dropSender.Fits := bounded.fits
      exact bounded.of_box ⟨fits, rfl⟩ (notify_box _)
  | withdraw | addSender => exact ⟨bounded.capacity, bounded.fits⟩
  | detach => exact bounded.detach
  | receive reader => exact bounded.receive reader
  | read reader count => exact bounded.read reader count

theorem Bounded.stepOfSender {inlet : Inlet} (bounded : inlet.Bounded) (act : SenderAct) :
    (inlet.stepOfSender act).Bounded := by
  unfold Inlet.stepOfSender
  split
  · exact bounded
  · cases act with
    | offer sender chunk => exact bounded.step (.offer sender chunk)
    | retry sender => exact bounded.step (.retry sender)
    | withdraw sender => exact bounded.step (.withdraw sender)
    | addSender => exact bounded.step .addSender
    | dropSender => exact bounded.step .dropSender

theorem Bounded.run {inlet : Inlet} (bounded : inlet.Bounded) (acts : List InletAct) :
    (runFrom Inlet.step inlet acts).Bounded :=
  runFrom_induction Inlet.step Bounded (fun _ act kept => kept.step act) bounded acts

theorem Bounded.ofOffer (offer : ChannelOffer) (awaited : Bool) :
    (Channel.ofOffer offer awaited).input.Bounded := by
  cases awaited
  all_goals exact ⟨rfl, Nat.zero_le _⟩

end Inlet

end SshServer
