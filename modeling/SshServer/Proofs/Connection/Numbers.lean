import SshServer.Proofs.Input.Stream

/-!
Contract: what is numbered before it is queued stays in the order of its numbers.

Owns: lines of numbered items; that a queue keeps what has arrived, and what waits for room behind
it, in order, whoever is withdrawn from it; and that no sender changes the room or the number of
the senders.
Does not own: what the numbers are for. A number may be used up without anything coming of it.
-/

namespace SshServer

/-- A line of items that are numbered in order, all below the next number. -/
def InOrder {α : Type} (key : α → Option Nat) (line : List α) (next : Nat) : Prop :=
  ∃ numbers : List Nat, line.map key = numbers.map some ∧ numbers.Pairwise (· < ·) ∧
    ∀ number ∈ numbers, number < next

namespace InOrder

variable {α : Type} {key : α → Option Nat} {line : List α} {next : Nat}

theorem start (key : α → Option Nat) (next : Nat) : InOrder key [] next :=
  ⟨[], rfl, List.Pairwise.nil, nofun⟩

/-- A number is used up even where nothing comes of it. -/
theorem skip (inOrder : InOrder key line next) : InOrder key line (next + 1) := by
  obtain ⟨numbers, same, sorted, below⟩ := inOrder
  exact ⟨numbers, same, sorted, fun number member => Nat.lt_succ_of_lt (below number member)⟩

theorem extend (inOrder : InOrder key line next) {item : α} (isNext : key item = some next) :
    InOrder key (line ++ [item]) (next + 1) := by
  obtain ⟨numbers, same, sorted, below⟩ := inOrder
  refine ⟨numbers ++ [next], ?_, ?_, ?_⟩
  · rw [List.map_append, same, List.map_append, List.map_singleton, List.map_singleton, isNext]
  · refine List.pairwise_append.2 ⟨sorted, List.pairwise_singleton _ _, ?_⟩
    intro number member other isLast
    rw [List.mem_singleton.1 isLast]
    exact below number member
  · intro number member
    rcases List.mem_append.1 member with before | isLast
    · exact Nat.lt_succ_of_lt (below number before)
    · rw [List.mem_singleton.1 isLast]
      exact Nat.lt_succ_self next

theorem sublist (inOrder : InOrder key line next) {fewer : List α} (isPart : fewer.Sublist line) :
    InOrder key fewer next := by
  obtain ⟨numbers, same, sorted, below⟩ := inOrder
  obtain ⟨left, part, isLeft⟩ := List.sublist_map_iff.1 (same ▸ isPart.map key)
  exact ⟨left, isLeft, sorted.sublist part, fun number member => below number (part.subset member)⟩

end InOrder

namespace Mailbox

variable {α : Type} {key : α → Option Nat} {arrived : List α} {box : Mailbox α} {next : Nat}

/-- What has arrived at a queue, and behind it what waits for room. -/
def line (arrived : List α) (box : Mailbox α) : List α :=
  arrived ++ box.blocked.map Prod.snd

theorem line_of_same {before after : Mailbox α} (items : after.items = before.items)
    (blocked : after.blocked = before.blocked) :
    line (arrived ++ newItems before after) after = line arrived before := by
  have nothing : newItems before after = [] :=
    newItems_of_length_le (Nat.le_of_eq (congrArg (fun items => items.toList.length) items))
  rw [line, nothing, List.append_nil, blocked, line]

theorem inOrder_offer (inOrder : InOrder key (line arrived box) next) (sender : Nat) {item : α}
    (isNext : key item = some next) :
    InOrder key
      (line (arrived ++ newItems box (box.offer sender item).1) (box.offer sender item).1)
      (next + 1) := by
  unfold Mailbox.offer
  split
  · rw [line_of_same rfl rfl]
    exact inOrder.skip
  · split
    next hasPlace =>
      have nobody : box.blocked = [] :=
        List.isEmpty_iff.1 (Bool.and_eq_true_iff.1 hasPlace).1
      have isNew : newItems box { box with items := box.items.push item } = [item] :=
        newItems_of_append (Fifo.toList_push _ _)
      have longer : line (arrived ++ [item]) { box with items := box.items.push item } =
          line arrived box ++ [item] := by
        simp only [line, nobody, List.map_nil, List.append_nil]
      rw [isNew, longer]
      exact inOrder.extend isNext
    · have nothing : newItems box { box with blocked := box.blocked ++ [(sender, item)] } = [] :=
        newItems_of_length_le (Nat.le_refl _)
      have longer : line arrived { box with blocked := box.blocked ++ [(sender, item)] } =
          line arrived box ++ [item] := by
        simp only [line, List.map_append, List.map_singleton, List.append_assoc]
      rw [nothing, List.append_nil, longer]
      exact inOrder.extend isNext

theorem inOrder_withdraw (inOrder : InOrder key (line arrived box) next) (sender : Nat) :
    InOrder key (line (arrived ++ newItems box (box.withdraw sender)) (box.withdraw sender))
      next := by
  have nothing : newItems box (box.withdraw sender) = [] := newItems_of_length_le (Nat.le_refl _)
  rw [nothing, List.append_nil]
  exact inOrder.sublist ((List.filter_sublist.map Prod.snd).append_left arrived)

/-- Who goes on from the head of those that wait keeps the place it has. -/
theorem inOrder_retry (inOrder : InOrder key (line arrived box) next) (sender : Nat) :
    InOrder key (line (arrived ++ newItems box (box.retry sender).1) (box.retry sender).1)
      next := by
  rcases box.retry_cases sender with refused | waits | ⟨-, item, rest, blocked, goesOn⟩
  · rw [refused]
    exact inOrder_withdraw inOrder sender
  · rw [waits, line_of_same rfl rfl]
    exact inOrder
  · rw [goesOn]
    have isNew : newItems box { box with blocked := rest, items := box.items.push item } = [item] :=
      newItems_of_append (Fifo.toList_push _ _)
    have sameLine : line (arrived ++ [item])
        { box with blocked := rest, items := box.items.push item } = line arrived box := by
      simp only [line, blocked, List.map_cons, List.append_assoc, List.singleton_append]
    rw [isNew, sameLine]
    exact inOrder

/-! ### The ends of a queue -/

/-- A queue has as much room as before, and as many senders. -/
structure SameEnds (before after : Mailbox α) : Prop where
  capacity : after.capacity = before.capacity
  senders : after.senders = before.senders

theorem SameEnds.offer (box : Mailbox α) (sender : Nat) (item : α) :
    SameEnds box (box.offer sender item).1 := by
  rcases box.offer_cases sender item with refused | ⟨-, queued | waits⟩
  · rw [refused]
    exact ⟨rfl, rfl⟩
  · rw [queued]
    exact ⟨rfl, rfl⟩
  · rw [waits]
    exact ⟨rfl, rfl⟩

theorem SameEnds.retry (box : Mailbox α) (sender : Nat) :
    SameEnds box (box.retry sender).1 := by
  rcases box.retry_cases sender with refused | waits | ⟨-, item, rest, -, goesOn⟩
  · rw [refused]
    exact ⟨rfl, rfl⟩
  · rw [waits]
    exact ⟨rfl, rfl⟩
  · rw [goesOn]
    exact ⟨rfl, rfl⟩

end Mailbox

end SshServer
