import SshServer.Proofs.Session.Run

/-!
Contract: the bytes that readers are given are the bytes that the peer sent.

Owns: the account that an onlooker draws up from the operations on an input and their answers alone,
which chunks were sent and which bytes were returned; that the input holds the difference; what a
reader can find; and all of this for the input of a session.
Does not own: who is told that something has arrived (`Channel.Inlet`).

Any number of readers share an input. One that finds nothing is told to wait and looks again by an
operation of its own, so that giving up a read is not to look again. A chunk counts as sent when it
is queued.
-/

namespace SshServer

def joined : List ByteArray → ByteArray
  | [] => ByteArray.empty
  | first :: rest => first ++ joined rest

@[simp] theorem joined_append (first second : List ByteArray) :
    joined (first ++ second) = joined first ++ joined second := by
  induction first with
  | nil => rw [List.nil_append, joined, ByteArray.empty_append]
  | cons head tail inductionHypothesis =>
      rw [List.cons_append, joined, joined, inductionHypothesis, ByteArray.append_assoc]

theorem joined_snoc (chunks : List ByteArray) (chunk : ByteArray) :
    joined (chunks ++ [chunk]) = joined chunks ++ chunk := by
  rw [joined_append, joined, joined, ByteArray.append_empty]

theorem extract_append_from (bytes : ByteArray) (start count : Nat) :
    bytes.extract start (start + count) ++ bytes.extract (start + count) bytes.size =
      bytes.extract start bytes.size := by
  rw [ByteArray.extract_append_extract, Nat.min_eq_left (Nat.le_add_right start count)]
  apply ByteArray.ext
  rw [ByteArray.data_extract, ByteArray.data_extract, Array.extract_eq_extract_right]
  show min _ (bytes.size - start) = min _ (bytes.size - start)
  omega

theorem extract_append_rest (bytes : ByteArray) (count : Nat) :
    bytes.extract 0 count ++ bytes.extract count bytes.size = bytes := by
  have whole := extract_append_from bytes 0 count
  rw [Nat.zero_add, ByteArray.extract_zero_size] at whole
  exact whole

namespace Mailbox

variable {α : Type}

/-- A send is refused, done at once, or has to wait. -/
theorem offer_cases (box : Mailbox α) (sender : Nat) (item : α) :
    box.offer sender item = (box, .refused) ∨
      box.attached = true ∧
        (box.offer sender item = ({ box with items := box.items.push item }, .queued) ∨
          box.offer sender item =
            ({ box with blocked := box.blocked ++ [(sender, item)] }, .waiting)) := by
  unfold offer
  cases box.attached with
  | false => exact .inl rfl
  | true =>
      right
      refine ⟨rfl, ?_⟩
      rw [Bool.not_true, if_neg Bool.false_ne_true]
      split
      · exact .inl rfl
      · exact .inr rfl

/-- A sender that waits is refused, goes on from the head of those that wait, or waits on. -/
theorem retry_cases (box : Mailbox α) (sender : Nat) :
    box.retry sender = (box.withdraw sender, .refused) ∨ box.retry sender = (box, .waiting) ∨
      box.attached = true ∧ ∃ item rest, box.blocked = (sender, item) :: rest ∧
        box.retry sender =
          ({ box with blocked := rest, items := box.items.push item }, .queued) := by
  unfold retry
  cases box.attached with
  | false => exact .inl rfl
  | true =>
      right
      rw [Bool.not_true, if_neg Bool.false_ne_true]
      split
      · exact .inl rfl
      next first item rest blocked =>
        split
        next goesOn =>
          obtain ⟨rfl, -⟩ := goesOn
          exact .inr ⟨rfl, item, rest, blocked, rfl⟩
        · exact .inl rfl

/-- The items that stand in `after` behind all that stood in `before`. -/
def newItems (before after : Mailbox α) : List α :=
  after.items.toList.drop before.items.length

theorem newItems_of_append {before after : Mailbox α} {arrived : List α}
    (items : after.items.toList = before.items.toList ++ arrived) :
    newItems before after = arrived := by
  rw [newItems, items, ← Fifo.length_toList, List.drop_left]

theorem newItems_of_length_le {before after : Mailbox α}
    (fewer : after.items.toList.length ≤ before.items.toList.length) :
    newItems before after = [] := by
  rw [newItems, ← Fifo.length_toList, List.drop_of_length_le fewer]

/-- What senders do to the items: some arrive, and none where nobody takes them up. -/
structure Brings (before after : Mailbox α) : Prop where
  items : after.items.toList = before.items.toList ++ newItems before after
  attached : after.attached = before.attached
  detached : before.attached = false → newItems before after = []

theorem Brings.of_append {before after : Mailbox α} (arrived : List α)
    (items : after.items.toList = before.items.toList ++ arrived)
    (attached : after.attached = before.attached)
    (detached : before.attached = false → arrived = []) : Brings before after := by
  have isNew := newItems_of_append items
  exact ⟨isNew ▸ items, attached, isNew ▸ detached⟩

theorem Brings.of_same {before after : Mailbox α} (items : after.items = before.items)
    (attached : after.attached = before.attached) : Brings before after :=
  .of_append [] (by rw [items, List.append_nil]) attached fun _ => rfl

/-- An item that is queued arrives, and it takes a receiver to queue one. -/
theorem Brings.of_push {before after : Mailbox α} (item : α) (isAttached : before.attached = true)
    (items : after.items = before.items.push item) (attached : after.attached = before.attached) :
    Brings before after := by
  refine .of_append [item] (by rw [items, Fifo.toList_push]) attached fun detached => ?_
  rw [detached] at isAttached
  exact absurd isAttached Bool.false_ne_true

theorem offer_brings (box : Mailbox α) (sender : Nat) (item : α) :
    Brings box (box.offer sender item).1 := by
  rcases box.offer_cases sender item with refused | ⟨isAttached, queued | waits⟩
  · rw [refused]
    exact .of_same rfl rfl
  · rw [queued]
    exact .of_push item isAttached rfl rfl
  · rw [waits]
    exact .of_same rfl rfl

theorem retry_brings (box : Mailbox α) (sender : Nat) : Brings box (box.retry sender).1 := by
  rcases box.retry_cases sender with refused | waits | ⟨isAttached, item, rest, -, goesOn⟩
  · rw [refused]
    exact .of_same rfl rfl
  · rw [waits]
    exact .of_same rfl rfl
  · rw [goesOn]
    exact .of_push item isAttached rfl rfl

end Mailbox

inductive InletAnswer where
  | sent (outcome : Mailbox.Sent)
  | reading (found : Inlet.Reading)
  | nothing

namespace Inlet

def answer (inlet : Inlet) : InletAct → InletAnswer
  | .offer sender chunk => .sent (inlet.offer sender chunk).2
  | .retry sender => .sent (inlet.retry sender).2
  | .receive reader => .reading (inlet.receive reader).2
  | .read reader count => .reading (inlet.read reader count).2
  | .withdraw _ | .addSender | .dropSender | .detach => .nothing

/-- What was sent and has not been returned. -/
def unread (inlet : Inlet) : ByteArray :=
  inlet.rest ++ joined inlet.box.items.toList

@[simp] theorem notify_box (inlet : Inlet) : inlet.notify.box = inlet.box := by
  unfold notify
  split
  · rfl
  · split <;> rfl

@[simp] theorem notify_rest (inlet : Inlet) : inlet.notify.rest = inlet.rest := by
  unfold notify
  split
  · rfl
  · split <;> rfl

/-! ### What a reader finds -/

/-- Only bytes and wakers have moved. -/
structure SameSenders (before after : Inlet) : Prop where
  blocked : after.box.blocked = before.box.blocked
  attached : after.box.attached = before.box.attached
  senders : after.box.senders = before.box.senders

/-- The same bytes are there to be read. -/
structure SameStream (before after : Inlet) : Prop extends SameSenders before after where
  unread : after.unread = before.unread

theorem SameSenders.trans {first second third : Inlet} (before : SameSenders first second)
    (after : SameSenders second third) : SameSenders first third where
  blocked := after.blocked.trans before.blocked
  attached := after.attached.trans before.attached
  senders := after.senders.trans before.senders

theorem SameStream.refl (inlet : Inlet) : SameStream inlet inlet :=
  ⟨⟨rfl, rfl, rfl⟩, rfl⟩

theorem SameStream.trans {first second third : Inlet} (before : SameStream first second)
    (after : SameStream second third) : SameStream first third :=
  ⟨before.toSameSenders.trans after.toSameSenders, after.unread.trans before.unread⟩

/-- What is found are the first of the unread bytes. Where there are none, the input has ended if
nobody is left to send more, and else the reader has to wait. -/
structure Finds (before after : Inlet) (reading : Reading) : Prop extends
    SameSenders before after where
  split : before.unread = match reading with
    | .got content => content ++ after.unread
    | .ended | .waiting => after.unread
  ended : reading = .ended → before.unread = ByteArray.empty ∧ before.box.senders = 0
  waiting : reading = .waiting → before.unread = ByteArray.empty ∧ before.box.senders ≠ 0

theorem Finds.of_same {before middle after : Inlet} {reading : Reading}
    (same : SameStream before middle) (found : Finds middle after reading) :
    Finds before after reading where
  toSameSenders := same.toSameSenders.trans found.toSameSenders
  split := same.unread ▸ found.split
  ended := by
    rw [← same.unread, ← same.senders]
    exact found.ended
  waiting := by
    rw [← same.unread, ← same.senders]
    exact found.waiting

theorem finds_of_split {before after : Inlet} {content : ByteArray}
    (same : SameSenders before after) (split : before.unread = content ++ after.unread) :
    Finds before after (.got content) :=
  ⟨same, split, Reading.noConfusion, Reading.noConfusion⟩

theorem unread_of_nothing {inlet : Inlet} (noRest : inlet.rest.size = 0)
    (noItems : inlet.box.items.toList = []) : inlet.unread = ByteArray.empty := by
  rw [unread, ByteArray.size_eq_zero_iff.1 noRest, noItems, joined, ByteArray.append_empty]

/-- An input with nothing left has ended, or makes its reader wait. -/
theorem finds_of_nothing {inlet : Inlet} (reader : Nat) (noRest : inlet.rest.size = 0)
    (noItems : inlet.box.items.toList = []) :
    let found := if inlet.box.ended then (inlet, Reading.ended) else (inlet.await reader, .waiting)
    Finds inlet found.1 found.2 := by
  have nothing : inlet.unread = ByteArray.empty := unread_of_nothing noRest noItems
  have isEmpty : inlet.box.items.isEmpty = true := Fifo.isEmpty_iff.2 noItems
  intro found
  by_cases noSenders : inlet.box.senders = 0
  · have ended : inlet.box.ended = true := by
      rw [Mailbox.ended, isEmpty, noSenders]
      rfl
    have isFound : found = (inlet, .ended) := if_pos ended
    rw [isFound]
    exact ⟨⟨rfl, rfl, rfl⟩, rfl, fun _ => ⟨nothing, noSenders⟩, Reading.noConfusion⟩
  · have notEnded : ¬inlet.box.ended = true := by
      rw [Mailbox.ended, isEmpty, Bool.true_and, beq_iff_eq]
      exact noSenders
    have isFound : found = (inlet.await reader, .waiting) := if_neg notEnded
    rw [isFound]
    exact ⟨⟨rfl, rfl, rfl⟩, rfl, Reading.noConfusion, fun _ => ⟨nothing, noSenders⟩⟩

/-- The chunk that is taken from the queue comes before those that stay. -/
theorem take_items {inlet : Inlet} {chunk : ByteArray} {box : Mailbox ByteArray}
    (taken : inlet.box.take? = some (chunk, box)) :
    SameSenders inlet { inlet with box } ∧
      joined inlet.box.items.toList = chunk ++ joined box.items.toList := by
  have items := Mailbox.toList_of_take? taken
  simp only [Mailbox.take?, Option.map_eq_some_iff, Prod.mk.injEq, Prod.exists] at taken
  obtain ⟨_, _, -, -, rfl⟩ := taken
  exact ⟨⟨rfl, rfl, rfl⟩, by rw [items, joined]⟩

/-! ### Reading by the chunk -/

theorem take_finds {inlet after : Inlet} {chunk : ByteArray}
    (taken : inlet.take? = some (chunk, after)) : Finds inlet after (.got chunk) := by
  unfold take? at taken
  split at taken
  next noRest =>
    simp only [Option.map_eq_some_iff, Prod.mk.injEq, Prod.exists] at taken
    obtain ⟨first, box, popped, rfl, rfl⟩ := taken
    obtain ⟨same, items⟩ := take_items popped
    apply finds_of_split same
    rw [unread, unread, ByteArray.size_eq_zero_iff.1 noRest, ByteArray.empty_append,
      ByteArray.empty_append, items]
  · obtain ⟨rfl, rfl⟩ := Prod.mk.inj (Option.some.inj taken)
    refine finds_of_split ⟨rfl, rfl, rfl⟩ ?_
    rw [unread, unread, ByteArray.empty_append]

theorem nothing_of_take {inlet : Inlet} (nothing : inlet.take? = none) :
    inlet.rest.size = 0 ∧ inlet.box.items.toList = [] := by
  unfold take? at nothing
  split at nothing
  next noRest =>
    have noItem : inlet.box.take? = none := Option.map_eq_none_iff.1 nothing
    exact ⟨noRest, Fifo.pop?_eq_none_iff.1 (Option.map_eq_none_iff.1 noItem)⟩
  · exact absurd nothing (Option.some_ne_none _)

theorem receive_finds (inlet : Inlet) (reader : Nat) :
    Finds inlet (inlet.receive reader).1 (inlet.receive reader).2 := by
  have attended : SameStream inlet (inlet.attend reader) := ⟨⟨rfl, rfl, rfl⟩, rfl⟩
  unfold receive
  apply Finds.of_same attended
  dsimp only
  split
  next chunk after taken => exact take_finds taken
  next nothing =>
    obtain ⟨noRest, noItems⟩ := nothing_of_take nothing
    exact finds_of_nothing reader noRest noItems

/-! ### Reading by the byte -/

theorem advance_same (chunks : Nat) (inlet : Inlet) : SameStream inlet (inlet.advance chunks) := by
  induction chunks generalizing inlet with
  | zero => exact .refl inlet
  | succ chunks inductionHypothesis =>
      unfold advance
      split
      next noRest =>
        split
        next chunk box taken =>
          obtain ⟨same, items⟩ := take_items taken
          have moved : SameStream inlet { inlet with box, rest := chunk } := by
            refine ⟨⟨same.blocked, same.attached, same.senders⟩, ?_⟩
            rw [unread, unread, ByteArray.size_eq_zero_iff.1 noRest, ByteArray.empty_append, items]
          exact moved.trans (inductionHypothesis _)
        · exact .refl inlet
      · exact .refl inlet

/-- Chunks are passed over until one has bytes, or none is left. -/
theorem advance_exhausts (chunks : Nat) (inlet : Inlet)
    (enough : inlet.box.items.toList.length ≤ chunks)
    (noRest : (inlet.advance chunks).rest.size = 0) :
    (inlet.advance chunks).box.items.toList = [] := by
  induction chunks generalizing inlet with
  | zero => exact List.eq_nil_of_length_eq_zero (Nat.le_zero.1 enough)
  | succ chunks inductionHypothesis =>
      by_cases emptyRest : inlet.rest.size = 0
      · cases taken : inlet.box.take? with
        | none =>
            have stays : inlet.advance (chunks + 1) = inlet := by
              rw [advance, if_pos emptyRest, taken]
            rw [stays]
            exact Fifo.pop?_eq_none_iff.1 (Option.map_eq_none_iff.1 taken)
        | some pair =>
            have moves : inlet.advance (chunks + 1) =
                advance chunks { inlet with box := pair.2, rest := pair.1 } := by
              rw [advance, if_pos emptyRest, taken]
            rw [moves] at noRest ⊢
            apply inductionHypothesis _ _ noRest
            rw [Mailbox.toList_of_take? taken] at enough
            exact Nat.le_of_succ_le_succ enough
      · have stays : inlet.advance (chunks + 1) = inlet := by rw [advance, if_neg emptyRest]
        rw [stays] at noRest
        exact absurd noRest emptyRest

theorem read_finds (inlet : Inlet) (reader count : Nat) :
    Finds inlet (inlet.read reader count).1 (inlet.read reader count).2 := by
  have attended : SameStream inlet (inlet.attend reader) := ⟨⟨rfl, rfl, rfl⟩, rfl⟩
  unfold read
  apply Finds.of_same (attended.trans (advance_same inlet.box.items.length _))
  dsimp only
  split
  next noRest =>
    apply finds_of_nothing reader noRest
    exact advance_exhausts _ _ (Nat.le_of_eq (Fifo.length_toList _)) noRest
  · refine finds_of_split ⟨rfl, rfl, rfl⟩ ?_
    rw [unread, unread, ← ByteArray.append_assoc, extract_append_rest]

/-- Whoever is given an answer has found what the input holds. -/
theorem answer_finds {inlet : Inlet} {act : InletAct} {reading : Reading}
    (answered : inlet.answer act = .reading reading) : Finds inlet (inlet.step act) reading := by
  cases act with
  | receive reader =>
      obtain rfl := InletAnswer.reading.inj answered
      exact inlet.receive_finds reader
  | read reader count =>
      obtain rfl := InletAnswer.reading.inj answered
      exact inlet.read_finds reader count
  | offer | retry | withdraw | addSender | dropSender | detach =>
      exact InletAnswer.noConfusion answered

/-- A read of some bytes is given one byte at least, and no more than it has room for. -/
theorem size_of_read {inlet : Inlet} {reader count : Nat} {content : ByteArray}
    (got : (inlet.read reader count).2 = .got content) (positive : 0 < count) :
    0 < content.size ∧ content.size ≤ count := by
  unfold read at got
  dsimp only at got
  split at got
  · split at got
    · exact Reading.noConfusion got
    · exact Reading.noConfusion got
  next someRest =>
    obtain rfl := Reading.got.inj got
    rw [ByteArray.size_extract]
    omega

/-! ### The account -/

/-- What the operations on an input and their answers say of its chunks. -/
structure Account where
  /-- The chunks that wait for room, each with its sender, first come first. -/
  waiting : List (Nat × ByteArray) := []
  /-- The chunks that were sent. -/
  sent : List ByteArray := []
  /-- What readers were given, in the order in which their reads were over. -/
  returned : List ByteArray := []

namespace Account

/-- A reader is given something, or it is not. -/
def give (account : Account) : Reading → Account
  | .got content => { account with returned := account.returned ++ [content] }
  | .ended | .waiting => account

/-- Enters an operation with its answer. -/
def enter (account : Account) : InletAct × InletAnswer → Account
  | (.offer _ chunk, .sent .queued) => { account with sent := account.sent ++ [chunk] }
  | (.offer sender chunk, .sent .waiting) =>
    { account with waiting := account.waiting ++ [(sender, chunk)] }
  | (.retry sender, .sent .queued) =>
    { account with
        sent := account.sent ++ (account.waiting.lookup sender).toList
        waiting := account.waiting.eraseP fun entry => entry.1 == sender }
  | (.retry sender, .sent .refused) | (.withdraw sender, _) =>
    { account with waiting := account.waiting.filter fun entry => entry.1 != sender }
  | (.receive _, .reading reading) | (.read _ _, .reading reading) => account.give reading
  | _ => account

def ofTranscript (transcript : List (InletAct × InletAnswer)) : Account :=
  transcript.foldl enter {}

/-- The account and the input agree: what was sent and has not been returned is there to be read. A
reader that has left may have missed the end of it. -/
structure Matches (account : Account) (inlet : Inlet) : Prop where
  waiting : account.waiting = inlet.box.blocked
  complete : inlet.box.attached = true →
    joined account.returned ++ inlet.unread = joined account.sent
  inOrder : ∃ missing, joined account.returned ++ inlet.unread ++ missing = joined account.sent

namespace Matches

variable {account : Account} {inlet after : Inlet}

theorem of_same (agree : Matches account inlet) (blocked : after.box.blocked = inlet.box.blocked)
    (attached : after.box.attached = inlet.box.attached) (unread : after.unread = inlet.unread) :
    Matches account after where
  waiting := agree.waiting.trans blocked.symm
  complete := by
    rw [attached, unread]
    exact agree.complete
  inOrder := by
    rw [unread]
    exact agree.inOrder

/-- A chunk is queued behind the unread bytes. -/
theorem sent (agree : Matches account inlet) (isAttached : inlet.box.attached = true)
    (chunk : ByteArray) (blocked : List (Nat × ByteArray)) :
    Matches { account with sent := account.sent ++ [chunk], waiting := blocked }
      { inlet with box := { inlet.box with blocked, items := inlet.box.items.push chunk } } := by
  have whole : joined account.returned ++
      (inlet.rest ++ joined (inlet.box.items.push chunk).toList) =
        joined (account.sent ++ [chunk]) := by
    rw [Fifo.toList_push, joined_snoc, joined_snoc, ← agree.complete isAttached, unread,
      ByteArray.append_assoc, ByteArray.append_assoc]
  exact ⟨rfl, fun _ => whole, ByteArray.empty, ByteArray.append_empty.trans whole⟩

/-- A reader that is given something is given the first of the unread bytes. -/
theorem found {reading : Reading} (agree : Matches account inlet)
    (finds : Finds inlet after reading) : Matches (account.give reading) after := by
  have split := finds.split
  cases reading with
  | got content =>
      have moved : joined (account.give (.got content)).returned ++ after.unread =
          joined account.returned ++ inlet.unread := by
        rw [give, joined_snoc, split, ByteArray.append_assoc]
      refine ⟨agree.waiting.trans finds.blocked.symm, ?_, ?_⟩
      · rw [finds.attached, moved]
        exact agree.complete
      · rw [moved]
        exact agree.inOrder
  | ended => exact agree.of_same finds.blocked finds.attached split.symm
  | waiting => exact agree.of_same finds.blocked finds.attached split.symm

theorem notify (agree : Matches account inlet) : Matches account inlet.notify := by
  unfold Inlet.notify
  split
  · exact agree
  · split
    · exact agree
    · exact agree.of_same rfl rfl rfl

theorem offer (agree : Matches account inlet) (sender : Nat) (chunk : ByteArray) :
    Matches (account.enter (.offer sender chunk, inlet.answer (.offer sender chunk)))
      (inlet.step (.offer sender chunk)) := by
  simp only [answer, Inlet.step, Inlet.offer]
  rcases inlet.box.offer_cases sender chunk with refused | ⟨isAttached, queued | waits⟩
  · rw [refused]
    exact agree.notify
  · rw [queued]
    have sent : Matches { account with sent := account.sent ++ [chunk] }
        { inlet with box := { inlet.box with items := inlet.box.items.push chunk } } :=
      { agree.sent isAttached chunk inlet.box.blocked with waiting := agree.waiting }
    exact sent.notify
  · rw [waits]
    have blocked : Matches
        { account with waiting := account.waiting ++ [(sender, chunk)] }
        { inlet with box :=
          { inlet.box with blocked := inlet.box.blocked ++ [(sender, chunk)] } } :=
      { agree with waiting := by rw [agree.waiting] }
    exact blocked.notify

theorem withdraw (agree : Matches account inlet) (sender : Nat) :
    Matches
      { account with waiting := account.waiting.filter fun entry => entry.1 != sender }
      (inlet.withdraw sender) where
  waiting := by rw [agree.waiting, Inlet.withdraw, Mailbox.withdraw]
  complete := agree.complete
  inOrder := agree.inOrder

theorem retry (agree : Matches account inlet) (sender : Nat) :
    Matches (account.enter (.retry sender, inlet.answer (.retry sender)))
      (inlet.step (.retry sender)) := by
  simp only [answer, Inlet.step, Inlet.retry]
  rcases inlet.box.retry_cases sender with
    refused | waits | ⟨isAttached, item, rest, blocked, goesOn⟩
  · rw [refused]
    exact (agree.withdraw sender).notify
  · rw [waits]
    exact agree.notify
  · have waiting : account.waiting = (sender, item) :: rest := agree.waiting.trans blocked
    have found : account.waiting.lookup sender = some item := by
      rw [waiting, List.lookup_cons_self]
    have left : (account.waiting.eraseP fun entry => entry.1 == sender) = rest := by
      rw [waiting]
      exact List.eraseP_cons_of_pos (beq_self_eq_true sender)
    rw [goesOn]
    simp only [enter, found, left, Option.toList_some]
    exact (agree.sent isAttached item rest).notify

/-- The last reader leaves, and what it was not given is lost. -/
theorem detach (agree : Matches account inlet) : Matches account inlet.detach where
  waiting := agree.waiting
  complete := fun isAttached => absurd isAttached Bool.false_ne_true
  inOrder := by
    obtain ⟨missing, whole⟩ := agree.inOrder
    have nothing : inlet.detach.unread = ByteArray.empty := rfl
    refine ⟨inlet.unread ++ missing, ?_⟩
    rw [nothing, ByteArray.append_empty, ← ByteArray.append_assoc]
    exact whole

theorem step (agree : Matches account inlet) (act : InletAct) :
    Matches (account.enter (act, inlet.answer act)) (inlet.step act) := by
  cases act with
  | offer sender chunk => exact agree.offer sender chunk
  | retry sender => exact agree.retry sender
  | withdraw sender => exact agree.withdraw sender
  | addSender => exact agree.of_same rfl rfl rfl
  | dropSender =>
      have dropped : Matches account { inlet with box := inlet.box.dropSender } :=
        agree.of_same rfl rfl rfl
      exact dropped.notify
  | detach => exact agree.detach
  | receive reader => exact agree.found (inlet.receive_finds reader)
  | read reader count => exact agree.found (inlet.read_finds reader count)

theorem ofOffer (offer : ChannelOffer) (awaited : Bool) :
    Matches {} (Channel.ofOffer offer awaited).input := by
  cases awaited with
  | true => exact ⟨rfl, fun _ => rfl, ByteArray.empty, rfl⟩
  | false => exact ⟨rfl, fun _ => rfl, ByteArray.empty, rfl⟩

end Matches

end Account

end Inlet

/-! ### The input of a session -/

namespace Session

/-- The operations on the input of a session over a run, each with its answer. -/
def inputTranscript (session : Session) (acts : List SessionAct) :
    List (InletAct × InletAnswer) :=
  observed step
    (fun session act =>
      match act with
      | .input act => [(act, session.channel.input.answer act)]
      | _ => [])
    session acts

theorem LoopStep.input {before after : Session} (step : LoopStep before after) :
    after.channel.input = before.channel.input := by
  cases step with
  | noticed => rfl
  | dispatched request requests =>
      obtain ⟨_, _, _, same, -⟩ := dispatch_cases
        { before with channel := { before.channel with requests } } request
      rw [same]
  | finished request =>
      obtain ⟨_, same⟩ := before.finishRequest_cases request
      rw [same]
  | handed event request middle delivered source delivery =>
      obtain ⟨_, _, _, _, rfl, -⟩ := deliver_cases delivery
      rcases source with ⟨_, -, next⟩ | ⟨-, -, rfl⟩
      · obtain ⟨_, _, rfl⟩ := nextEvent_frame next
        rfl
      · rfl
  | waits event request middle _ next =>
      obtain ⟨_, _, rfl⟩ := nextEvent_frame next
      rfl
  | stopped =>
      obtain ⟨_, same⟩ := before.endLoop_cases .draining
      rw [same]
  | drained => rfl

theorem exit_input (session : Session) (status : UInt32) :
    (session.exit status).1.channel.input = session.channel.input := by
  unfold exit
  split <;> rfl

/-- Only operations on the input reach it. -/
theorem step_input (session : Session) {act : SessionAct}
    (other : ∀ inletAct, act ≠ .input inletAct) :
    (session.step act).channel.input = session.channel.input := by
  cases act with
  | input act => exact absurd rfl (other act)
  | takeTerminal =>
      show session.takeTerminal.1.channel.input = session.channel.input
      unfold takeTerminal
      split
      · rfl
      · split <;> rfl
  | reregisterSignals receiver =>
      show (session.reregisterSignals receiver).channel.input = session.channel.input
      unfold reregisterSignals
      split <;> rfl
  | takeWindow receiver =>
      obtain ⟨_, same⟩ := session.takeWindow_cases receiver
      rw [same]
  | takeSignal receiver =>
      obtain ⟨_, same⟩ := session.takeSignal_cases receiver
      rw [same]
  | exit status => exact session.exit_input status
  | advance =>
      rcases session.advance_cases with waits | step
      · rw [waits]
      · exact step.input
  | endHandler ending =>
      show (session.endHandler ending).channel.input = session.channel.input
      unfold endHandler
      split
      · exact session.exit_input ending.status
      · rfl
  | loseHandler =>
      show session.loseHandler.channel.input = session.channel.input
      unfold loseHandler
      split <;> rfl
  | cancel =>
      show session.cancel.channel.input = session.channel.input
      unfold cancel
      split
      · rfl
      · rfl
      · rfl
      · obtain ⟨_, same⟩ := session.endLoop_cases .cancelled
        rw [same]
  | registerSignals | dropWindows | dropSignals | write | shutdown | close | output | requests =>
      rfl

theorem input_matches {account : Inlet.Account} {session : Session}
    (agree : account.Matches session.channel.input) (acts : List SessionAct) :
    ((session.inputTranscript acts).foldl Inlet.Account.enter account).Matches
      (session.run acts).channel.input := by
  induction acts generalizing account session with
  | nil => exact agree
  | cons act rest inductionHypothesis =>
      rw [inputTranscript, observed, List.foldl_append]
      apply inductionHypothesis
      cases act with
      | input act => exact agree.step act
      | _ =>
          rw [step_input _ fun _ => SessionAct.noConfusion]
          exact agree

/-- Whatever the peer sends in whatever portions, and however the holders of a session read, the
bytes that they were given so far are the first of those that were sent, in order; while anybody can
read, the others are there to be read. The end of the input is reported only once nobody is left to
send and all bytes were returned, a reader has to wait only while all of them were, and a read of
some bytes that is over without the end was given one byte at least. -/
theorem input_returned_in_order (context : Context) (subsystems : List String)
    (offer : ChannelOffer) (awaited : Bool) (acts : List SessionAct) :
    let start := Session.onOffer context subsystems offer awaited
    let input := (start.run acts).channel.input
    let account := Inlet.Account.ofTranscript (start.inputTranscript acts)
    (∃ missing, joined account.returned ++ missing = joined account.sent) ∧
      (∀ reader count content, 0 < count →
        input.answer (.read reader count) = .reading (.got content) →
        0 < content.size ∧ content.size ≤ count) ∧
      (input.box.attached = true →
        joined account.returned ++ input.unread = joined account.sent ∧
          ∀ act,
            (input.answer act = .reading .ended →
              input.box.senders = 0 ∧ joined account.returned = joined account.sent) ∧
            (input.answer act = .reading .waiting →
              input.box.senders ≠ 0 ∧ joined account.returned = joined account.sent)) := by
  intro start input account
  have agree : account.Matches input :=
    input_matches (Inlet.Account.Matches.ofOffer offer awaited) acts
  refine ⟨?_, ?_, fun isAttached => ⟨agree.complete isAttached, fun act => ?_⟩⟩
  · obtain ⟨missing, whole⟩ := agree.inOrder
    refine ⟨input.unread ++ missing, ?_⟩
    rw [← ByteArray.append_assoc]
    exact whole
  · intro reader count content positive got
    exact Inlet.size_of_read (InletAnswer.reading.inj got) positive
  · have complete := agree.complete isAttached
    have nothing : input.unread = ByteArray.empty →
        joined account.returned = joined account.sent := by
      intro isEmpty
      rw [isEmpty, ByteArray.append_empty] at complete
      exact complete
    constructor
    · intro ended
      obtain ⟨isEmpty, noSenders⟩ := (Inlet.answer_finds ended).ended rfl
      exact ⟨noSenders, nothing isEmpty⟩
    · intro waits
      obtain ⟨isEmpty, someSender⟩ := (Inlet.answer_finds waits).waiting rfl
      exact ⟨someSender, nothing isEmpty⟩

/-- Three chunks, one of them empty, are read by two bytes and then by the chunk, up to the end. -/
theorem input_returned_in_order_of_chunks :
    let start := Session.onOffer default [] ⟨"session", ByteArray.empty⟩ true
    let acts : List SessionAct :=
      [.input (.offer 0 ⟨#[97, 98, 99]⟩), .input (.offer 0 ByteArray.empty),
        .input (.read 1 2), .input (.offer 0 ⟨#[100]⟩), .input (.receive 2), .input .dropSender]
    let input := (start.run acts).channel.input
    let account := Inlet.Account.ofTranscript (start.inputTranscript acts)
    let drained := (start.run (acts ++ [.input (.read 1 4)])).channel.input
    let total := Inlet.Account.ofTranscript (start.inputTranscript (acts ++ [.input (.read 1 4)]))
    input.box.attached = true ∧ account.returned = [⟨#[97, 98]⟩, ⟨#[99]⟩] ∧
      0 < 4 ∧ input.answer (.read 1 4) = .reading (.got ⟨#[100]⟩) ∧
      (0 < ByteArray.size ⟨#[100]⟩ ∧ ByteArray.size ⟨#[100]⟩ ≤ 4) ∧
      joined account.returned ++ input.unread = joined account.sent ∧
      drained.box.attached = true ∧ drained.answer (.receive 2) = .reading .ended ∧
      (drained.box.senders = 0 ∧ joined total.returned = joined total.sent) ∧
      start.channel.input.answer (.receive 2) = .reading .waiting ∧
      start.channel.input.box.senders ≠ 0 :=
  ⟨rfl, rfl, by decide, rfl,
    (input_returned_in_order default [] ⟨"session", ByteArray.empty⟩ true
      [.input (.offer 0 ⟨#[97, 98, 99]⟩), .input (.offer 0 ByteArray.empty),
        .input (.read 1 2), .input (.offer 0 ⟨#[100]⟩), .input (.receive 2),
        .input .dropSender]).2.1 1 4 _ (by decide) rfl,
    ((input_returned_in_order default [] ⟨"session", ByteArray.empty⟩ true _).2.2 rfl).1,
    rfl, rfl,
    (((input_returned_in_order default [] ⟨"session", ByteArray.empty⟩ true _).2.2 rfl).2
      (.receive 2)).1 rfl,
    rfl,
    ((((input_returned_in_order default [] ⟨"session", ByteArray.empty⟩ true []).2.2 rfl).2
      (.receive 2)).2 rfl).1⟩

end Session

end SshServer
