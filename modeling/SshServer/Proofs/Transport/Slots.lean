import SshServer.Proofs.Transport.Steps

/-!
Contract: where the transport finds the channel of an identifier follows from the callbacks that
were made for it.

Owns: the history of an identifier, from the open of its channel on; that slots follow it; and that
a callback leaves the slots and the channels of all other identifiers as they are.
Does not own: what a single step can do (`Proofs.Transport.Steps`).

An identifier can be used again once its channel is closed. What tells its channels apart is their
place, which is how many were opened before.
-/

namespace SshServer

/-! ### The history of an identifier -/

namespace Callback

def isOpening : Callback → Bool
  | .opened _ _ => true
  | .refused _ | .data _ _ | .eof _ | .close _ | .request _ _ => false

def opens (callback : Callback) (id : Nat) : Bool :=
  callback.isOpening && callback.id == id

def closes (callback : Callback) (id : Nat) : Bool :=
  match callback with
  | .close other => other == id
  | .opened _ _ | .refused _ | .data _ _ | .eof _ | .request _ _ => false

/-- Whether a callback ends the data of a channel. -/
def ends (callback : Callback) (id : Nat) : Bool :=
  match callback with
  | .eof other | .close other => other == id
  | .opened _ _ | .refused _ | .data _ _ | .request _ _ => false

end Callback

/-- How many channels were opened. -/
def openings (calls : List Call) : Nat :=
  calls.countP (·.callback.isOpening)

/-- A channel was opened for an identifier, and has not been closed since. -/
structure Lives (calls : List Call) (id : Nat) (slot : Slot) (before : List Call) (opening : Call)
    (after : List Call) : Prop where
  split : calls = before ++ opening :: after
  opens : opening.callback.opens id = true
  place : slot.place = openings before
  isOpen : ∀ call ∈ after, call.callback.closes id = false
  receiving : slot.receiving = true ↔ ∀ call ∈ after, call.callback.ends id = false

/-- What the callbacks say of where the channel of an identifier is. -/
def Names (calls : List Call) (id : Nat) (slot : Slot) : Prop :=
  ∃ before opening after, Lives calls id slot before opening after

theorem openings_append (first later : List Call) :
    openings (first ++ later) = openings first + openings later :=
  List.countP_append

theorem Callback.isOpening_of_opens {callback : Callback} {id : Nat}
    (opens : callback.opens id = true) : callback.isOpening = true ∧ callback.id = id := by
  obtain ⟨isOpening, same⟩ := Bool.and_eq_true_iff.1 opens
  exact ⟨isOpening, beq_iff_eq.1 same⟩

theorem openings_cons {opening : Call} (isOpening : opening.callback.isOpening = true)
    (calls : List Call) : openings (opening :: calls) = openings calls + 1 :=
  List.countP_cons_of_pos isOpening

theorem openings_snoc (calls : List Call) (call : Call) :
    openings (calls ++ [call]) = openings calls + if call.callback.isOpening then 1 else 0 := by
  rw [openings_append]
  exact congrArg _ List.countP_singleton

/-- Only one opening comes after so many others. -/
theorem split_unique {before otherBefore after otherAfter : List Call} {opening other : Call}
    (same : before ++ opening :: after = otherBefore ++ other :: otherAfter)
    (isOpening : opening.callback.isOpening = true) (isOther : other.callback.isOpening = true)
    (place : openings before = openings otherBefore) :
    before = otherBefore ∧ opening = other ∧ after = otherAfter := by
  rcases List.append_eq_append_iff.1 same with ⟨between, rfl, isRest⟩ | ⟨between, rfl, isRest⟩
  · cases between with
    | nil =>
        obtain ⟨rfl, rfl⟩ := List.cons.inj isRest
        exact ⟨(List.append_nil _).symm, rfl, rfl⟩
    | cons first rest =>
        obtain ⟨rfl, -⟩ := List.cons.inj isRest
        rw [openings_append, openings_cons isOpening] at place
        omega
  · cases between with
    | nil =>
        obtain ⟨rfl, rfl⟩ := List.cons.inj isRest
        exact ⟨List.append_nil _, rfl, rfl⟩
    | cons first rest =>
        obtain ⟨rfl, -⟩ := List.cons.inj isRest
        rw [openings_append, openings_cons isOther] at place
        omega

/-- What one more callback says of an identifier. -/
theorem names_snoc (calls : List Call) (call : Call) (id : Nat) (slot : Slot) :
    Names (calls ++ [call]) id slot ↔
      call.callback.opens id = true ∧ slot = ⟨openings calls, true⟩ ∨
        call.callback.closes id = false ∧ ∃ receiving, Names calls id ⟨slot.place, receiving⟩ ∧
          (slot.receiving = true ↔ receiving = true ∧ call.callback.ends id = false) := by
  constructor
  · rintro ⟨before, opening, after, lives⟩
    rcases split_snoc lives.split with ⟨rfl, rfl, rfl⟩ | ⟨rest, rfl, rfl⟩
    · left
      refine ⟨lives.opens, ?_⟩
      have receiving : slot.receiving = true :=
        lives.receiving.2 fun _ member => absurd member List.not_mem_nil
      rw [← lives.place, ← receiving]
    · right
      have isOpen := List.forall_mem_append.1 lives.isOpen
      have receiving := lives.receiving
      rw [List.forall_mem_append, List.forall_mem_singleton] at receiving
      by_cases goesOn : ∀ other ∈ rest, other.callback.ends id = false
      · exact ⟨isOpen.2 call (List.mem_singleton_self call), true,
          ⟨before, opening, rest, rfl, lives.opens, lives.place, isOpen.1,
            ⟨fun _ => goesOn, fun _ => rfl⟩⟩,
          receiving.trans ⟨fun both => ⟨rfl, both.2⟩, fun both => ⟨goesOn, both.2⟩⟩⟩
      · exact ⟨isOpen.2 call (List.mem_singleton_self call), false,
          ⟨before, opening, rest, rfl, lives.opens, lives.place, isOpen.1,
            ⟨fun absurdity => absurd absurdity Bool.false_ne_true,
              fun all => absurd all goesOn⟩⟩,
          receiving.trans ⟨fun both => absurd both.1 goesOn,
            fun both => absurd both.1 Bool.false_ne_true⟩⟩
  · rintro (⟨opens, rfl⟩ | ⟨stays, receiving, ⟨before, opening, after, lives⟩, same⟩)
    · exact ⟨calls, call, [], rfl, opens, rfl, fun _ member => absurd member List.not_mem_nil,
        ⟨fun _ _ member => absurd member List.not_mem_nil, fun _ => rfl⟩⟩
    · refine ⟨before, opening, after ++ [call], ?_, lives.opens, lives.place, ?_, ?_⟩
      · rw [lives.split, List.append_assoc, List.cons_append]
      · exact List.forall_mem_append.2 ⟨lives.isOpen, List.forall_mem_singleton.2 stays⟩
      · rw [List.forall_mem_append, List.forall_mem_singleton, same, ← lives.receiving]

/-- Where data does not end, a slot is the one that there was. -/
theorem exists_receiving_of_stays {found : Option Slot} {slot : Slot} {ends : Bool}
    (stays : ends = false) :
    (∃ receiving, found = some ⟨slot.place, receiving⟩ ∧
        (slot.receiving = true ↔ receiving = true ∧ ends = false)) ↔ found = some slot := by
  constructor
  · rintro ⟨receiving, rfl, same⟩
    have isSame : slot.receiving = receiving :=
      Bool.eq_iff_iff.2 (same.trans ⟨And.left, fun isReceiving => ⟨isReceiving, stays⟩⟩)
    rw [← isSame]
  · rintro rfl
    exact ⟨slot.receiving, rfl, fun isReceiving => ⟨isReceiving, stays⟩, And.left⟩

/-- Where the channel of an identifier is after a callback, of those that were opened before. -/
def Callback.slotAfter (callback : Callback) (id places : Nat) (found : Option Slot) :
    Option Slot :=
  if callback.opens id then some ⟨places, true⟩
  else if callback.closes id then none
  else if callback.ends id then found.map fun slot => { slot with receiving := false }
  else found

theorem Callback.slotAfter_opened (id other places : Nat) (channel : Channel)
    (found : Option Slot) : (Callback.opened id channel).slotAfter other places found =
      if id = other then some ⟨places, true⟩ else found := by
  simp only [slotAfter, opens, isOpening, closes, ends, Callback.id, Bool.true_and, beq_iff_eq,
    Bool.false_eq_true, if_false]

theorem Callback.slotAfter_eof (id other places : Nat) (found : Option Slot) :
    (Callback.eof id).slotAfter other places found =
      if id = other then found.map fun slot => { slot with receiving := false } else found := by
  simp only [slotAfter, opens, isOpening, closes, ends, Bool.false_and, beq_iff_eq,
    Bool.false_eq_true, if_false]

theorem Callback.slotAfter_close (id other places : Nat) (found : Option Slot) :
    (Callback.close id).slotAfter other places found = if id = other then none else found := by
  simp only [slotAfter, opens, isOpening, closes, ends, Bool.false_and, beq_iff_eq,
    Bool.false_eq_true, if_false]
  split <;> rfl

theorem Callback.slotAfter_eq_some_iff {callback : Callback} {id places : Nat}
    {found : Option Slot} (isFree : callback.opens id = true → found = none) (slot : Slot) :
    callback.slotAfter id places found = some slot ↔
      callback.opens id = true ∧ slot = ⟨places, true⟩ ∨
        callback.closes id = false ∧ ∃ receiving, found = some ⟨slot.place, receiving⟩ ∧
          (slot.receiving = true ↔ receiving = true ∧ callback.ends id = false) := by
  unfold slotAfter
  cases opens : callback.opens id with
  | true =>
      rw [if_pos rfl, isFree opens]
      constructor
      · rintro ⟨⟩
        exact .inl ⟨rfl, rfl⟩
      · rintro (⟨-, rfl⟩ | ⟨-, _, absent, -⟩)
        · rfl
        · exact absurd absent (Option.some_ne_none _).symm
  | false =>
      rw [if_neg Bool.false_ne_true]
      have notOpened : ¬(false = true ∧ slot = ⟨places, true⟩) :=
        fun both => absurd both.1 Bool.false_ne_true
      rw [or_iff_right notOpened]
      cases callback.closes id with
      | true =>
          rw [if_pos rfl]
          exact ⟨fun absent => absurd absent (Option.some_ne_none _).symm,
            fun both => absurd both.1 Bool.true_eq_false.mp⟩
      | false =>
          rw [if_neg Bool.false_ne_true]
          cases ends : callback.ends id with
          | true =>
              rw [if_pos rfl, Option.map_eq_some_iff]
              constructor
              · rintro ⟨was, isWas, rfl⟩
                exact ⟨rfl, was.receiving, isWas,
                  ⟨fun absurdity => absurd absurdity Bool.false_ne_true,
                    fun both => absurd both.2 Bool.true_eq_false.mp⟩⟩
              · rintro ⟨-, receiving, isWas, same⟩
                have notReceiving : slot.receiving = false :=
                  Bool.eq_false_iff.2 fun isReceiving =>
                    absurd (same.1 isReceiving).2 Bool.true_eq_false.mp
                refine ⟨_, isWas, ?_⟩
                rw [← notReceiving]
          | false =>
              rw [if_neg Bool.false_ne_true, exists_receiving_of_stays rfl]
              exact ⟨fun isSlot => ⟨rfl, isSlot⟩, And.right⟩

/-! ### Slots follow the history -/

namespace Exchange

theorem callOf_cases (exchange : Exchange) (attempt : Attempt) :
    exchange.callOf attempt = [] ∧ (∃ wait, attempt.status = .waits wait) ∨
      ∃ call, exchange.callOf attempt = [call] ∧ call.callback = attempt.callback ∧
        call.made = attempt.made ∧ attempt.status = .finished call.told := by
  unfold callOf
  cases status : attempt.status with
  | waits wait => exact .inl ⟨rfl, wait, rfl⟩
  | finished told => exact .inr ⟨_, rfl, rfl, rfl, rfl⟩

theorem callOf_of_finished {exchange : Exchange} {attempt : Attempt} {told : Option Bool}
    (isOver : attempt.status = .finished told) {channel : Channel}
    (isChannel : exchange.transport.channelOf? attempt.callback.id = some channel) :
    exchange.callOf attempt = [⟨attempt.callback, attempt.made, told,
      channel.input.box.attached, channel.requests.box.attached⟩] := by
  unfold callOf
  rw [isOver]
  dsimp only
  rw [isChannel]
  rfl

theorem channelOf?_of_slot {transport : Transport} {id : Nat} {slot : Slot} {channel : Channel}
    (found : transport.slot? id = some slot)
    (there : transport.channels[slot.place]? = some channel) :
    transport.channelOf? id = some channel := by
  unfold Transport.channelOf?
  rw [found]
  exact there

/-- The slots are those that the callbacks which are over speak of. -/
structure Slotted (exchange : Exchange) (ended : List Call) : Prop where
  count : openings ended = exchange.transport.channels.length
  names : ∀ id slot, exchange.transport.slot? id = some slot ↔ Names ended id slot

variable {exchange : Exchange} {ended : List Call}

/-- A callback changes the slot of its own identifier at most, and that not before it is over. -/
theorem Slotted.of_slotAfter (slotted : exchange.Slotted ended) {attempt : Attempt}
    (waits : (∃ wait, attempt.status = .waits wait) → attempt.callback.isOpening = false ∧
      ∀ id, attempt.transport.slot? id = exchange.transport.slot? id)
    (length : attempt.transport.channels.length =
      exchange.transport.channels.length + if attempt.callback.isOpening then 1 else 0)
    (isFree : ∀ id, attempt.callback.opens id = true → exchange.transport.slot? id = none)
    (slots : ∀ id, attempt.transport.slot? id =
      attempt.callback.slotAfter id exchange.transport.channels.length
        (exchange.transport.slot? id)) :
    (exchange.after attempt).Slotted (ended ++ exchange.callOf attempt) := by
  rcases exchange.callOf_cases attempt with ⟨isOpen, stillWaits⟩ | ⟨call, isOver, same, -⟩
  · obtain ⟨notOpening, sameSlots⟩ := waits stillWaits
    rw [isOpen, List.append_nil]
    rw [notOpening] at length
    refine ⟨slotted.count.trans length.symm, fun id slot => ?_⟩
    show attempt.transport.slot? id = _ ↔ _
    rw [sameSlots]
    exact slotted.names id slot
  · rw [isOver]
    refine ⟨?_, fun id slot => ?_⟩
    · rw [openings_snoc, same, slotted.count]
      exact length.symm
    · show attempt.transport.slot? id = _ ↔ _
      rw [slots, Callback.slotAfter_eq_some_iff (isFree id), names_snoc, same, slotted.count]
      simp only [slotted.names]

theorem slots_eof (ready : exchange.Ready) (id other : Nat) :
    (exchange.transport.endInput id).slot? other =
      (Callback.eof id).slotAfter other exchange.transport.channels.length
        (exchange.transport.slot? other) := by
  rw [Callback.slotAfter_eof]
  by_cases same : id = other
  · subst same
    rw [if_pos rfl]
    exact Transport.slot?_endInput ready.placed id
  · rw [if_neg same]
    exact (Transport.endInput_givesUp ready.placed id).slots other (Ne.symm same)

theorem slots_close (ready : exchange.Ready) (id other : Nat) :
    (exchange.transport.closed id).slot? other =
      (Callback.close id).slotAfter other exchange.transport.channels.length
        (exchange.transport.slot? other) := by
  rw [Callback.slotAfter_close]
  obtain ⟨givesUp, isFree⟩ := Transport.closed_givesUp ready.placed id
  split
  next same => exact same ▸ isFree
  next isOther => exact givesUp.slots other (Ne.symm isOther)

theorem slots_opened (id other : Nat) (channel : Channel) :
    (exchange.transport.opened id channel).slot? other =
      (Callback.opened id channel).slotAfter other exchange.transport.channels.length
        (exchange.transport.slot? other) := by
  rw [Callback.slotAfter_opened, Transport.slot?_opened]
  simp only [@eq_comm _ id other]

theorem Slotted.after (slotted : exchange.Slotted ended) (ready : exchange.Ready)
    {attempt : Attempt} (comes : exchange.Comes attempt) :
    (exchange.after attempt).Slotted (ended ++ exchange.callOf attempt) := by
  have none_of_not : ∀ {id : Nat}, false = true → exchange.transport.slot? id = none :=
    fun absurdity => absurd absurdity Bool.false_ne_true
  cases comes with
  | refused | dropped | unknown =>
      exact slotted.of_slotAfter (fun _ => ⟨rfl, fun _ => rfl⟩) rfl (fun _ => none_of_not)
        fun _ => rfl
  | data | request | answer =>
      exact slotted.of_slotAfter (fun _ => ⟨rfl, fun _ => rfl⟩) Transport.length_setChannel
        (fun _ => none_of_not) fun _ => rfl
  | opened id channel idle isFree =>
      refine slotted.of_slotAfter (fun ⟨wait, waits⟩ => nomatch waits) List.length_append
        (fun other opens => ?_) fun other => slots_opened id other channel
      exact beq_iff_eq.1 opens ▸ isFree
  | eof id =>
      exact slotted.of_slotAfter (fun ⟨wait, waits⟩ => nomatch waits)
        (Transport.endInput_givesUp ready.placed id).length (fun _ => none_of_not)
        fun other => slots_eof ready id other
  | close id =>
      exact slotted.of_slotAfter (fun ⟨wait, waits⟩ => nomatch waits)
        (Transport.closed_givesUp ready.placed id).1.length (fun _ => none_of_not)
        fun other => slots_close ready id other

/-- Handlers have nothing to do with slots. -/
theorem Slotted.set (slotted : exchange.Slotted ended) {place : Nat} {channel : Channel}
    {underway : Option Underway} {held : List (Nat × Request)} :
    Slotted ⟨exchange.transport.setChannel place channel, underway, held⟩ ended :=
  ⟨slotted.count.trans Transport.length_setChannel.symm, slotted.names⟩

theorem endedBy_of_attempt {act : ExchangeAct} {attempt : Attempt}
    (attempted : exchange.attempt? act = some attempt) :
    exchange.endedBy act = exchange.callOf attempt := by
  unfold endedBy
  rw [attempted]

theorem endedBy_of_none {act : ExchangeAct} (noAttempt : exchange.attempt? act = none) :
    exchange.endedBy act = [] := by
  unfold endedBy
  rw [noAttempt]

theorem Slotted.next (slotted : exchange.Slotted ended) (ready : exchange.Ready)
    {act : ExchangeAct} {next : Exchange} (moves : exchange.Moves act next) :
    next.Slotted (ended ++ exchange.endedBy act) := by
  cases moves with
  | attempt attempted comes =>
      rw [endedBy_of_attempt attempted]
      exact slotted.after ready comes
  | stays noAttempt =>
      rw [endedBy_of_none noAttempt, List.append_nil]
      exact slotted
  | handler | take | answer =>
      rw [endedBy_of_none rfl, List.append_nil]
      exact slotted.set

/-! ### Other identifiers -/

/-- A callback leaves the slots of other identifiers as they are, and the channels there too. -/
theorem Comes.others (ready : exchange.Ready) {attempt : Attempt} (comes : exchange.Comes attempt)
    {other : Nat} (isOther : other ≠ attempt.callback.id) :
    attempt.transport.slot? other = exchange.transport.slot? other ∧
      ∀ slot, exchange.transport.slot? other = some slot →
        attempt.transport.channels[slot.place]? = exchange.transport.channels[slot.place]? := by
  -- a slot of another identifier is at another place
  have ofSet : ∀ {id : Nat} {own : Slot} {channel after : Channel}, other ≠ id →
      exchange.transport.slot? id = some own →
      exchange.transport.channels[own.place]? = some channel →
      ∀ slot, exchange.transport.slot? other = some slot →
        (exchange.transport.setChannel own.place after).channels[slot.place]? =
          exchange.transport.channels[slot.place]? := by
    intro id own channel after differs found there slot otherFound
    rw [Transport.getElem?_setChannel there, if_neg]
    exact fun same => differs (ready.apart other id slot own otherFound found same)
  have ofGivesUp : ∀ {id : Nat} {transport : Transport}, other ≠ id →
      exchange.transport.GivesUp transport id →
      transport.slot? other = exchange.transport.slot? other ∧
        ∀ slot, exchange.transport.slot? other = some slot →
          transport.channels[slot.place]? = exchange.transport.channels[slot.place]? := by
    intro id transport differs givesUp
    refine ⟨givesUp.slots other differs, fun slot otherFound => ?_⟩
    refine givesUp.others slot.place fun own found same => ?_
    exact differs (ready.apart other id slot own otherFound found same.symm)
  cases comes with
  | refused | dropped | unknown => exact ⟨rfl, fun _ _ => rfl⟩
  | eof id => exact ofGivesUp isOther (Transport.endInput_givesUp ready.placed id)
  | close id => exact ofGivesUp isOther (Transport.closed_givesUp ready.placed id).1
  | opened id channel =>
      refine ⟨(exchange.transport.slot?_opened id other channel).trans (if_neg isOther),
        fun slot found => ?_⟩
      rw [Transport.getElem?_opened, if_neg]
      exact Nat.ne_of_lt (ready.placed other slot found)
  | data id chunk place channel input sent found there => exact ⟨rfl, ofSet isOther found there⟩
  | request id request slot channel requests reply sent found there =>
      exact ⟨rfl, ofSet isOther found there⟩
  | answer id request slot channel number found there => exact ⟨rfl, ofSet isOther found there⟩

end Exchange

end SshServer
