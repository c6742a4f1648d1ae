import SshServer.Proofs.Session.LettingGo
import SshServer.Proofs.Transport.Run

/-!
Contract: the channels of a transport, as its callbacks and its handlers leave them.

Owns: what a send at a queue can come to; that handlers keep out of the way of the transport; and
the slots and the channels after a callback.
Does not own: when a callback is attempted, and what it waits for (`Proofs.Transport.Steps`).

There is one callback at a time, so nobody else ever waits for room in a queue.
-/

namespace SshServer

/-! ### Sends at a queue -/

namespace Mailbox

variable {α : Type} {box : Mailbox α} {sender : Nat} {item : α}

/-- What becomes of an item that is sent where nobody else waits for room. -/
inductive Sends (before : Mailbox α) (sender : Nat) (item : α) (after : Mailbox α) :
    Sent → Prop where
  | refused (isDetached : before.attached = false) (attached : after.attached = before.attached)
      (items : after.items = before.items) (nobody : after.blocked = []) :
      Sends before sender item after .refused
  | queued (isAttached : before.attached = true) (attached : after.attached = before.attached)
      (items : after.items = before.items.push item) (nobody : after.blocked = []) :
      Sends before sender item after .queued
  | waits (isAttached : before.attached = true) (attached : after.attached = before.attached)
      (noRoom : after.hasRoom = false) (items : after.items = before.items)
      (blocked : after.blocked = [(sender, item)]) :
      Sends before sender item after .waiting

theorem offer_sends (nobody : box.blocked = []) (sender : Nat) (item : α) :
    Sends box sender item (box.offer sender item).1 (box.offer sender item).2 := by
  unfold offer
  split
  next isDetached =>
    exact .refused (Bool.not_eq_true' _ ▸ isDetached) rfl rfl nobody
  next notDetached =>
    have isAttached : box.attached = true := by
      rw [Bool.not_eq_true', Bool.not_eq_false] at notDetached
      exact notDetached
    split
    · exact .queued isAttached rfl rfl nobody
    next noRoom =>
      rw [nobody, List.isEmpty_nil, Bool.true_and, Bool.not_eq_true] at noRoom
      refine .waits isAttached rfl noRoom rfl ?_
      rw [nobody, List.nil_append]

theorem retry_sends (own : box.blocked = [(sender, item)]) :
    Sends box sender item (box.retry sender).1 (box.retry sender).2 := by
  unfold retry
  split
  next isDetached =>
    refine .refused (Bool.not_eq_true' _ ▸ isDetached) rfl rfl ?_
    rw [withdraw, own]
    simp only [List.filter_cons, bne_self_eq_false, Bool.false_eq_true, if_false, List.filter_nil]
  next notDetached =>
    have isAttached : box.attached = true := by
      rw [Bool.not_eq_true', Bool.not_eq_false] at notDetached
      exact notDetached
    rw [own]
    dsimp only
    split
    · exact .queued isAttached rfl rfl rfl
    next noRoom =>
      rw [not_and, Bool.not_eq_true] at noRoom
      exact .waits isAttached rfl (noRoom rfl) rfl own

theorem Sends.newItems {after : Mailbox α} {sent : Sent}
    (sends : Sends box sender item after sent) :
    newItems box after = if sent = .queued then [item] else [] := by
  cases sends with
  | refused _ _ items | waits _ _ _ items =>
      refine newItems_of_length_le (Nat.le_of_eq ?_)
      rw [items]
  | queued _ _ items =>
      refine newItems_of_append ?_
      rw [items, Fifo.toList_push]
      rfl

end Mailbox

/-! ### Handlers keep out of the way of the transport -/

namespace Inlet

/-- What a reader does to an input: items leave, and who waits for room still waits. -/
structure Drains (before after : Inlet) : Prop where
  blocked : after.box.blocked = before.box.blocked
  fewer : after.box.items.toList.length ≤ before.box.items.toList.length
  attached : before.box.attached = false → after.box.attached = false

theorem Drains.of_same {before after : Inlet} (same : after.box = before.box) :
    Drains before after := by
  refine ⟨congrArg _ same, Nat.le_of_eq ?_, fun isDetached => ?_⟩
  · rw [same]
  · rw [same]
    exact isDetached

theorem Drains.trans {first second third : Inlet} (before : Drains first second)
    (after : Drains second third) : Drains first third where
  blocked := after.blocked.trans before.blocked
  fewer := Nat.le_trans after.fewer before.fewer
  attached := after.attached ∘ before.attached

theorem drains_of_take {inlet after : Inlet} {chunk : ByteArray} {box : Mailbox ByteArray}
    (taken : inlet.box.take? = some (chunk, box)) (same : after.box = box) :
    Drains inlet after := by
  have items := Mailbox.toList_of_take? taken
  simp only [Mailbox.take?, Option.map_eq_some_iff, Prod.mk.injEq, Prod.exists] at taken
  obtain ⟨_, rest, -, rfl, rfl⟩ := taken
  refine ⟨by rw [same], ?_, by rw [same]; exact id⟩
  rw [same, items]
  exact Nat.le_succ _

theorem drains_receive (inlet : Inlet) (reader : Nat) :
    Drains inlet (inlet.receive reader).1 := by
  unfold receive
  dsimp only
  split
  next chunk after taken =>
    unfold take? at taken
    split at taken
    · simp only [Option.map_eq_some_iff, Prod.mk.injEq, Prod.exists] at taken
      obtain ⟨first, box, popped, rfl, rfl⟩ := taken
      exact drains_of_take popped rfl
    · obtain ⟨rfl, rfl⟩ := Prod.mk.inj (Option.some.inj taken)
      exact .of_same rfl
  · split
    · exact .of_same rfl
    · exact .of_same rfl

theorem drains_advance (chunks : Nat) (inlet : Inlet) : Drains inlet (inlet.advance chunks) := by
  induction chunks generalizing inlet with
  | zero => exact .of_same rfl
  | succ chunks inductionHypothesis =>
      unfold advance
      split
      · split
        next chunk box taken =>
          exact (drains_of_take taken rfl).trans
            (inductionHypothesis { inlet with box, rest := chunk })
        · exact .of_same rfl
      · exact .of_same rfl

theorem drains_read (inlet : Inlet) (reader count : Nat) :
    Drains inlet (inlet.read reader count).1 := by
  have advanced : Drains inlet ((inlet.attend reader).advance inlet.box.items.length) :=
    { drains_advance inlet.box.items.length (inlet.attend reader) with }
  unfold read
  dsimp only
  split
  · split
    · exact advanced
    · exact advanced.trans (.of_same rfl)
  · exact advanced.trans (.of_same rfl)

end Inlet

namespace Channel

/-- What a handler does to its channel: it reads from the input, or leaves its input or its
requests. -/
structure HandlerEffect (before after : Channel) : Prop where
  input : before.input.Drains after.input
  requests : after.requests = before.requests ∨ after.requests = before.requests.detach

theorem stepOfHandler_effect (channel : Channel) (act : HandlerAct) :
    HandlerEffect channel (channel.stepOfHandler act) := by
  cases act with
  | receive reader => exact ⟨channel.input.drains_receive reader, .inl rfl⟩
  | read reader count => exact ⟨channel.input.drains_read reader count, .inl rfl⟩
  | leaveInput => exact ⟨⟨rfl, Nat.zero_le _, fun _ => rfl⟩, .inl rfl⟩
  | leaveRequests => exact ⟨.of_same rfl, .inr rfl⟩
  | output act => exact ⟨.of_same rfl, .inl rfl⟩

/-- A channel that its transport has not used yet. -/
structure Unused (channel : Channel) : Prop where
  input : channel.input.box.blocked = []
  blocked : channel.requests.box.blocked = []
  items : channel.requests.box.items.toList = []
  answers : channel.requests.answers = []

theorem Unused.step {channel : Channel} (unused : channel.Unused) (act : HandlerAct) :
    (channel.stepOfHandler act).Unused := by
  have effect := channel.stepOfHandler_effect act
  have input := effect.input.blocked.trans unused.input
  rcases effect.requests with same | leaves
  · refine ⟨input, ?_, ?_, ?_⟩
    · rw [same]
      exact unused.blocked
    · rw [same]
      exact unused.items
    · rw [same]
      exact unused.answers
  · refine ⟨input, ?_, ?_, ?_⟩
    · rw [leaves]
      exact unused.blocked
    · rw [leaves]
      exact Fifo.toList_empty
    · rw [leaves, RequestStream.detach, unused.items]
      exact unused.answers

/-- Whatever its handler does before the transport has a slot for it, a channel is not used yet. -/
theorem unused_accepted (offer : ChannelOffer) (sofar : List HandlerAct) :
    (sofar.foldl stepOfHandler (ofOffer offer true)).Unused :=
  runFrom_induction stepOfHandler Unused (fun _ act unused => unused.step act)
    ⟨rfl, rfl, Fifo.toList_empty, rfl⟩ sofar

end Channel

namespace RequestStream

theorem take_blocked {stream requests : RequestStream} {request : Request}
    (taken : stream.take? = some (request, requests)) :
    requests.box.blocked = stream.box.blocked := by
  simp only [take?, Mailbox.take?, Option.map_eq_some_iff, Prod.mk.injEq,
    Prod.exists] at taken
  obtain ⟨_, _, ⟨_, _, -, -, rfl⟩, -, rfl⟩ := taken
  rfl

theorem toList_of_take {stream requests : RequestStream} {request : Request}
    (taken : stream.take? = some (request, requests)) :
    stream.box.items.toList = request :: requests.box.items.toList ∧
      requests.box.attached = stream.box.attached := by
  simp only [take?, Option.map_eq_some_iff, Prod.mk.injEq, Prod.exists] at taken
  obtain ⟨_, box, boxTaken, rfl, rfl⟩ := taken
  refine ⟨Mailbox.toList_of_take? boxTaken, ?_⟩
  simp only [Mailbox.take?, Option.map_eq_some_iff, Prod.mk.injEq, Prod.exists] at boxTaken
  obtain ⟨_, _, -, -, rfl⟩ := boxTaken
  rfl

theorem nextReply_of_take {stream requests : RequestStream} {request : Request}
    (taken : stream.take? = some (request, requests)) :
    requests.nextReply = stream.nextReply := by
  simp only [take?, Option.map_eq_some_iff, Prod.mk.injEq, Prod.exists] at taken
  obtain ⟨_, _, -, -, rfl⟩ := taken
  rfl

theorem nextReply_settle (stream : RequestStream) (request : Request) (verdict : Option Bool) :
    (stream.settle request verdict).nextReply = stream.nextReply := by
  cases verdict with
  | none => exact nextReply_answer stream request false
  | some verdict => exact nextReply_answer stream request verdict

theorem box_settle (stream : RequestStream) (request : Request) (verdict : Option Bool) :
    (stream.settle request verdict).box = stream.box := by
  cases verdict with
  | none => exact box_answer stream request false
  | some verdict => exact box_answer stream request verdict

end RequestStream

/-! ### Slots and channels after a callback -/

namespace Transport

def setChannel (transport : Transport) (place : Nat) (channel : Channel) : Transport :=
  { transport with channels := transport.channels.set place channel }

section

variable {transport : Transport} {place : Nat} {channel : Channel}

theorem onChannel_of_some {ρ : Type} (there : transport.channels[place]? = some channel)
    (otherwise : ρ) (act : Channel → Channel × ρ) :
    transport.onChannel place otherwise act =
      (transport.setChannel place (act channel).1, (act channel).2) := by
  unfold onChannel
  rw [there]
  rfl

theorem onChannel_of_none {ρ : Type} (missing : transport.channels[place]? = none)
    (otherwise : ρ) (act : Channel → Channel × ρ) :
    transport.onChannel place otherwise act = (transport, otherwise) := by
  unfold onChannel
  rw [missing]

theorem length_setChannel : (transport.setChannel place channel).channels.length =
    transport.channels.length :=
  List.length_set

theorem getElem?_setChannel {before : Channel} (there : transport.channels[place]? = some before)
    (other : Nat) : (transport.setChannel place channel).channels[other]? =
      if other = place then some channel else transport.channels[other]? := by
  have inRange : place < transport.channels.length := (List.getElem?_eq_some_iff.1 there).1
  rw [setChannel, List.getElem?_set]
  by_cases same : place = other
  · rw [if_pos same, if_pos same.symm, if_pos inRange]
  · rw [if_neg same, if_neg (Ne.symm same)]

end

theorem lookup_without (transport : Transport) (id other : Nat) :
    (transport.without id).lookup other = if other = id then none else transport.slot? other := by
  unfold without slot?
  induction transport.slots with
  | nil => exact (ite_self none).symm
  | cons entry rest inductionHypothesis =>
      rw [List.filter_cons, List.lookup_cons]
      by_cases same : other = id
      · subst same
        rw [if_pos rfl] at inductionHypothesis ⊢
        split
        next kept =>
          have isOther : (other == entry.1) = false := by
            rw [beq_eq_false_iff_ne]
            exact Ne.symm (bne_iff_ne.1 kept)
          rw [List.lookup_cons, isOther]
          exact inductionHypothesis
        · exact inductionHypothesis
      · rw [if_neg same] at inductionHypothesis ⊢
        split
        · rw [List.lookup_cons, inductionHypothesis]
        next dropped =>
          have isOther : (other == entry.1) = false := by
            rw [beq_eq_false_iff_ne]
            rintro rfl
            exact dropped (bne_iff_ne.2 same)
          rw [isOther]
          exact inductionHypothesis

theorem slot?_opened (transport : Transport) (id other : Nat) (channel : Channel) :
    (transport.opened id channel).slot? other =
      if other = id then some ⟨transport.channels.length, true⟩ else transport.slot? other := by
  show List.lookup other ((id, _) :: transport.without id) = _
  rw [List.lookup_cons, lookup_without]
  by_cases same : other = id
  · rw [if_pos same, if_pos same, beq_iff_eq.2 same]
  · rw [if_neg same, if_neg same, beq_eq_false_iff_ne.2 same]

theorem getElem?_opened (transport : Transport) (id place : Nat) (channel : Channel) :
    (transport.opened id channel).channels[place]? =
      if place = transport.channels.length then some channel else transport.channels[place]? := by
  show (transport.channels ++ [channel])[place]? = _
  rcases Nat.lt_trichotomy place transport.channels.length with old | isNew | beyond
  · rw [List.getElem?_append_left old, if_neg (Nat.ne_of_lt old)]
  · rw [if_pos isNew, isNew, List.getElem?_concat_length]
  · rw [if_neg (Nat.ne_of_gt beyond), List.getElem?_eq_none (Nat.le_of_lt beyond)]
    refine List.getElem?_eq_none ?_
    rw [List.length_append, List.length_singleton]
    exact beyond

end Transport

/-- What goes through a channel is as it was: at most handles were given up. -/
structure Channel.SameContent (before after : Channel) : Prop where
  inputItems : after.input.box.items = before.input.box.items
  inputBlocked : after.input.box.blocked = before.input.box.blocked
  inputAttached : after.input.box.attached = before.input.box.attached
  items : after.requests.box.items = before.requests.box.items
  blocked : after.requests.box.blocked = before.requests.box.blocked
  attached : after.requests.box.attached = before.requests.box.attached
  answers : after.requests.answers = before.requests.answers
  nextReply : after.requests.nextReply = before.requests.nextReply

theorem Channel.SameContent.refl (channel : Channel) : channel.SameContent channel :=
  ⟨rfl, rfl, rfl, rfl, rfl, rfl, rfl, rfl⟩

theorem Channel.SameContent.trans {first second third : Channel}
    (before : first.SameContent second) (after : second.SameContent third) :
    first.SameContent third where
  inputItems := after.inputItems.trans before.inputItems
  inputBlocked := after.inputBlocked.trans before.inputBlocked
  inputAttached := after.inputAttached.trans before.inputAttached
  items := after.items.trans before.items
  blocked := after.blocked.trans before.blocked
  attached := after.attached.trans before.attached
  answers := after.answers.trans before.answers
  nextReply := after.nextReply.trans before.nextReply

namespace Transport

/-- Where a channel is found, there is one. -/
def Placed (transport : Transport) : Prop :=
  ∀ id slot, transport.slot? id = some slot → slot.place < transport.channels.length

/-- The slot of an identifier has changed, and handles on its channel were given up. -/
structure GivesUp (before after : Transport) (id : Nat) : Prop where
  length : after.channels.length = before.channels.length
  slots : ∀ other ≠ id, after.slot? other = before.slot? other
  /-- The slot, if there is one, is at the same place. -/
  place : ∀ slot, after.slot? id = some slot →
    ∃ was, before.slot? id = some was ∧ was.place = slot.place
  content : ∀ (place : Nat) (channel : Channel), after.channels[place]? = some channel →
    ∃ was, before.channels[place]? = some was ∧ was.SameContent channel
  others : ∀ place : Nat, (∀ slot, before.slot? id = some slot → slot.place ≠ place) →
    after.channels[place]? = before.channels[place]?

theorem GivesUp.refl (transport : Transport) (id : Nat) : GivesUp transport transport id :=
  ⟨rfl, fun _ _ => rfl, fun slot found => ⟨slot, found, rfl⟩,
    fun _ channel there => ⟨channel, there, .refl channel⟩, fun _ _ => rfl⟩

theorem GivesUp.trans {first second third : Transport} {id : Nat}
    (before : GivesUp first second id) (after : GivesUp second third id) :
    GivesUp first third id where
  length := after.length.trans before.length
  slots other isOther := (after.slots other isOther).trans (before.slots other isOther)
  place slot found := by
    obtain ⟨middle, isMiddle, same⟩ := after.place slot found
    obtain ⟨was, isWas, sameWas⟩ := before.place middle isMiddle
    exact ⟨was, isWas, sameWas.trans same⟩
  content place channel there := by
    obtain ⟨middle, isMiddle, same⟩ := after.content place channel there
    obtain ⟨was, isWas, sameWas⟩ := before.content place middle isMiddle
    exact ⟨was, isWas, sameWas.trans same⟩
  others place elsewhere := by
    refine (after.others place fun slot found => ?_).trans (before.others place elsewhere)
    obtain ⟨was, isWas, same⟩ := before.place slot found
    exact same ▸ elsewhere was isWas

theorem givesUp_set {transport : Transport} {id : Nat} {slot : Slot} {channel after : Channel}
    {slots : List (Nat × Slot)} (found : transport.slot? id = some slot)
    (there : transport.channels[slot.place]? = some channel) (same : channel.SameContent after)
    (others : ∀ other ≠ id, slots.lookup other = transport.slot? other)
    (place : ∀ entry, slots.lookup id = some entry → entry.place = slot.place) :
    GivesUp transport ⟨transport.channels.set slot.place after, slots⟩ id where
  length := List.length_set
  slots := others
  place entry isEntry := ⟨slot, found, (place entry isEntry).symm⟩
  content other channel' isThere := by
    have isSet : (transport.setChannel slot.place after).channels[other]? = some channel' := isThere
    rw [getElem?_setChannel there] at isSet
    split at isSet
    next isPlace =>
      obtain rfl := Option.some.inj isSet
      exact ⟨channel, isPlace ▸ there, same⟩
    · exact ⟨channel', isSet, .refl channel'⟩
  others other elsewhere := by
    have isSet : (transport.setChannel slot.place after).channels[other]? =
        if other = slot.place then some after else transport.channels[other]? :=
      getElem?_setChannel there other
    rw [if_neg (Ne.symm (elsewhere slot found))] at isSet
    exact isSet

theorem exists_channel {transport : Transport} (placed : transport.Placed) {id : Nat} {slot : Slot}
    (found : transport.slot? id = some slot) :
    ∃ channel, transport.channels[slot.place]? = some channel :=
  ⟨_, List.getElem?_eq_getElem (placed id slot found)⟩

theorem endInput_givesUp {transport : Transport} (placed : transport.Placed) (id : Nat) :
    GivesUp transport (transport.endInput id) id := by
  unfold endInput
  split
  next place found =>
    obtain ⟨channel, there⟩ := exists_channel placed found
    rw [onChannel_of_some there]
    have same : channel.SameContent { channel with input := channel.input.dropSender } := by
      have dropped : channel.input.dropSender.box = channel.input.box.dropSender :=
        Inlet.notify_box _
      refine ⟨?_, ?_, ?_, rfl, rfl, rfl, rfl, rfl⟩ <;> rw [dropped] <;> rfl
    refine givesUp_set found there same (fun other isOther => ?_) fun entry isEntry => ?_
    · rw [List.lookup_cons, beq_eq_false_iff_ne.2 isOther]
      exact (lookup_without transport id other).trans (if_neg isOther)
    · rw [List.lookup_cons_self] at isEntry
      obtain rfl := Option.some.inj isEntry
      rfl
  · exact .refl transport id

theorem slot?_endInput {transport : Transport} (placed : transport.Placed) (id : Nat) :
    (transport.endInput id).slot? id =
      (transport.slot? id).map fun slot => { slot with receiving := false } := by
  unfold endInput
  split
  next place found =>
    obtain ⟨channel, there⟩ := exists_channel placed found
    rw [onChannel_of_some there, found]
    exact List.lookup_cons_self
  next notReceiving =>
    cases found : transport.slot? id with
    | none => rfl
    | some slot =>
        obtain ⟨place, receiving⟩ := slot
        cases receiving with
        | false => rfl
        | true => exact absurd found (notReceiving place)

theorem placed_givesUp {before after : Transport} {id : Nat} (placed : before.Placed)
    (givesUp : GivesUp before after id) : after.Placed := by
  intro other slot found
  rw [givesUp.length]
  by_cases same : other = id
  · subst same
    obtain ⟨was, isWas, samePlace⟩ := givesUp.place slot found
    exact samePlace ▸ placed other was isWas
  · exact placed other slot ((givesUp.slots other same).symm.trans found)

theorem closed_givesUp {transport : Transport} (placed : transport.Placed) (id : Nat) :
    GivesUp transport (transport.closed id) id ∧ (transport.closed id).slot? id = none := by
  have ended := endInput_givesUp placed id
  unfold closed
  split
  next missing =>
    rw [slot?_endInput placed, Option.map_eq_none_iff] at missing
    exact ⟨.refl transport id, missing⟩
  next slot found =>
    obtain ⟨channel, there⟩ := exists_channel (placed_givesUp placed ended) found
    rw [onChannel_of_some there]
    have gone := lookup_without (transport.endInput id) id
    refine ⟨ended.trans (givesUp_set found there ⟨rfl, rfl, rfl, rfl, rfl, rfl, rfl, rfl⟩
      (fun other isOther => (gone other).trans (if_neg isOther)) fun entry isEntry => ?_),
      (gone id).trans (if_pos rfl)⟩
    exact absurd (isEntry.symm.trans ((gone id).trans (if_pos rfl))) (Option.some_ne_none _)

end Transport

end SshServer
