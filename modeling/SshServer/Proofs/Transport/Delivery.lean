import Mathlib.Data.List.TakeWhile
import SshServer.Proofs.Transport.Slots

/-!
Contract: the input of a channel gets the data of its own identifier, as long as it was open for
data and its handler took it.

Owns: which chunks a list of callbacks has for the channel that one of them opened; what comes to
the inputs of all channels in one attempt; and that over a run each input gets its own chunks, in
order.
Does not own: the slots (`Proofs.Transport.Slots`), and what a handler then reads
(`Proofs.Input.Stream`).
-/

namespace SshServer

/-- The chunk that a callback had for an identifier, if the handler still took it. -/
def Call.chunkFor (call : Call) (id : Nat) : Option ByteArray :=
  match call.callback with
  | .data other chunk => if other = id ∧ call.heard = true then some chunk else none
  | .opened _ _ | .refused _ | .eof _ | .close _ | .request _ _ => none

/-- The chunks that came for a channel after its opening, up to the end of its data. -/
def chunksFor (id : Nat) (later : List Call) : List ByteArray :=
  (later.takeWhile fun call => !call.callback.ends id).filterMap (·.chunkFor id)

theorem Call.chunkFor_of_other {call : Call} {id : Nat} (isOther : call.callback.id ≠ id) :
    call.chunkFor id = none := by
  unfold chunkFor
  cases callback : call.callback with
  | data other chunk =>
      rw [callback] at isOther
      exact if_neg fun both => isOther both.1
  | opened | refused | eof | close | request => rfl

theorem Call.chunkFor_of_ends {call : Call} {id : Nat} (ends : call.callback.ends id = true) :
    call.chunkFor id = none := by
  unfold chunkFor
  cases callback : call.callback with
  | data other chunk =>
      rw [callback] at ends
      exact absurd ends Bool.false_ne_true
  | opened | refused | eof | close | request => rfl

/-- What closes a channel also ends its data. -/
theorem Callback.not_closes_of_not_ends {callback : Callback} {id : Nat}
    (notEnds : callback.ends id = false) : callback.closes id = false := by
  cases callback with
  | close other => exact notEnds
  | opened | refused | data | eof | request => rfl

theorem chunksFor_of_open {id : Nat} {later : List Call}
    (isOpen : ∀ call ∈ later, call.callback.ends id = false) (call : Call) :
    chunksFor id (later ++ [call]) = chunksFor id later ++ (call.chunkFor id).toList := by
  have all : ∀ other ∈ later, (!other.callback.ends id) = true := by
    intro other member
    rw [isOpen other member]
    rfl
  unfold chunksFor
  rw [List.takeWhile_append_of_pos all, List.takeWhile_eq_self_iff.2 all, List.filterMap_append]
  congr 1
  cases ends : call.callback.ends id with
  | true =>
      rw [Call.chunkFor_of_ends ends, List.takeWhile_cons, ends]
      rfl
  | false =>
      rw [List.takeWhile_cons, ends]
      exact History.filterMap_singleton _ call

theorem chunksFor_of_ended {id : Nat} {later : List Call}
    (isEnded : ¬∀ call ∈ later, call.callback.ends id = false) (call : Call) :
    chunksFor id (later ++ [call]) = chunksFor id later := by
  have notAll : (later.takeWhile fun other => !other.callback.ends id).length ≠ later.length := by
    intro whole
    have taken := List.takeWhile_prefix (l := later) fun other => !other.callback.ends id
    have same := taken.eq_of_length whole
    refine isEnded fun other member => ?_
    have kept := List.takeWhile_eq_self_iff.1 same other member
    rw [Bool.not_eq_true'] at kept
    exact kept
  unfold chunksFor
  rw [List.takeWhile_append, if_neg notAll]

namespace Transport

/-- What comes to the input of the channel at a place. -/
def arrives (place : Nat) (before after : Transport) : List ByteArray :=
  match before.channels[place]?, after.channels[place]? with
  | some before, some after => Mailbox.newItems before.input.box after.input.box
  | _, _ => []

end Transport

theorem Mailbox.newItems_self {α : Type} (box : Mailbox α) : newItems box box = [] :=
  newItems_of_length_le (Nat.le_refl _)

namespace Transport

theorem arrives_of_fewer {before after : Transport} {place : Nat}
    (fewer : ∀ (was is : Channel), before.channels[place]? = some was →
      after.channels[place]? = some is →
      is.input.box.items.toList.length ≤ was.input.box.items.toList.length) :
    arrives place before after = [] := by
  unfold arrives
  split
  next was is isBefore isAfter =>
    exact Mailbox.newItems_of_length_le (fewer was is isBefore isAfter)
  · rfl

theorem arrives_of_same {before after : Transport} {place : Nat}
    (same : after.channels[place]? = before.channels[place]?) :
    arrives place before after = [] := by
  refine arrives_of_fewer fun was is isBefore isAfter => ?_
  obtain rfl := Option.some.inj (isAfter.symm.trans (same.trans isBefore))
  exact Nat.le_refl _

theorem arrives_of_givesUp {before after : Transport} {id : Nat} (givesUp : before.GivesUp after id)
    (place : Nat) : arrives place before after = [] := by
  refine arrives_of_fewer fun was is isBefore isAfter => ?_
  obtain ⟨other, isOther, same⟩ := givesUp.content place is isAfter
  obtain rfl := Option.some.inj (isOther.symm.trans isBefore)
  rw [same.inputItems]

theorem arrives_set {before : Transport} {own : Nat} {was is : Channel}
    (there : before.channels[own]? = some was) (place : Nat) :
    arrives place before (before.setChannel own is) =
      if place = own then Mailbox.newItems was.input.box is.input.box else [] := by
  by_cases same : place = own
  · subst same
    unfold arrives
    rw [getElem?_setChannel there, there, if_pos rfl, if_pos rfl]
  · rw [if_neg same]
    apply arrives_of_same
    rw [getElem?_setChannel there, if_neg same]

end Transport

namespace Exchange

variable {exchange : Exchange}

theorem filterMap_callOf {β : Type} {attempt : Attempt} {show? : Call → Option β}
    (nothing : ∀ call : Call, call.callback = attempt.callback → show? call = none) :
    (exchange.callOf attempt).filterMap show? = [] := by
  rcases exchange.callOf_cases attempt with ⟨isOpen, -⟩ | ⟨call, isOver, same, -⟩
  · rw [isOpen, List.filterMap_nil]
  · rw [isOver, List.filterMap_cons_none (nothing call same), List.filterMap_nil]

/-- What an attempt brings to a place: the chunk of a callback that is over, if the slot of its
identifier is that place and takes data. -/
theorem Comes.arrives (ready : exchange.Ready) {attempt : Attempt} (comes : exchange.Comes attempt)
    (place : Nat) :
    Transport.arrives place exchange.transport attempt.transport =
      (exchange.callOf attempt).filterMap fun call =>
        if exchange.transport.slot? call.callback.id = some ⟨place, true⟩ then
          call.chunkFor call.callback.id
        else none := by
  have noChunk : ∀ (call : Call) (callback : Callback), call.callback = callback →
      (∀ id chunk, callback ≠ .data id chunk) →
      (if exchange.transport.slot? call.callback.id = some ⟨place, true⟩ then
        call.chunkFor call.callback.id else none) = none := by
    rintro call callback rfl notData
    have none : call.chunkFor call.callback.id = none := by
      unfold Call.chunkFor
      cases isCallback : call.callback with
      | data id chunk => exact absurd isCallback (notData id chunk)
      | opened | refused | eof | close | request => rfl
    rw [none, ite_self]
  cases comes with
  | refused | unknown =>
      rw [Transport.arrives_of_same rfl, filterMap_callOf]
      exact fun call same => noChunk call _ same fun _ _ => Callback.noConfusion
  | dropped id chunk idle nobody =>
      rw [Transport.arrives_of_same rfl, filterMap_callOf]
      intro call same
      rw [same]
      exact if_neg (nobody place)
  | eof id =>
      rw [Transport.arrives_of_givesUp (Transport.endInput_givesUp ready.placed id),
        filterMap_callOf]
      exact fun call same => noChunk call _ same fun _ _ => Callback.noConfusion
  | close id =>
      rw [Transport.arrives_of_givesUp (Transport.closed_givesUp ready.placed id).1,
        filterMap_callOf]
      exact fun call same => noChunk call _ same fun _ _ => Callback.noConfusion
  | opened id channel =>
      have nothing : Transport.arrives place exchange.transport
          (exchange.transport.opened id channel) = [] := by
        refine Transport.arrives_of_fewer fun was is isBefore isAfter => ?_
        have inRange := (List.getElem?_eq_some_iff.1 isBefore).1
        rw [Transport.getElem?_opened, if_neg (Nat.ne_of_lt inRange), isBefore] at isAfter
        obtain rfl := Option.some.inj isAfter
        exact Nat.le_refl _
      rw [nothing, filterMap_callOf]
      exact fun call same => noChunk call _ same fun _ _ => Callback.noConfusion
  | data id chunk own channel input sent found there origin sends =>
      have isChannel := channelOf?_of_slot found there
      have isPlace : (exchange.transport.slot? id = some ⟨place, true⟩) ↔ place = own := by
        rw [found, Option.some.injEq, Slot.mk.injEq, and_iff_left rfl]
        exact eq_comm
      rw [Transport.arrives_set there, sends.newItems]
      cases sends with
      | refused isDetached =>
          have noChunk : Call.chunkFor ⟨.data id chunk, none, none, channel.input.box.attached,
              channel.requests.box.attached⟩ id = none := by
            refine if_neg fun both => ?_
            rw [isDetached] at both
            exact absurd both.2 Bool.false_ne_true
          rw [callOf_of_finished rfl isChannel, List.filterMap_cons_none, List.filterMap_nil]
          · exact ite_self []
          · split
            · exact noChunk
            · rfl
      | queued isAttached =>
          have hasChunk : Call.chunkFor ⟨.data id chunk, none, none, channel.input.box.attached,
              channel.requests.box.attached⟩ id = some chunk := if_pos ⟨rfl, isAttached⟩
          rw [callOf_of_finished rfl isChannel, if_pos rfl]
          by_cases same : place = own
          · rw [if_pos same, List.filterMap_cons_some, List.filterMap_nil]
            exact (if_pos (isPlace.2 same)).trans hasChunk
          · rw [if_neg same, List.filterMap_cons_none, List.filterMap_nil]
            exact if_neg fun isSlot => same (isPlace.1 isSlot)
      | waits => exact ite_self []
  | request id request slot channel requests reply sent found there =>
      obtain ⟨answers, becomes⟩ :=
        exists_afterRequest { channel with requests } slot.place reply sent
      rw [Transport.arrives_set there, becomes, Mailbox.newItems_self, ite_self, filterMap_callOf]
      exact fun call same => noChunk call _ same fun _ _ => Callback.noConfusion
  | answer id request slot channel number found there =>
      obtain ⟨answers, becomes⟩ := exists_collect channel slot.place number
      rw [Transport.arrives_set there, becomes, Mailbox.newItems_self, ite_self, filterMap_callOf]
      exact fun call same => noChunk call _ same fun _ _ => Callback.noConfusion

/-- Each input has got the chunks of the callbacks for its own identifier. -/
structure Delivers (ended : List Call) (delivered : Nat → List ByteArray) : Prop where
  unopened : ∀ place, openings ended ≤ place → delivered place = []
  opened : ∀ id before opening after, ended = before ++ opening :: after →
    opening.callback.opens id = true → delivered (openings before) = chunksFor id after

/-- A channel that is named was opened before. -/
theorem place_of_names {ended : List Call} {id : Nat} {slot : Slot} (named : Names ended id slot) :
    slot.place < openings ended := by
  obtain ⟨before, opening, after, lives⟩ := named
  rw [lives.split, lives.place, openings_append,
    openings_cons (Callback.isOpening_of_opens lives.opens).1]
  omega

theorem Delivers.nothing {ended : List Call} {delivered : Nat → List ByteArray}
    (delivers : Delivers ended delivered) {arriving : Nat → List ByteArray}
    (nothing : ∀ place, arriving place = []) :
    Delivers ended fun place => delivered place ++ arriving place := by
  refine ⟨fun place beyond => ?_, fun id before opening after split opens => ?_⟩
  · rw [nothing, List.append_nil]
    exact delivers.unopened place beyond
  · rw [nothing, List.append_nil]
    exact delivers.opened id before opening after split opens

/-- One more callback that is over brings its chunk to the place of its identifier, and nothing
elsewhere. -/
theorem Delivers.call {ended : List Call} {delivered : Nat → List ByteArray}
    (delivers : Delivers ended delivered) (slotted : exchange.Slotted ended)
    (ready : exchange.Ready) (call : Call) {arriving : Nat → List ByteArray}
    (arrives : ∀ place, arriving place =
      (if exchange.transport.slot? call.callback.id = some ⟨place, true⟩ then
        call.chunkFor call.callback.id else none).toList) :
    Delivers (ended ++ [call]) fun place => delivered place ++ arriving place := by
  have unnamed : ∀ place, openings ended ≤ place → arriving place = [] := by
    intro place beyond
    rw [arrives, if_neg]
    · rfl
    · intro isSlot
      have named := place_of_names ((slotted.names _ _).1 isSlot)
      exact absurd named (Nat.not_lt.2 beyond)
  refine ⟨fun place beyond => ?_, fun id before opening after split opens => ?_⟩
  · have was : openings ended ≤ place := by
      rw [openings_append] at beyond
      omega
    rw [delivers.unopened place was, unnamed place was]
    rfl
  · rcases split_snoc split with ⟨rfl, -, rfl⟩ | ⟨rest, rfl, isEnded⟩
    · rw [delivers.unopened _ (Nat.le_refl _), unnamed _ (Nat.le_refl _)]
      rfl
    · rw [delivers.opened id before opening rest isEnded opens, arrives]
      by_cases isOpen : ∀ other ∈ rest, other.callback.ends id = false
      · have named : Names ended id ⟨openings before, true⟩ :=
          ⟨before, opening, rest, isEnded, opens, rfl,
            fun other member => Callback.not_closes_of_not_ends (isOpen other member),
            ⟨fun _ => isOpen, fun _ => rfl⟩⟩
        have found := (slotted.names id _).2 named
        rw [chunksFor_of_open isOpen]
        congr 2
        by_cases same : call.callback.id = id
        · rw [same, if_pos found]
        · rw [Call.chunkFor_of_other same, if_neg]
          exact fun isSlot => same (ready.apart _ _ _ _ isSlot found rfl)
      · rw [chunksFor_of_ended isOpen, if_neg]
        · exact List.append_nil _
        · intro isSlot
          obtain ⟨otherBefore, other, otherRest, lives⟩ := (slotted.names _ _).1 isSlot
          have opening := Callback.isOpening_of_opens opens
          have otherOpening := Callback.isOpening_of_opens lives.opens
          obtain ⟨rfl, rfl, rfl⟩ := split_unique (isEnded.symm.trans lives.split) opening.1
            otherOpening.1 lives.place
          refine isOpen ?_
          rw [← opening.2, otherOpening.2]
          exact lives.receiving.1 rfl

theorem Delivers.next {ended : List Call} {delivered : Nat → List ByteArray}
    (delivers : Delivers ended delivered) (slotted : exchange.Slotted ended)
    (ready : exchange.Ready) {act : ExchangeAct} {next : Exchange}
    (moves : exchange.Moves act next) :
    Delivers (ended ++ exchange.endedBy act) fun place =>
      delivered place ++ Transport.arrives place exchange.transport next.transport := by
  -- what a handler does to a channel brings nothing to its input
  have ofHandler : ∀ {place : Nat} {before after : Channel},
      exchange.transport.channels[place]? = some before →
      after.input.box.items.toList.length ≤ before.input.box.items.toList.length →
      ∀ other, Transport.arrives other exchange.transport
        (exchange.transport.setChannel place after) = [] := by
    intro place before after there fewer other
    rw [Transport.arrives_set there, Mailbox.newItems_of_length_le fewer, ite_self]
  cases moves with
  | @attempt _ attempt attempted comes =>
      rw [endedBy_of_attempt attempted]
      have arriving := comes.arrives ready
      rcases exchange.callOf_cases attempt with ⟨isOpen, -⟩ | ⟨call, isOver, -⟩
      · rw [isOpen, List.append_nil]
        refine delivers.nothing fun place => (arriving place).trans ?_
        rw [isOpen, List.filterMap_nil]
      · rw [isOver]
        refine delivers.call slotted ready call fun place => (arriving place).trans ?_
        rw [isOver, History.filterMap_singleton]
  | stays noAttempt =>
      rw [endedBy_of_none noAttempt, List.append_nil]
      exact delivers.nothing fun place => Transport.arrives_of_same rfl
  | @handler act place channel there =>
      rw [endedBy_of_none rfl, List.append_nil]
      exact delivers.nothing (ofHandler there (channel.stepOfHandler_effect act).input.fewer)
  | take there | answer _ _ there =>
      rw [endedBy_of_none rfl, List.append_nil]
      exact delivers.nothing (ofHandler there (Nat.le_refl _))

end Exchange

end SshServer
