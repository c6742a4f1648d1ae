import SshServer.Proofs.Transport.Channels

/-!
Contract: what a single step can do between a transport and the handlers of its channels.

Owns: what an attempt to come to the end of a callback can do; that the queues are ready for each
attempt; and what an operation can do at all.
Does not own: what becomes of a channel (`Proofs.Transport.Channels`), and what follows for a whole
run (`Proofs.Transport.Apart`).

A callback that waits has the same place and the same thing to deliver at every attempt, whatever
handlers do between them.
-/

namespace SshServer

/-- The request that a handler gets, with the number that its answer is awaited under. -/
def TypedRequest.toRequest (request : TypedRequest) (reply : Option Nat) : Request :=
  ⟨request.kind, request.payload, reply⟩

/-! ### Attempts -/

namespace Underway

/-- A callback that waits does so at the place of its channel, for what it has to deliver. -/
inductive Fits (transport : Transport) : Underway → Prop where
  | data (id : Nat) (chunk : ByteArray) (place : Nat)
      (found : transport.slot? id = some ⟨place, true⟩) :
      Fits transport ⟨.data id chunk, none, .input place⟩
  | request (id : Nat) (request : TypedRequest) (slot : Slot) (reply : Option Nat)
      (found : transport.slot? id = some slot) (wants : reply.isSome = request.wantsReply) :
      Fits transport ⟨.request id request,
        reply.map fun number => (slot.place, request.toRequest (some number)),
        .requests slot.place reply⟩
  | answer (id : Nat) (request : TypedRequest) (slot : Slot) (number : Nat)
      (found : transport.slot? id = some slot) (wants : request.wantsReply = true) :
      Fits transport ⟨.request id request, some (slot.place, request.toRequest (some number)),
        .answer slot.place number⟩

theorem Fits.of_slots {before after : Transport} {underway : Underway}
    (fits : underway.Fits before) (same : ∀ id, after.slot? id = before.slot? id) :
    underway.Fits after := by
  cases fits with
  | data id chunk place found => exact .data id chunk place ((same id).trans found)
  | request id request slot reply found wants =>
      exact .request id request slot reply ((same id).trans found) wants
  | answer id request slot number found wants =>
      exact .answer id request slot number ((same id).trans found) wants

/-- The chunk that waits for room at a place. -/
def inputWaits (underway : Underway) (place : Nat) : List (Nat × ByteArray) :=
  match underway.callback, underway.wait with
  | .data _ chunk, .input own => if own = place then [(Transport.sender, chunk)] else []
  | _, _ => []

/-- The request that waits for room at a place. -/
def requestWaits (underway : Underway) (place : Nat) : List (Nat × Request) :=
  match underway.callback, underway.wait with
  | .request _ request, .requests own reply =>
    if own = place then [(Transport.sender, request.toRequest reply)] else []
  | _, _ => []

end Underway

namespace Exchange

def inputWaits (exchange : Exchange) (place : Nat) : List (Nat × ByteArray) :=
  match exchange.underway with
  | none => []
  | some underway => underway.inputWaits place

def requestWaits (exchange : Exchange) (place : Nat) : List (Nat × Request) :=
  match exchange.underway with
  | none => []
  | some underway => underway.requestWaits place

/-- Every slot leads to a channel of its own, and in the queues of the channels nothing waits for
room but what the callback under way has to deliver. -/
structure Ready (exchange : Exchange) : Prop where
  placed : exchange.transport.Placed
  apart : ∀ id other slot otherSlot, exchange.transport.slot? id = some slot →
    exchange.transport.slot? other = some otherSlot → slot.place = otherSlot.place → id = other
  held : ∀ entry ∈ exchange.held, entry.1 < exchange.transport.channels.length
  fits : ∀ underway, exchange.underway = some underway → underway.Fits exchange.transport
  inputs : ∀ (place : Nat) (channel : Channel),
    exchange.transport.channels[place]? = some channel →
    channel.input.box.blocked = exchange.inputWaits place
  requests : ∀ (place : Nat) (channel : Channel),
    exchange.transport.channels[place]? = some channel →
    channel.requests.box.blocked = exchange.requestWaits place

/-- Whether a request was just made, or is under way. -/
inductive Origin (exchange : Exchange) (id : Nat) (request : TypedRequest) (place : Nat)
    (channel : Channel) (reply : Option Nat) : Prop where
  | new (idle : exchange.underway = none)
      (isNext : reply = if request.wantsReply then some channel.requests.nextReply else none)
  | old (waits : exchange.underway = some ⟨.request id request,
      reply.map fun number => (place, request.toRequest (some number)), .requests place reply⟩)

/-- What an attempt to come to the end of a callback can lead to. -/
inductive Comes (exchange : Exchange) : Attempt → Prop where
  | opened (id : Nat) (channel : Channel) (idle : exchange.underway = none)
      (isFree : exchange.transport.slot? id = none) (unused : channel.Unused) :
      Comes exchange
        ⟨.opened id channel, none, exchange.transport.opened id channel, .finished none⟩
  | refused (id : Nat) (idle : exchange.underway = none) :
      Comes exchange ⟨.refused id, none, exchange.transport, .finished none⟩
  | eof (id : Nat) (idle : exchange.underway = none) :
      Comes exchange ⟨.eof id, none, exchange.transport.endInput id, .finished none⟩
  | close (id : Nat) (idle : exchange.underway = none) :
      Comes exchange ⟨.close id, none, exchange.transport.closed id, .finished none⟩
  /-- The peer has no channel of that identifier that takes data. -/
  | dropped (id : Nat) (chunk : ByteArray) (idle : exchange.underway = none)
      (nobody : ∀ place, exchange.transport.slot? id ≠ some ⟨place, true⟩) :
      Comes exchange ⟨.data id chunk, none, exchange.transport, .finished none⟩
  | data (id : Nat) (chunk : ByteArray) (place : Nat) (channel : Channel) (input : Inlet)
      (sent : Mailbox.Sent) (found : exchange.transport.slot? id = some ⟨place, true⟩)
      (there : exchange.transport.channels[place]? = some channel)
      (origin : exchange.underway = none ∨
        exchange.underway = some ⟨.data id chunk, none, .input place⟩)
      (sends : channel.input.box.Sends Transport.sender chunk input.box sent) :
      Comes exchange
        ⟨.data id chunk, none, exchange.transport.setChannel place { channel with input },
          Transport.afterChunk place sent⟩
  /-- The peer has no channel of that identifier. -/
  | unknown (id : Nat) (request : TypedRequest) (idle : exchange.underway = none)
      (isFree : exchange.transport.slot? id = none) :
      Comes exchange
        ⟨.request id request, none, exchange.transport,
          .finished (if request.wantsReply then some false else none)⟩
  | request (id : Nat) (request : TypedRequest) (slot : Slot) (channel : Channel)
      (requests : RequestStream) (reply : Option Nat) (sent : Mailbox.Sent)
      (found : exchange.transport.slot? id = some slot)
      (there : exchange.transport.channels[slot.place]? = some channel)
      (wants : reply.isSome = request.wantsReply)
      (origin : exchange.Origin id request slot.place channel reply)
      (sends : channel.requests.box.Sends Transport.sender (request.toRequest reply)
        requests.box sent)
      (answers : requests.answers = channel.requests.answers)
      (later : channel.requests.nextReply ≤ requests.nextReply)
      (numbered : exchange.underway = none → ∀ number, reply = some number →
        number < requests.nextReply) :
      Comes exchange
        ⟨.request id request,
          reply.map fun number => (slot.place, request.toRequest (some number)),
          exchange.transport.setChannel slot.place
            (Transport.afterRequest { channel with requests } slot.place reply sent).1,
          (Transport.afterRequest { channel with requests } slot.place reply sent).2⟩
  | answer (id : Nat) (request : TypedRequest) (slot : Slot) (channel : Channel) (number : Nat)
      (found : exchange.transport.slot? id = some slot)
      (there : exchange.transport.channels[slot.place]? = some channel)
      (wants : request.wantsReply = true)
      (waits : exchange.underway = some ⟨.request id request,
        some (slot.place, request.toRequest (some number)), .answer slot.place number⟩) :
      Comes exchange
        ⟨.request id request, some (slot.place, request.toRequest (some number)),
          exchange.transport.setChannel slot.place
            (Transport.collect channel slot.place number).1,
          (Transport.collect channel slot.place number).2⟩

variable {exchange : Exchange}

/-- Nothing waits where no callback is under way. -/
theorem Ready.idle (ready : exchange.Ready) (idle : exchange.underway = none) {place : Nat}
    {channel : Channel} (there : exchange.transport.channels[place]? = some channel) :
    channel.input.box.blocked = [] ∧ channel.requests.box.blocked = [] := by
  have input := ready.inputs place channel there
  have requests := ready.requests place channel there
  unfold inputWaits at input
  unfold requestWaits at requests
  rw [idle] at input requests
  exact ⟨input, requests⟩

theorem comes_of_data (ready : exchange.Ready) (idle : exchange.underway = none) (id : Nat)
    (chunk : ByteArray) :
    exchange.Comes ⟨.data id chunk, none, (exchange.transport.data id chunk).1,
      (exchange.transport.data id chunk).2⟩ := by
  unfold Transport.data
  split
  next place found =>
    obtain ⟨channel, there⟩ := Transport.exists_channel ready.placed found
    rw [Transport.onChannel_of_some there]
    refine .data id chunk place channel (channel.input.offer Transport.sender chunk).1 _ found there
      (.inl idle) ?_
    simp only [Inlet.offer, Inlet.notify_box]
    exact Mailbox.offer_sends (ready.idle idle there).1 Transport.sender chunk
  next notReceiving => exact .dropped id chunk idle notReceiving

theorem comes_of_request (ready : exchange.Ready) (idle : exchange.underway = none) (id : Nat)
    (request : TypedRequest) :
    exchange.Comes ⟨.request id request, exchange.transport.made? (.request id request),
      (exchange.transport.request id request).1, (exchange.transport.request id request).2⟩ := by
  unfold Transport.request Transport.made?
  dsimp only
  cases found : exchange.transport.slot? id with
  | none => exact .unknown id request idle found
  | some slot =>
      obtain ⟨channel, there⟩ := Transport.exists_channel ready.placed found
      dsimp only
      rw [Transport.onChannel_of_some there, there]
      have nobody := (ready.idle idle there).2
      cases wants : request.wantsReply with
      | true =>
          refine .request id request slot channel _ (some channel.requests.nextReply) _ found there
            wants.symm (.new idle (by rw [wants]; rfl))
            (Mailbox.offer_sends nobody Transport.sender _) rfl (Nat.le_succ _) ?_
          rintro - number ⟨⟩
          exact Nat.lt_succ_self _
      | false =>
          refine .request id request slot channel _ none _ found there wants.symm
            (.new idle (by rw [wants]; rfl)) (Mailbox.offer_sends nobody Transport.sender _) rfl
            (Nat.le_refl _) ?_
          exact fun _ _ absent => absurd absent (Option.some_ne_none _).symm

theorem comes_of_call (ready : exchange.Ready) (idle : exchange.underway = none) {act : PeerAct}
    {callback : Callback} (told : act.callback? exchange.transport = some callback) :
    exchange.Comes ⟨callback, exchange.transport.made? callback,
      (exchange.transport.begin callback).1, (exchange.transport.begin callback).2⟩ := by
  cases act with
  | accept id offer sofar =>
      simp only [PeerAct.callback?] at told
      split at told
      next isFree =>
        obtain rfl := Option.some.inj told
        exact .opened id _ idle isFree (Channel.unused_accepted offer sofar)
      · exact absurd told (Option.some_ne_none _).symm
  | refuse id =>
      obtain rfl := Option.some.inj told
      exact .refused id idle
  | data id chunk =>
      obtain rfl := Option.some.inj told
      exact comes_of_data ready idle id chunk
  | eof id =>
      obtain rfl := Option.some.inj told
      exact .eof id idle
  | close id =>
      obtain rfl := Option.some.inj told
      exact .close id idle
  | request id request =>
      obtain rfl := Option.some.inj told
      exact comes_of_request ready idle id request

theorem comes_of_resume (ready : exchange.Ready) {underway : Underway}
    (isUnderway : exchange.underway = some underway) :
    exchange.Comes ⟨underway.callback, underway.made,
      (exchange.transport.resume underway.wait).1,
      (exchange.transport.resume underway.wait).2⟩ := by
  have inputs := ready.inputs
  have requests := ready.requests
  unfold inputWaits at inputs
  unfold requestWaits at requests
  rw [isUnderway] at inputs requests
  cases ready.fits underway isUnderway with
  | data id chunk place found =>
      obtain ⟨channel, there⟩ := Transport.exists_channel ready.placed found
      unfold Transport.resume
      dsimp only
      rw [Transport.onChannel_of_some there]
      have own : channel.input.box.blocked = [(Transport.sender, chunk)] :=
        (inputs place channel there).trans (if_pos rfl)
      refine .data id chunk place channel (channel.input.retry Transport.sender).1 _ found there
        (.inr isUnderway) ?_
      simp only [Inlet.retry, Inlet.notify_box]
      exact Mailbox.retry_sends own
  | request id request slot reply found wants =>
      obtain ⟨channel, there⟩ := Transport.exists_channel ready.placed found
      unfold Transport.resume
      dsimp only
      rw [Transport.onChannel_of_some there]
      have own : channel.requests.box.blocked =
          [(Transport.sender, request.toRequest reply)] :=
        (requests slot.place channel there).trans (if_pos rfl)
      refine .request id request slot channel (channel.requests.retry Transport.sender).1 reply _
        found there wants (.old isUnderway) (Mailbox.retry_sends own) rfl (Nat.le_refl _) ?_
      exact fun idle => absurd (isUnderway.symm.trans idle) (Option.some_ne_none _)
  | answer id request slot number found wants =>
      obtain ⟨channel, there⟩ := Transport.exists_channel ready.placed found
      unfold Transport.resume
      dsimp only
      rw [Transport.onChannel_of_some there]
      exact .answer id request slot channel number found there wants isUnderway

theorem comes_of_attempt (ready : exchange.Ready) {act : ExchangeAct} {attempt : Attempt}
    (attempted : exchange.attempt? act = some attempt) : exchange.Comes attempt := by
  cases act with
  | call act =>
      simp only [attempt?] at attempted
      split at attempted
      · exact absurd attempted (Option.some_ne_none _).symm
      next idle =>
        obtain ⟨callback, told, rfl⟩ := Option.map_eq_some_iff.1 attempted
        exact comes_of_call ready idle told
  | goOn =>
      obtain ⟨underway, isUnderway, rfl⟩ := Option.map_eq_some_iff.1 attempted
      exact comes_of_resume ready isUnderway
  | handler | take | answer => exact absurd attempted (Option.some_ne_none _).symm

/-- Something is done with a channel, and there is perhaps something else under way. -/
theorem Ready.set (ready : exchange.Ready) {place : Nat} {before after : Channel}
    (underway : Option Underway) (held : List (Nat × Request))
    (there : exchange.transport.channels[place]? = some before)
    (fits : ∀ underway', underway = some underway' → underway'.Fits exchange.transport)
    (isHeld : ∀ entry ∈ held, entry.1 < exchange.transport.channels.length) :
    let next : Exchange := ⟨exchange.transport.setChannel place after, underway, held⟩
    (∀ other ≠ place, exchange.inputWaits other = next.inputWaits other ∧
      exchange.requestWaits other = next.requestWaits other) →
    after.input.box.blocked = next.inputWaits place →
    after.requests.box.blocked = next.requestWaits place → next.Ready := by
  intro next elsewhere input requests
  have channels : ∀ other : Nat, (exchange.transport.setChannel place after).channels[other]? =
      if other = place then some after else exchange.transport.channels[other]? :=
    Transport.getElem?_setChannel there
  constructor
  case placed =>
    intro id slot found
    rw [Transport.length_setChannel]
    exact ready.placed id slot found
  case apart => exact ready.apart
  case held =>
    intro entry member
    rw [Transport.length_setChannel]
    exact isHeld entry member
  case fits => exact fun underway' isUnderway => (fits underway' isUnderway).of_slots fun _ => rfl
  case inputs =>
    intro other channel isThere
    rw [channels] at isThere
    split at isThere
    next same =>
      obtain rfl := Option.some.inj isThere
      exact same ▸ input
    next isOther =>
      rw [← (elsewhere other isOther).1]
      exact ready.inputs other channel isThere
  case requests =>
    intro other channel isThere
    rw [channels] at isThere
    split at isThere
    next same =>
      obtain rfl := Option.some.inj isThere
      exact same ▸ requests
    next isOther =>
      rw [← (elsewhere other isOther).2]
      exact ready.requests other channel isThere

theorem waits_of_idle (idle : exchange.underway = none) (place : Nat) :
    exchange.inputWaits place = [] ∧ exchange.requestWaits place = [] := by
  unfold inputWaits requestWaits
  rw [idle]
  exact ⟨rfl, rfl⟩

theorem waits_of_data {id place : Nat} {chunk : ByteArray} {made : Option (Nat × Request)}
    (waits : exchange.underway = some ⟨.data id chunk, made, .input place⟩) (other : Nat) :
    (exchange.inputWaits other =
        if place = other then [(Transport.sender, chunk)] else []) ∧
      exchange.requestWaits other = [] := by
  unfold inputWaits requestWaits
  rw [waits]
  exact ⟨rfl, rfl⟩

theorem waits_of_request {id place : Nat} {request : TypedRequest} {reply : Option Nat}
    {made : Option (Nat × Request)}
    (waits : exchange.underway = some ⟨.request id request, made, .requests place reply⟩)
    (other : Nat) :
    exchange.inputWaits other = [] ∧
      exchange.requestWaits other =
        if place = other then [(Transport.sender, request.toRequest reply)] else [] := by
  unfold inputWaits requestWaits
  rw [waits]
  exact ⟨rfl, rfl⟩

theorem waits_of_answer {id place number : Nat} {request : TypedRequest}
    {made : Option (Nat × Request)}
    (waits : exchange.underway = some ⟨.request id request, made, .answer place number⟩)
    (other : Nat) : exchange.inputWaits other = [] ∧ exchange.requestWaits other = [] := by
  unfold inputWaits requestWaits
  rw [waits]
  exact ⟨rfl, rfl⟩

/-- Elsewhere than at the place of a request nothing waits, and no chunk waits there. -/
theorem Origin.waits {id place : Nat} {request : TypedRequest} {channel : Channel}
    {reply : Option Nat} (origin : exchange.Origin id request place channel reply) (other : Nat) :
    exchange.inputWaits other = [] ∧ (other ≠ place → exchange.requestWaits other = []) := by
  cases origin with
  | new idle => exact ⟨(waits_of_idle idle other).1, fun _ => (waits_of_idle idle other).2⟩
  | old waits =>
      obtain ⟨input, requests⟩ := waits_of_request waits other
      exact ⟨input, fun isOther => requests.trans (if_neg (Ne.symm isOther))⟩

theorem Ready.givesUp (ready : exchange.Ready) (idle : exchange.underway = none)
    {transport : Transport} {id : Nat} (givesUp : exchange.transport.GivesUp transport id) :
    Ready { exchange with transport, underway := none } := by
  have waits := fun place => waits_of_idle idle place
  constructor
  case placed => exact Transport.placed_givesUp ready.placed givesUp
  case apart =>
    -- the slot of the identifier may have changed, but not its place
    have wasAt : ∀ (other : Nat) (slot : Slot), transport.slot? other = some slot →
        ∃ was, exchange.transport.slot? other = some was ∧ was.place = slot.place := by
      intro other slot found
      by_cases same : other = id
      · exact same ▸ givesUp.place slot (same ▸ found)
      · exact ⟨slot, (givesUp.slots other same).symm.trans found, rfl⟩
    intro first second slot other found otherFound samePlace
    obtain ⟨was, isWas, place⟩ := wasAt first slot found
    obtain ⟨otherWas, isOtherWas, otherPlace⟩ := wasAt second other otherFound
    exact ready.apart first second was otherWas isWas isOtherWas
      (place.trans (samePlace.trans otherPlace.symm))
  case held =>
    intro entry member
    show entry.1 < transport.channels.length
    rw [givesUp.length]
    exact ready.held entry member
  case fits => exact fun _ absent => absurd absent (Option.some_ne_none _).symm
  case inputs =>
    intro place channel there
    obtain ⟨was, isWas, same⟩ := givesUp.content place channel there
    exact same.inputBlocked.trans ((ready.inputs place was isWas).trans (waits place).1)
  case requests =>
    intro place channel there
    obtain ⟨was, isWas, same⟩ := givesUp.content place channel there
    exact same.blocked.trans ((ready.requests place was isWas).trans (waits place).2)

theorem Ready.opened (ready : exchange.Ready) (idle : exchange.underway = none) (id : Nat)
    {channel : Channel} (unused : channel.Unused) :
    Ready { exchange with
      transport := exchange.transport.opened id channel, underway := none } := by
  have waits := fun place => waits_of_idle idle place
  have length : (exchange.transport.opened id channel).channels.length =
      exchange.transport.channels.length + 1 := List.length_append
  have slots := fun other => exchange.transport.slot?_opened id other channel
  have channels : ∀ (place : Nat) (other : Channel),
      (exchange.transport.opened id channel).channels[place]? = some other →
      exchange.transport.channels[place]? = some other ∨ other = channel := by
    intro place other there
    rw [Transport.getElem?_opened] at there
    split at there
    · exact .inr (Option.some.inj there).symm
    · exact .inl there
  constructor
  case placed =>
    intro other slot found
    rw [length]
    rw [slots] at found
    split at found
    · obtain rfl := Option.some.inj found
      exact Nat.lt_succ_self _
    · exact Nat.lt_succ_of_lt (ready.placed other slot found)
  case apart =>
    intro first second slot other found otherFound samePlace
    rw [slots] at found otherFound
    split at found
    next isFirst =>
      obtain rfl := Option.some.inj found
      split at otherFound
      next isSecond => exact isFirst.trans isSecond.symm
      · exact absurd samePlace (Nat.ne_of_gt (ready.placed second other otherFound))
    · split at otherFound
      · obtain rfl := Option.some.inj otherFound
        exact absurd samePlace (Nat.ne_of_lt (ready.placed first slot found))
      · exact ready.apart first second slot other found otherFound samePlace
  case held =>
    intro entry member
    show entry.1 < (exchange.transport.opened id channel).channels.length
    rw [length]
    exact Nat.lt_succ_of_lt (ready.held entry member)
  case fits => exact fun _ absent => absurd absent (Option.some_ne_none _).symm
  case inputs =>
    intro place other there
    rcases channels place other there with old | rfl
    · exact (ready.inputs place other old).trans (waits place).1
    · exact unused.input
  case requests =>
    intro place other there
    rcases channels place other there with old | rfl
    · exact (ready.requests place other old).trans (waits place).2
    · exact unused.blocked

/-- To look for an answer leaves it open, or comes to the end of its callback. -/
theorem collect_cases (channel : Channel) (place number : Nat) :
    Transport.collect channel place number = (channel, .waits (.answer place number)) ∨
      ∃ verdict, channel.requests.answers.lookup number = some verdict ∧
        Transport.collect channel place number =
          ({ channel with
              requests := { channel.requests with
                answers := channel.requests.answers.filter fun entry => entry.1 != number } },
            .finished (some verdict)) := by
  unfold Transport.collect RequestStream.collect?
  cases found : channel.requests.answers.lookup number with
  | none => exact .inl rfl
  | some verdict => exact .inr ⟨verdict, rfl, rfl⟩

/-- To look for an answer changes nothing but the answers that are there. -/
theorem exists_collect (channel : Channel) (place number : Nat) :
    ∃ answers, (Transport.collect channel place number).1 =
      { channel with requests := { channel.requests with answers } } := by
  rcases collect_cases channel place number with isOpen | ⟨verdict, -, isOver⟩
  · exact ⟨channel.requests.answers, by rw [isOpen]⟩
  · exact ⟨_, by rw [isOver]⟩

theorem exists_afterRequest (channel : Channel) (place : Nat) (reply : Option Nat)
    (sent : Mailbox.Sent) :
    ∃ answers, (Transport.afterRequest channel place reply sent).1 =
      { channel with requests := { channel.requests with answers } } := by
  cases sent with
  | waiting | refused => exact ⟨channel.requests.answers, rfl⟩
  | queued =>
      cases reply with
      | none => exact ⟨channel.requests.answers, rfl⟩
      | some number => exact exists_collect channel place number

/-- A request that has been queued leaves nothing that waits for room. -/
theorem Ready.collect (ready : exchange.Ready) {id : Nat} {request : TypedRequest} {slot : Slot}
    {before channel : Channel} (number : Nat) (found : exchange.transport.slot? id = some slot)
    (there : exchange.transport.channels[slot.place]? = some before)
    (wants : request.wantsReply = true)
    (elsewhere : ∀ other ≠ slot.place,
      exchange.inputWaits other = [] ∧ exchange.requestWaits other = [])
    (input : channel.input.box.blocked = []) (requests : channel.requests.box.blocked = []) :
    (exchange.after ⟨.request id request, some (slot.place, request.toRequest (some number)),
      exchange.transport.setChannel slot.place
        (Transport.collect channel slot.place number).1,
      (Transport.collect channel slot.place number).2⟩).Ready := by
  rcases collect_cases channel slot.place number with isOpen | ⟨verdict, -, isOver⟩
  · rw [isOpen]
    refine ready.set (some ⟨_, _, .answer slot.place number⟩) exchange.held there ?_ ready.held
      elsewhere input requests
    rintro _ ⟨⟩
    exact .answer id request slot number found wants
  · rw [isOver]
    exact ready.set none exchange.held there
      (fun _ absent => absurd absent (Option.some_ne_none _).symm) ready.held elsewhere input
      requests

theorem Ready.after (ready : exchange.Ready) {attempt : Attempt}
    (comes : exchange.Comes attempt) : (exchange.after attempt).Ready := by
  have nothing : ∀ underway : Underway, none = some underway → underway.Fits exchange.transport :=
    fun _ absent => absurd absent (Option.some_ne_none _).symm
  cases comes with
  | opened id channel idle isFree unused => exact ready.opened idle id unused
  | refused id idle | dropped id chunk idle | unknown id request idle =>
      exact ready.givesUp idle (.refl exchange.transport 0)
  | eof id idle => exact ready.givesUp idle (Transport.endInput_givesUp ready.placed id)
  | close id idle => exact ready.givesUp idle (Transport.closed_givesUp ready.placed id).1
  | data id chunk place channel input sent found there origin sends =>
      have waits : ∀ other, exchange.requestWaits other = [] ∧
          (other ≠ place → exchange.inputWaits other = []) := by
        intro other
        rcases origin with idle | waits
        · exact ⟨(waits_of_idle idle other).2, fun _ => (waits_of_idle idle other).1⟩
        · obtain ⟨input, requests⟩ := waits_of_data waits other
          exact ⟨requests, fun isOther => input.trans (if_neg (Ne.symm isOther))⟩
      have requests : channel.requests.box.blocked = [] :=
        (ready.requests place channel there).trans (waits place).1
      cases sends with
      | refused _ _ _ nobody | queued _ _ _ nobody =>
          exact ready.set none exchange.held there nothing ready.held
            (fun other isOther => ⟨(waits other).2 isOther, (waits other).1⟩) nobody requests
      | waits _ _ _ _ blocked =>
          refine ready.set (some ⟨.data id chunk, none, .input place⟩) exchange.held there ?_
            ready.held (fun other isOther => ?_) (blocked.trans (if_pos rfl).symm) requests
          · rintro _ ⟨⟩
            exact .data id chunk place found
          · exact ⟨((waits other).2 isOther).trans (if_neg (Ne.symm isOther)).symm,
              (waits other).1⟩
  | request id request slot channel requests reply sent found there wants origin sends =>
      have input : channel.input.box.blocked = [] :=
        (ready.inputs slot.place channel there).trans (origin.waits slot.place).1
      have elsewhere : ∀ other ≠ slot.place,
          exchange.inputWaits other = [] ∧ exchange.requestWaits other = [] :=
        fun other isOther => ⟨(origin.waits other).1, (origin.waits other).2 isOther⟩
      cases sends with
      | refused _ _ _ nobody =>
          exact ready.set none exchange.held there nothing ready.held elsewhere input nobody
      | queued _ _ _ nobody =>
          cases reply with
          | none =>
              exact ready.set none exchange.held there nothing ready.held elsewhere input nobody
          | some number => exact ready.collect number found there wants.symm elsewhere input nobody
      | waits _ _ _ _ blocked =>
          refine ready.set (some ⟨.request id request, _, .requests slot.place reply⟩) exchange.held
            there ?_ ready.held (fun other isOther => ?_) input (blocked.trans (if_pos rfl).symm)
          · rintro _ ⟨⟩
            exact .request id request slot reply found wants
          · exact ⟨(elsewhere other isOther).1,
              (elsewhere other isOther).2.trans (if_neg (Ne.symm isOther)).symm⟩
  | answer id request slot channel number found there wants isUnderway =>
      have waits := waits_of_answer isUnderway
      exact ready.collect number found there wants (fun other _ => waits other)
        ((ready.inputs slot.place channel there).trans (waits slot.place).1)
        ((ready.requests slot.place channel there).trans (waits slot.place).2)

/-! ### Steps -/

/-- What an operation can do: an attempt of the transport is made, or nothing happens, or a handler
acts. -/
inductive Moves (exchange : Exchange) : ExchangeAct → Exchange → Prop where
  | attempt {act : ExchangeAct} {attempt : Attempt}
      (attempted : exchange.attempt? act = some attempt) (comes : exchange.Comes attempt) :
      Moves exchange act (exchange.after attempt)
  | stays {act : ExchangeAct} (noAttempt : exchange.attempt? act = none)
      (noVerdict : exchange.verdictBy act = []) : Moves exchange act exchange
  | handler (act : HandlerAct) {place : Nat} {channel : Channel}
      (there : exchange.transport.channels[place]? = some channel) :
      Moves exchange (.handler place act)
        { exchange with
          transport := exchange.transport.setChannel place (channel.stepOfHandler act) }
  | take {place : Nat} {channel : Channel} {request : Request} {requests : RequestStream}
      (there : exchange.transport.channels[place]? = some channel)
      (taken : channel.requests.take? = some (request, requests)) :
      Moves exchange (.take place)
        { exchange with
          transport := exchange.transport.setChannel place { channel with requests }
          held := exchange.held ++ [(place, request)] }
  | answer (verdict : Option Bool) {index place : Nat} {request : Request} {channel : Channel}
      (isHeld : exchange.held[index]? = some (place, request))
      (there : exchange.transport.channels[place]? = some channel) :
      Moves exchange (.answer index verdict)
        { exchange with
          transport := exchange.transport.setChannel place
            { channel with requests := channel.requests.settle request verdict }
          held := exchange.held.eraseIdx index }

theorem Ready.moves_of_attempt (ready : exchange.Ready) {act : ExchangeAct}
    (becomes : exchange.step act =
      ((exchange.attempt? act).map exchange.after).getD exchange)
    (noVerdict : exchange.verdictBy act = []) : exchange.Moves act (exchange.step act) := by
  rw [becomes]
  cases attempted : exchange.attempt? act with
  | none => exact .stays attempted noVerdict
  | some attempt => exact .attempt attempted (comes_of_attempt ready attempted)

theorem Ready.moves (ready : exchange.Ready) (act : ExchangeAct) :
    exchange.Moves act (exchange.step act) := by
  cases act with
  | call | goOn => exact ready.moves_of_attempt rfl rfl
  | handler place act =>
      cases there : exchange.transport.channels[place]? with
      | none =>
          simp only [Exchange.step, Transport.onChannel_of_none there]
          exact .stays rfl rfl
      | some channel =>
          simp only [Exchange.step, Transport.onChannel_of_some there]
          exact .handler act there
  | take place =>
      cases there : exchange.transport.channels[place]? with
      | none =>
          simp only [Exchange.step, Transport.onChannel_of_none there, Option.map_none,
            Option.toList_none, List.append_nil]
          exact .stays rfl rfl
      | some channel =>
          cases taken : channel.requests.take? with
          | none =>
              have same : exchange.transport.setChannel place channel = exchange.transport := by
                obtain ⟨inRange, isThere⟩ := List.getElem?_eq_some_iff.1 there
                rw [Transport.setChannel, ← isThere, List.set_getElem_self]
              simp only [Exchange.step, Transport.onChannel_of_some there, taken, Option.map_none,
                Option.toList_none, List.append_nil, same]
              exact .stays rfl rfl
          | some pair =>
              simp only [Exchange.step, Transport.onChannel_of_some there, taken, Option.map_some,
                Option.toList_some]
              exact .take there taken
  | answer index verdict =>
      cases isHeld : exchange.held[index]? with
      | none =>
          simp only [Exchange.step, isHeld]
          refine .stays rfl ?_
          simp only [verdictBy, isHeld]
      | some entry =>
          have there := List.getElem?_eq_getElem (ready.held entry (List.mem_of_getElem? isHeld))
          simp only [Exchange.step, isHeld, Transport.onChannel_of_some there]
          exact .answer verdict isHeld there

/-- What a handler does leaves everything as it was as far as the transport is concerned. -/
theorem Ready.handled (ready : exchange.Ready) {place : Nat} {before after : Channel}
    {held : List (Nat × Request)} (there : exchange.transport.channels[place]? = some before)
    (isHeld : ∀ entry ∈ held, entry.1 < exchange.transport.channels.length)
    (input : after.input.box.blocked = before.input.box.blocked)
    (requests : after.requests.box.blocked = before.requests.box.blocked) :
    Ready ⟨exchange.transport.setChannel place after, exchange.underway, held⟩ :=
  ready.set exchange.underway held there ready.fits isHeld (fun _ _ => ⟨rfl, rfl⟩)
    (input.trans (ready.inputs place before there))
    (requests.trans (ready.requests place before there))

theorem Ready.next (ready : exchange.Ready) {act : ExchangeAct} {next : Exchange}
    (moves : exchange.Moves act next) : next.Ready := by
  cases moves with
  | attempt _ comes => exact ready.after comes
  | stays => exact ready
  | @handler act place channel there =>
      have effect := channel.stepOfHandler_effect act
      refine ready.handled there ready.held effect.input.blocked ?_
      rcases effect.requests with unchanged | leaves
      · rw [unchanged]
      · rw [leaves]
        rfl
  | @take place channel request requests there taken =>
      refine ready.handled there ?_ rfl (RequestStream.take_blocked taken)
      exact List.forall_mem_append.2 ⟨ready.held,
        List.forall_mem_singleton.2 (List.getElem?_eq_some_iff.1 there).1⟩
  | @answer verdict index place request channel _ there =>
      refine ready.handled there
        (fun entry member => ready.held entry (List.mem_of_mem_eraseIdx member)) rfl ?_
      show (channel.requests.settle request verdict).box.blocked = _
      rw [RequestStream.box_settle]

theorem ready_start : Ready {} where
  placed _ _ found := absurd found (Option.some_ne_none _).symm
  apart _ _ _ _ found := absurd found (Option.some_ne_none _).symm
  held _ member := absurd member List.not_mem_nil
  fits _ isUnderway := absurd isUnderway (Option.some_ne_none _).symm
  inputs _ _ there := absurd there (Option.some_ne_none _).symm
  requests _ _ there := absurd there (Option.some_ne_none _).symm

end Exchange

end SshServer
