import Mathlib.Data.List.Nodup
import SshServer.Proofs.Transport.Owing
import SshServer.Proofs.Transport.Slots

/-!
Contract: what the peer is told of a request is the answer of the handler that the request was made
of.

Owns: the record of the requests that were made and of the answers that were given; that each
attempt, and whatever a handler does, leaves the channels owing the answer that is awaited and
nothing else; and that each request that was made is settled once.
Does not own: what a channel owes (`Proofs.Transport.Owing`), the slots (`Proofs.Transport.Slots`),
and what a handler answers (`Proofs.Session.Requests`).

Two requests on a channel never have the same number, which is what tells an answer from that to any
other request.
-/

namespace SshServer

namespace Transport

/-- Numbers were given out, and no channel has gone. -/
def Later (before after : Transport) : Prop :=
  ∀ (place : Nat) (channel : Channel), before.channels[place]? = some channel →
    ∃ now, after.channels[place]? = some now ∧
      channel.requests.nextReply ≤ now.requests.nextReply

/-- A request has a number that no later request on its channel gets. -/
def Numbered (transport : Transport) (made : Nat × Request) : Prop :=
  ∃ number channel, made.2.reply = some number ∧ transport.channels[made.1]? = some channel ∧
    number < channel.requests.nextReply

theorem Numbered.of_later {before after : Transport} {made : Nat × Request}
    (numbered : before.Numbered made) (later : before.Later after) : after.Numbered made := by
  obtain ⟨number, channel, reply, there, below⟩ := numbered
  obtain ⟨now, isNow, more⟩ := later made.1 channel there
  exact ⟨number, now, reply, isNow, Nat.lt_of_lt_of_le below more⟩

theorem Later.refl (transport : Transport) : Later transport transport :=
  fun _ channel there => ⟨channel, there, Nat.le_refl _⟩

theorem later_set {transport : Transport} {place : Nat} {before after : Channel}
    (there : transport.channels[place]? = some before)
    (more : before.requests.nextReply ≤ after.requests.nextReply) :
    transport.Later (transport.setChannel place after) := by
  intro other channel isThere
  rw [getElem?_setChannel there]
  by_cases same : other = place
  · subst same
    obtain rfl := Option.some.inj (isThere.symm.trans there)
    exact ⟨after, if_pos rfl, more⟩
  · exact ⟨channel, (if_neg same).trans isThere, Nat.le_refl _⟩

theorem later_opened (transport : Transport) (id : Nat) (channel : Channel) :
    transport.Later (transport.opened id channel) := by
  intro place other there
  refine ⟨other, ?_, Nat.le_refl _⟩
  rw [getElem?_opened, if_neg (Nat.ne_of_lt (List.getElem?_eq_some_iff.1 there).1)]
  exact there

theorem later_givesUp {before after : Transport} {id : Nat} (givesUp : before.GivesUp after id) :
    before.Later after := by
  intro place channel there
  have inRange : place < after.channels.length := by
    rw [givesUp.length]
    exact (List.getElem?_eq_some_iff.1 there).1
  have isNow := List.getElem?_eq_getElem inRange
  obtain ⟨was, isWas, same⟩ := givesUp.content place _ isNow
  obtain rfl := Option.some.inj (isWas.symm.trans there)
  exact ⟨_, isNow, Nat.le_of_eq same.nextReply.symm⟩

end Transport

/-! ### Requests that were made -/

namespace Exchange

/-- The request on the channel at a place whose answer the callback under way waits for. -/
def awaited (exchange : Exchange) (place : Nat) : Option Request :=
  match exchange.underway with
  | some ⟨_, some (own, request), .answer _ _⟩ => if own = place then some request else none
  | _ => none

/-- The requests that were made, with that of the callback under way. -/
def madeIn (exchange : Exchange) (ended : List Call) : List (Nat × Request) :=
  ended.filterMap Call.made ++ (exchange.underway.bind Underway.made).toList

/-- Each request that was made is settled once its callback is over, and each answer is the only one
to a request that was made. -/
structure Recorded (exchange : Exchange) (ended : List Call) (verdicts : Verdicts) : Prop where
  once : (exchange.madeIn ended).Nodup
  numbered : ∀ made ∈ exchange.madeIn ended, exchange.transport.Numbered made
  judged : ∀ entry ∈ verdicts, (entry.1, entry.2.1) ∈ exchange.madeIn ended
  judgedOnce : (verdicts.map fun entry => (entry.1, entry.2.1)).Nodup
  unqueued : ∀ underway, exchange.underway = some underway →
    (∃ place reply, underway.wait = .requests place reply) →
    ∀ place request verdict, underway.made = some (place, request) →
      (place, request, verdict) ∉ verdicts
  settled : ∀ call ∈ ended, ∀ place request, call.made = some (place, request) →
    ∃ told, call.told = some told ∧ Settled verdicts place request told call.served

/-- What the channels owe their transport is the answer to the request that is awaited. -/
structure Settles (exchange : Exchange) (ended : List Call) (verdicts : Verdicts) : Prop where
  owing : exchange.transport.Owing exchange.held verdicts exchange.awaited
  recorded : exchange.Recorded ended verdicts

variable {exchange : Exchange} {ended : List Call} {verdicts : Verdicts}

theorem madeIn_after (ended : List Call) (attempt : Attempt) :
    (exchange.after attempt).madeIn (ended ++ exchange.callOf attempt) =
      ended.filterMap Call.made ++ attempt.made.toList := by
  unfold madeIn after
  rcases exchange.callOf_cases attempt with ⟨isOpen, wait, waits⟩ | ⟨call, isOver, -, made, told⟩
  · rw [isOpen, List.append_nil, waits]
    rfl
  · rw [isOver, told, List.filterMap_append, History.filterMap_singleton, made]
    exact List.append_nil _

/-- An attempt is made for the request under way, or for one with the next number. -/
theorem Comes.made_cases {attempt : Attempt} (comes : exchange.Comes attempt) :
    attempt.made = exchange.underway.bind Underway.made ∨
      exchange.underway = none ∧ ∃ place request channel, attempt.made = some (place, request) ∧
        exchange.transport.channels[place]? = some channel ∧
        request.reply = some channel.requests.nextReply ∧
        attempt.transport.Numbered (place, request) := by
  cases comes with
  | opened _ _ idle | refused _ idle | eof _ idle | close _ idle | dropped _ _ idle
  | unknown _ _ idle =>
      left
      rw [idle]
      rfl
  | data _ _ _ _ _ _ _ _ origin =>
      left
      rcases origin with idle | waits
      · rw [idle]
        rfl
      · rw [waits]
        rfl
  | answer _ _ _ _ _ _ _ _ waits =>
      left
      rw [waits]
      rfl
  | request id request slot channel requests reply sent found there wants origin sends answers
      later numbered =>
      cases origin with
      | old waits =>
          left
          rw [waits]
          rfl
      | new idle isNext =>
          cases reply with
          | none =>
              left
              rw [idle]
              rfl
          | some number =>
              right
              have same : number = channel.requests.nextReply := by
                cases wantsReply : request.wantsReply with
                | true =>
                    rw [wantsReply] at isNext
                    exact Option.some.inj isNext
                | false =>
                    rw [wantsReply] at isNext
                    exact absurd isNext (Option.some_ne_none _)
              obtain ⟨left, becomes⟩ :=
                exists_afterRequest { channel with requests } slot.place (some number) sent
              refine ⟨idle, slot.place, request.toRequest (some number), channel, rfl, there,
                congrArg some same, number,
                { channel with requests := { requests with answers := left } }, rfl, ?_, ?_⟩
              · rw [becomes]
                exact (Transport.getElem?_setChannel there slot.place).trans (if_pos rfl)
              · exact numbered idle number rfl

theorem Comes.later (ready : exchange.Ready) {attempt : Attempt} (comes : exchange.Comes attempt) :
    exchange.transport.Later attempt.transport := by
  cases comes with
  | refused | dropped | unknown => exact .refl exchange.transport
  | opened id channel => exact Transport.later_opened exchange.transport id channel
  | eof id => exact Transport.later_givesUp (Transport.endInput_givesUp ready.placed id)
  | close id => exact Transport.later_givesUp (Transport.closed_givesUp ready.placed id).1
  | data id chunk place channel input sent found there =>
      exact Transport.later_set there (Nat.le_refl _)
  | request id request slot channel requests reply sent found there wants origin sends answers
      later =>
      obtain ⟨left, becomes⟩ := exists_afterRequest { channel with requests } slot.place reply sent
      rw [becomes]
      exact Transport.later_set there later
  | answer id request slot channel number found there =>
      obtain ⟨left, becomes⟩ := exists_collect channel slot.place number
      rw [becomes]
      exact Transport.later_set there (Nat.le_refl _)

/-- A request with the next number is none that was made before. -/
theorem Recorded.fresh (recorded : exchange.Recorded ended verdicts) {place : Nat}
    {request : Request} {channel : Channel}
    (there : exchange.transport.channels[place]? = some channel)
    (isNext : request.reply = some channel.requests.nextReply) :
    (place, request) ∉ exchange.madeIn ended := by
  intro member
  obtain ⟨number, other, reply, isThere, below⟩ := recorded.numbered _ member
  obtain rfl := Option.some.inj (there.symm.trans isThere)
  obtain rfl := Option.some.inj (isNext.symm.trans reply)
  exact Nat.lt_irrefl _ below

/-- What is still to be said of the request that an attempt is made for. -/
theorem Recorded.after (recorded : exchange.Recorded ended verdicts) {attempt : Attempt}
    (ready : exchange.Ready) (comes : exchange.Comes attempt)
    (unqueued : ∀ own reply, attempt.status = .waits (.requests own reply) →
      ∀ place request verdict, attempt.made = some (place, request) →
        (place, request, verdict) ∉ verdicts)
    (settled : ∀ call, exchange.callOf attempt = [call] →
      ∀ place request, call.made = some (place, request) →
        ∃ told, call.told = some told ∧ Settled verdicts place request told call.served) :
    (exchange.after attempt).Recorded (ended ++ exchange.callOf attempt) verdicts := by
  have later := comes.later ready
  have kept : ∀ made ∈ exchange.madeIn ended, attempt.transport.Numbered made :=
    fun made member => (recorded.numbered made member).of_later later
  -- nothing more was made, or one request with the next number
  have isMade : (exchange.after attempt).madeIn (ended ++ exchange.callOf attempt) =
        exchange.madeIn ended ∨
      ∃ made, (exchange.after attempt).madeIn (ended ++ exchange.callOf attempt) =
          exchange.madeIn ended ++ [made] ∧
        made ∉ exchange.madeIn ended ∧ attempt.transport.Numbered made := by
    rw [madeIn_after]
    rcases comes.made_cases with same | ⟨idle, place, request, channel, isNew, there, isNext, isNow⟩
    · left
      rw [same]
      rfl
    · right
      refine ⟨(place, request), ?_, recorded.fresh there isNext, isNow⟩
      unfold madeIn
      rw [isNew, idle, Option.bind_none, Option.toList_none, List.append_nil, Option.toList_some]
  constructor
  case once =>
    rcases isMade with same | ⟨made, more, isNew, -⟩
    · rw [same]
      exact recorded.once
    · rw [more, ← List.concat_eq_append]
      exact List.Nodup.concat isNew recorded.once
  case numbered =>
    rcases isMade with same | ⟨made, more, -, isNow⟩
    · rw [same]
      exact kept
    · rw [more]
      exact List.forall_mem_append.2 ⟨kept, List.forall_mem_singleton.2 isNow⟩
  case judged =>
    intro entry member
    have before := recorded.judged entry member
    rcases isMade with same | ⟨made, more, -⟩
    · rw [same]
      exact before
    · rw [more]
      exact List.mem_append_left _ before
  case judgedOnce => exact recorded.judgedOnce
  case unqueued =>
    intro underway isUnderway ⟨own, reply, isWait⟩ place request verdict made
    cases status : attempt.status with
    | finished told =>
        simp only [Exchange.after, status, CallbackStatus.wait?, Option.map_none] at isUnderway
        exact absurd isUnderway (Option.some_ne_none _).symm
    | waits wait =>
        simp only [Exchange.after, status, CallbackStatus.wait?, Option.map_some] at isUnderway
        obtain rfl := Option.some.inj isUnderway
        dsimp only at isWait
        rw [isWait] at status
        exact unqueued own reply status place request verdict made
  case settled =>
    refine List.forall_mem_append.2 ⟨recorded.settled, ?_⟩
    rcases exchange.callOf_cases attempt with ⟨isOpen, -⟩ | ⟨call, isOver, -⟩
    · rw [isOpen]
      exact fun _ member => absurd member List.not_mem_nil
    · rw [isOver]
      exact List.forall_mem_singleton.2 (settled call isOver)

/-- An attempt that is for no request adds nothing. -/
theorem Recorded.after_of_unmade (recorded : exchange.Recorded ended verdicts) {attempt : Attempt}
    (ready : exchange.Ready) (comes : exchange.Comes attempt) (unmade : attempt.made = none) :
    (exchange.after attempt).Recorded (ended ++ exchange.callOf attempt) verdicts := by
  refine recorded.after ready comes (fun _ _ _ place request verdict made => ?_)
    fun call isOver place request made => ?_
  · exact absurd (made.symm.trans unmade) (Option.some_ne_none _)
  · rcases exchange.callOf_cases attempt with ⟨isOpen, -⟩ | ⟨isCall, onlyCall, -, isMade, -⟩
    · exact absurd (isOpen.symm.trans isOver).symm (List.cons_ne_nil _ _)
    · obtain rfl := (List.cons.inj (onlyCall.symm.trans isOver)).1
      exact absurd (made.symm.trans (isMade.trans unmade)) (Option.some_ne_none _)

/-! ### The answer that is awaited -/

theorem awaited_of_idle (idle : exchange.underway = none) (place : Nat) :
    exchange.awaited place = none := by
  unfold awaited
  rw [idle]

theorem awaited_of_input {callback : Callback} {made : Option (Nat × Request)} {own : Nat}
    (waits : exchange.underway = some ⟨callback, made, .input own⟩) (place : Nat) :
    exchange.awaited place = none := by
  unfold awaited
  rw [waits]
  cases made <;> rfl

theorem awaited_of_requests {callback : Callback} {made : Option (Nat × Request)} {own : Nat}
    {reply : Option Nat} (waits : exchange.underway = some ⟨callback, made, .requests own reply⟩)
    (place : Nat) : exchange.awaited place = none := by
  unfold awaited
  rw [waits]
  cases made <;> rfl

theorem awaited_of_answer {callback : Callback} {own waiting number : Nat} {request : Request}
    (waits : exchange.underway = some ⟨callback, some (own, request), .answer waiting number⟩)
    (place : Nat) : exchange.awaited place = if own = place then some request else none := by
  unfold awaited
  rw [waits]

theorem Origin.awaited {id own : Nat} {request : TypedRequest} {channel : Channel}
    {reply : Option Nat} (origin : exchange.Origin id request own channel reply) (place : Nat) :
    exchange.awaited place = none := by
  cases origin with
  | new idle => exact awaited_of_idle idle place
  | old waits => exact awaited_of_requests waits place

/-- Nobody has answered a request that is not queued yet. -/
theorem Recorded.unanswered (recorded : exchange.Recorded ended verdicts) {id place : Nat}
    {request : TypedRequest} {channel : Channel} {number : Nat}
    (there : exchange.transport.channels[place]? = some channel)
    (wants : request.wantsReply = true)
    (origin : exchange.Origin id request place channel (some number)) (verdict : Bool) :
    (place, request.toRequest (some number), verdict) ∉ verdicts := by
  cases origin with
  | new idle isNext =>
      intro member
      rw [wants] at isNext
      exact recorded.fresh there isNext (recorded.judged _ member)
  | old waits => exact recorded.unqueued _ waits ⟨place, _, rfl⟩ place _ verdict rfl

/-- Where nothing is awaited, a channel with the same content owes nothing either. -/
theorem Settles.of_content (settles : exchange.Settles ended verdicts) {place : Nat}
    (unawaited : exchange.awaited place = none) {before channel : Channel}
    (there : exchange.transport.channels[place]? = some before)
    (same : before.SameContent channel) :
    channel.requests.Owes verdicts place (heldAt exchange.held place) none := by
  have owes := settles.owing place before there
  rw [unawaited] at owes
  refine owes.of_perm ?_ same.answers same.attached
  rw [same.items]

theorem Settles.givesUp (settles : exchange.Settles ended verdicts) (ready : exchange.Ready)
    {callback : Callback} {transport : Transport} {told : Option Bool} {id : Nat}
    (idle : exchange.underway = none)
    (comes : exchange.Comes ⟨callback, none, transport, .finished told⟩)
    (givesUp : exchange.transport.GivesUp transport id) :
    (exchange.after ⟨callback, none, transport, .finished told⟩).Settles
      (ended ++ exchange.callOf ⟨callback, none, transport, .finished told⟩) verdicts where
  owing place channel there := by
    obtain ⟨was, isWas, same⟩ := givesUp.content place channel there
    exact settles.of_content (awaited_of_idle idle place) isWas same
  recorded := settles.recorded.after_of_unmade ready comes rfl

theorem Settles.opened (settles : exchange.Settles ended verdicts) (ready : exchange.Ready)
    (idle : exchange.underway = none) {id : Nat} {channel : Channel} (unused : channel.Unused) :
    let attempt : Attempt :=
      ⟨.opened id channel, none, exchange.transport.opened id channel, .finished none⟩
    exchange.Comes attempt →
    (exchange.after attempt).Settles (ended ++ exchange.callOf attempt) verdicts := by
  intro attempt comes
  refine ⟨fun place other there => ?_, settles.recorded.after_of_unmade ready comes rfl⟩
  have isThere := (exchange.transport.getElem?_opened id place channel).symm.trans there
  split at isThere
  next isNew =>
    obtain rfl := Option.some.inj isThere
    have noneHeld : heldAt exchange.held place = [] := by
      refine List.map_eq_nil_iff.2 (List.filter_eq_nil_iff.2 fun entry member => ?_)
      rw [beq_iff_eq, isNew]
      exact Nat.ne_of_lt (ready.held entry member)
    refine .nothing ?_ unused.answers
    show asking (_ ++ heldAt exchange.held place) = []
    rw [unused.items, noneHeld]
    rfl
  · exact settles.of_content (awaited_of_idle idle place) isThere (.refl other)

theorem Settles.data (settles : exchange.Settles ended verdicts) (ready : exchange.Ready)
    {id place : Nat} {chunk : ByteArray} {channel : Channel} {input : Inlet} {sent : Mailbox.Sent}
    (there : exchange.transport.channels[place]? = some channel)
    (origin : exchange.underway = none ∨
      exchange.underway = some ⟨.data id chunk, none, .input place⟩) :
    let attempt : Attempt := ⟨.data id chunk, none,
      exchange.transport.setChannel place { channel with input }, Transport.afterChunk place sent⟩
    exchange.Comes attempt →
    (exchange.after attempt).Settles (ended ++ exchange.callOf attempt) verdicts := by
  intro attempt comes
  have before : ∀ other, exchange.awaited other = none := by
    rcases origin with idle | waits
    · exact awaited_of_idle idle
    · exact awaited_of_input waits
  have now : ∀ other, (exchange.after attempt).awaited other = none := by
    cases sent with
    | waiting => exact awaited_of_input rfl
    | queued | refused => exact awaited_of_idle rfl
  refine ⟨settles.owing.set there ?_ fun other _ channel' owes => ?_,
    settles.recorded.after_of_unmade ready comes rfl⟩
  · rw [now, ← before place]
    exact settles.owing place channel there
  · rw [now, ← before other]
    exact owes

/-- A request that wants no answer, or is refused or waits for room, leaves what is owed. -/
theorem Settles.unqueued (settles : exchange.Settles ended verdicts) {place : Nat}
    {channel after : Channel} {next : Exchange}
    (there : exchange.transport.channels[place]? = some channel)
    (before : ∀ other, exchange.awaited other = none)
    (now : ∀ other, next.awaited other = none) (held : next.held = exchange.held)
    (transport : next.transport = exchange.transport.setChannel place after)
    (isAsked : asking after.requests.box.items.toList =
      asking channel.requests.box.items.toList)
    (answers : after.requests.answers = channel.requests.answers)
    (attached : after.requests.box.attached = channel.requests.box.attached) :
    next.transport.Owing next.held verdicts next.awaited := by
  rw [held, transport]
  refine settles.owing.set there ?_ fun other _ channel' owes => ?_
  · rw [now, ← before place]
    refine (settles.owing place channel there).of_perm ?_ answers attached
    rw [asking_append, asking_append, isAsked]
  · rw [now, ← before other]
    exact owes

/-- A request that has just been queued is the one that is owed from then on. -/
theorem Settles.queued (settles : exchange.Settles ended verdicts) (ready : exchange.Ready)
    {callback : Callback} {place number : Nat} {request : Request} {channel : Channel}
    {requests : RequestStream} (there : exchange.transport.channels[place]? = some channel)
    (before : ∀ other, exchange.awaited other = none)
    (items : requests.box.items = channel.requests.box.items.push request)
    (reply : request.reply = some number)
    (noAnswer : requests.answers = [])
    (unanswered : ∀ verdict, (place, request, verdict) ∉ verdicts) :
    let attempt : Attempt := ⟨callback, some (place, request),
      exchange.transport.setChannel place { channel with requests },
      .waits (.answer place number)⟩
    exchange.Comes attempt →
    (exchange.after attempt).Settles (ended ++ exchange.callOf attempt) verdicts := by
  intro attempt comes
  have now : ∀ other, (exchange.after attempt).awaited other =
      if place = other then some request else none := awaited_of_answer rfl
  have owes := settles.owing place channel there
  rw [before] at owes
  constructor
  case owing =>
    refine settles.owing.set there ?_ fun other isOther channel' otherOwes => ?_
    · rw [now, if_pos rfl]
      cases owes with
      | nothing noOpen =>
          refine .openRequest request ?_ noAnswer unanswered
          have moved : (requests.box.items.toList ++ heldAt exchange.held place).Perm
              ([request] ++ (channel.requests.box.items.toList ++ heldAt exchange.held place)) := by
            rw [items, Fifo.toList_push, List.append_assoc]
            exact List.perm_middle
          refine (moved.filter _).trans ?_
          show (asking (_ ++ _)).Perm _
          rw [asking_append, noOpen, asking_singleton, reply]
          exact .refl _
    · rw [now, if_neg (Ne.symm isOther), ← before other]
      exact otherOwes
  case recorded =>
    refine settles.recorded.after ready comes (fun _ _ waits => nomatch waits)
      fun call isCall => absurd isCall.symm (List.cons_ne_nil _ _)

theorem Settles.request (settles : exchange.Settles ended verdicts) (ready : exchange.Ready)
    {id : Nat} {request : TypedRequest} {slot : Slot} {channel : Channel}
    {requests : RequestStream} {reply : Option Nat} {sent : Mailbox.Sent}
    (found : exchange.transport.slot? id = some slot)
    (there : exchange.transport.channels[slot.place]? = some channel)
    (wants : reply.isSome = request.wantsReply)
    (origin : exchange.Origin id request slot.place channel reply)
    (sends : channel.requests.box.Sends Transport.sender (request.toRequest reply)
      requests.box sent)
    (answers : requests.answers = channel.requests.answers) :
    let attempt : Attempt := ⟨.request id request,
      reply.map fun number => (slot.place, request.toRequest (some number)),
      exchange.transport.setChannel slot.place
        (Transport.afterRequest { channel with requests } slot.place reply sent).1,
      (Transport.afterRequest { channel with requests } slot.place reply sent).2⟩
    exchange.Comes attempt →
    (exchange.after attempt).Settles (ended ++ exchange.callOf attempt) verdicts := by
  intro attempt comes
  have before := origin.awaited
  have isChannel := channelOf?_of_slot found there
  cases reply with
  | none =>
      refine ⟨?_, settles.recorded.after_of_unmade ready comes rfl⟩
      cases sends with
      | refused _ attached items _ =>
          exact settles.unqueued there before (awaited_of_idle rfl) rfl rfl
            (congrArg (fun queue => asking queue.toList) items) answers attached
      | queued _ attached items _ =>
          refine settles.unqueued there before (awaited_of_idle rfl) rfl rfl ?_ answers attached
          show asking requests.box.items.toList = _
          rw [items, Fifo.toList_push, asking_append]
          exact List.append_nil _
      | waits _ attached _ items _ =>
          exact settles.unqueued there before (awaited_of_requests rfl) rfl rfl
            (congrArg (fun queue => asking queue.toList) items) answers attached
  | some number =>
      have unanswered := settles.recorded.unanswered there wants.symm origin
      cases sends with
      | refused isDetached attached items _ =>
          refine ⟨settles.unqueued there before (awaited_of_idle rfl) rfl rfl
            (congrArg (fun queue => asking queue.toList) items) answers attached, ?_⟩
          refine settles.recorded.after ready comes (fun _ _ waits => nomatch waits) ?_
          intro call isCall place asked made
          rw [callOf_of_finished rfl isChannel] at isCall
          obtain rfl := (List.cons.inj isCall).1
          obtain ⟨rfl, rfl⟩ := Prod.mk.inj (Option.some.inj made)
          exact ⟨false, rfl, .inr ⟨rfl, isDetached, unanswered⟩⟩
      | waits _ attached _ items _ =>
          refine ⟨settles.unqueued there before (awaited_of_requests rfl) rfl rfl
            (congrArg (fun queue => asking queue.toList) items) answers attached, ?_⟩
          refine settles.recorded.after ready comes (fun _ _ _ place asked verdict made => ?_)
            fun call isCall => absurd isCall.symm (List.cons_ne_nil _ _)
          obtain ⟨rfl, rfl⟩ := Prod.mk.inj (Option.some.inj made)
          exact unanswered verdict
      | queued isAttached attached items _ =>
          -- nobody has answered it yet, so that its answer is not there
          have noAnswer : requests.answers = [] := by
            have owes := settles.owing slot.place channel there
            rw [before] at owes
            cases owes with
            | nothing noOpen noAnswer => exact answers.trans noAnswer
          have isOpen : Transport.afterRequest { channel with requests } slot.place (some number)
              .queued = ({ channel with requests }, .waits (.answer slot.place number)) := by
            rcases collect_cases { channel with requests } slot.place number with
              isOpen | ⟨verdict, isThere, -⟩
            · exact isOpen
            · rw [noAnswer] at isThere
              exact absurd isThere.symm (Option.some_ne_none _)
          have isAttempt : attempt = ⟨.request id request,
              some (slot.place, request.toRequest (some number)),
              exchange.transport.setChannel slot.place { channel with requests },
              .waits (.answer slot.place number)⟩ := by
            show (⟨_, _, exchange.transport.setChannel slot.place
              (Transport.afterRequest _ slot.place (some number) .queued).1,
              (Transport.afterRequest _ slot.place (some number) .queued).2⟩ : Attempt) = _
            rw [isOpen]
            rfl
          rw [isAttempt] at comes ⊢
          exact settles.queued ready there before items rfl noAnswer unanswered comes

/-- The answer to a request that was made is looked for until it is there. -/
theorem Settles.answer (settles : exchange.Settles ended verdicts) (ready : exchange.Ready)
    {id number : Nat} {request : TypedRequest} {slot : Slot} {channel : Channel}
    (found : exchange.transport.slot? id = some slot)
    (there : exchange.transport.channels[slot.place]? = some channel)
    (waits : exchange.underway = some ⟨.request id request,
      some (slot.place, request.toRequest (some number)), .answer slot.place number⟩) :
    let attempt : Attempt := ⟨.request id request,
      some (slot.place, request.toRequest (some number)),
      exchange.transport.setChannel slot.place (Transport.collect channel slot.place number).1,
      (Transport.collect channel slot.place number).2⟩
    exchange.Comes attempt →
    (exchange.after attempt).Settles (ended ++ exchange.callOf attempt) verdicts := by
  intro attempt comes
  have before := awaited_of_answer waits
  have owes := settles.owing slot.place channel there
  rw [before, if_pos rfl] at owes
  have isAttempt : attempt = ⟨_, _, exchange.transport.setChannel slot.place
      (Transport.collect channel slot.place number).1,
      (Transport.collect channel slot.place number).2⟩ := rfl
  -- which request it was matters no more, but for the number that it has
  generalize isAsked : request.toRequest (some number) = asked at owes before isAttempt
  cases owes with
  | openRequest _ isOpen noAnswer noVerdict =>
      have stillWaits : Transport.collect channel slot.place number =
          (channel, .waits (.answer slot.place number)) := by
        rcases collect_cases channel slot.place number with stillWaits | ⟨verdict, isThere, -⟩
        · exact stillWaits
        · rw [noAnswer] at isThere
          exact absurd isThere.symm (Option.some_ne_none _)
      rw [stillWaits] at isAttempt
      rw [isAttempt] at comes ⊢
      refine ⟨settles.owing.set there ?_ fun other isOther channel' otherOwes => ?_, ?_⟩
      · rw [awaited_of_answer rfl, if_pos rfl]
        exact .openRequest asked isOpen noAnswer noVerdict
      · rw [awaited_of_answer rfl, ← before]
        exact otherOwes
      · exact settles.recorded.after ready comes (fun _ _ waits => nomatch waits)
          fun call isCall => absurd isCall.symm (List.cons_ne_nil _ _)
  | answered _ known verdict noOpen reply answer settled =>
      obtain rfl : number = known := by
        rw [← isAsked] at reply
        exact Option.some.inj reply
      have isOver : Transport.collect channel slot.place number =
          ({ channel with requests := { channel.requests with answers := [] } },
            .finished (some verdict)) := by
        unfold Transport.collect RequestStream.collect?
        simp only [answer, List.lookup_cons_self, Option.map_some, List.filter_cons,
          bne_self_eq_false, Bool.false_eq_true, if_false, List.filter_nil]
      rw [isOver] at isAttempt
      rw [isAttempt] at comes ⊢
      refine ⟨settles.owing.set there ?_ fun other isOther channel' otherOwes => ?_, ?_⟩
      · rw [awaited_of_idle rfl]
        exact .nothing noOpen rfl
      · rw [awaited_of_idle rfl]
        rw [before, if_neg (Ne.symm isOther)] at otherOwes
        exact otherOwes
      · refine settles.recorded.after ready comes (fun _ _ waits => nomatch waits) ?_
        intro call isCall place made isMade
        rw [callOf_of_finished rfl (channelOf?_of_slot found there)] at isCall
        obtain rfl := (List.cons.inj isCall).1
        obtain ⟨rfl, rfl⟩ := Prod.mk.inj (Option.some.inj isMade)
        exact ⟨verdict, rfl, settled⟩

theorem Settles.after (settles : exchange.Settles ended verdicts) (ready : exchange.Ready)
    {attempt : Attempt} (comes : exchange.Comes attempt) :
    (exchange.after attempt).Settles (ended ++ exchange.callOf attempt) verdicts := by
  have isAttempt := comes
  cases comes with
  | opened id channel idle isFree unused => exact settles.opened ready idle unused isAttempt
  | refused id idle | dropped id chunk idle | unknown id request idle =>
      exact settles.givesUp ready idle isAttempt (.refl exchange.transport id)
  | eof id idle =>
      exact settles.givesUp ready idle isAttempt (Transport.endInput_givesUp ready.placed id)
  | close id idle =>
      exact settles.givesUp ready idle isAttempt (Transport.closed_givesUp ready.placed id).1
  | data id chunk place channel input sent found there origin sends =>
      exact settles.data ready there origin isAttempt
  | request id request slot channel requests reply sent found there wants origin sends answers =>
      exact settles.request ready found there wants origin sends answers isAttempt
  | answer id request slot channel number found there wants waits =>
      exact settles.answer ready found there waits isAttempt

/-! ### Handlers -/

/-- What handlers do to channels and to what they hold leaves the record. -/
theorem Recorded.set (recorded : exchange.Recorded ended verdicts) {place : Nat}
    {before after : Channel} {held : List (Nat × Request)}
    (there : exchange.transport.channels[place]? = some before)
    (more : before.requests.nextReply ≤ after.requests.nextReply) :
    Recorded ⟨exchange.transport.setChannel place after, exchange.underway, held⟩ ended
      verdicts :=
  { recorded with
    numbered := fun made member =>
      (recorded.numbered made member).of_later (Transport.later_set there more) }

/-- The first answer to the request that is awaited goes on the record. -/
theorem Recorded.judge (recorded : exchange.Recorded ended verdicts) {place : Nat}
    {request : Request} (isAwaited : exchange.awaited place = some request)
    (unanswered : ∀ verdict, (place, request, verdict) ∉ verdicts) (verdict : Bool) :
    exchange.Recorded ended (verdicts ++ [(place, request, verdict)]) := by
  obtain ⟨callback, waiting, number, isUnderway⟩ : ∃ callback waiting number,
      exchange.underway = some ⟨callback, some (place, request), .answer waiting number⟩ := by
    unfold awaited at isAwaited
    split at isAwaited
    next callback own asked waiting number isUnderway =>
      split at isAwaited
      next same =>
        obtain rfl := same
        obtain rfl := Option.some.inj isAwaited
        exact ⟨callback, waiting, number, isUnderway⟩
      · exact absurd isAwaited.symm (Option.some_ne_none _)
    · exact absurd isAwaited.symm (Option.some_ne_none _)
  have isMade : exchange.madeIn ended = ended.filterMap Call.made ++ [(place, request)] := by
    unfold madeIn
    rw [isUnderway]
    rfl
  have once := recorded.once
  rw [isMade, List.nodup_append] at once
  constructor
  case once => exact recorded.once
  case numbered => exact recorded.numbered
  case judged =>
    refine List.forall_mem_append.2 ⟨recorded.judged, List.forall_mem_singleton.2 ?_⟩
    rw [isMade]
    exact List.mem_append_right _ (List.mem_singleton_self _)
  case judgedOnce =>
    rw [List.map_append, List.map_singleton, ← List.concat_eq_append]
    refine List.Nodup.concat (fun member => ?_) recorded.judgedOnce
    obtain ⟨⟨_, _, other⟩, isEntry, same⟩ := List.mem_map.1 member
    obtain ⟨rfl, rfl⟩ := Prod.mk.inj same
    exact unanswered other isEntry
  case unqueued =>
    intro underway same ⟨own, reply, isWait⟩
    obtain rfl := Option.some.inj (isUnderway.symm.trans same)
    exact nomatch isWait
  case settled =>
    intro call member own asked made
    -- the request under way is none of those that are over
    have differs : (own, asked) ≠ (place, request) :=
      once.2.2 _ (List.mem_filterMap.2 ⟨call, member, made⟩) _ (List.mem_singleton_self _)
    obtain ⟨told, isTold, settled⟩ := recorded.settled call member own asked made
    refine ⟨told, isTold, ?_⟩
    rcases settled with given | ⟨isFalse, unserved, noVerdict⟩
    · exact .inl (List.mem_append_left _ given)
    · refine .inr ⟨isFalse, unserved, fun other isEntry => ?_⟩
      rcases List.mem_append.1 isEntry with before | isNew
      · exact noVerdict other before
      · obtain ⟨rfl, rest⟩ := Prod.mk.inj (List.mem_singleton.1 isNew)
        obtain ⟨rfl, -⟩ := Prod.mk.inj rest
        exact differs rfl

theorem Settles.handler (settles : exchange.Settles ended verdicts) (act : HandlerAct)
    {place : Nat} {channel : Channel}
    (there : exchange.transport.channels[place]? = some channel) :
    Settles { exchange with
      transport := exchange.transport.setChannel place (channel.stepOfHandler act) }
      ended verdicts := by
  have owes := settles.owing place channel there
  rcases (channel.stepOfHandler_effect act).requests with same | leaves
  · refine ⟨settles.owing.set there ?_ fun _ _ _ otherOwes => otherOwes,
      settles.recorded.set there (Nat.le_of_eq ?_)⟩
    · rw [same]
      exact owes
    · rw [same]
  · refine ⟨settles.owing.set there ?_ fun _ _ _ otherOwes => otherOwes,
      settles.recorded.set there (Nat.le_of_eq ?_)⟩
    · rw [leaves]
      exact owes.detach
    · rw [leaves]
      exact (RequestStream.nextReply_foldl_discard _ _).symm

theorem Settles.take (settles : exchange.Settles ended verdicts) {place : Nat} {channel : Channel}
    {request : Request} {requests : RequestStream}
    (there : exchange.transport.channels[place]? = some channel)
    (taken : channel.requests.take? = some (request, requests)) :
    Settles { exchange with
      transport := exchange.transport.setChannel place { channel with requests }
      held := exchange.held ++ [(place, request)] } ended verdicts := by
  obtain ⟨items, attached⟩ := RequestStream.toList_of_take taken
  refine ⟨settles.owing.set there ?_ fun other isOther channel' otherOwes => ?_,
    settles.recorded.set there (Nat.le_of_eq (RequestStream.nextReply_of_take taken).symm)⟩
  · refine (settles.owing place channel there).of_perm (List.Perm.filter _ ?_)
      (Session.answers_of_take taken) attached
    rw [heldAt_append, heldAt_singleton, if_pos rfl, items, ← List.append_assoc]
    exact List.perm_append_singleton _ _
  · rw [heldAt_append, heldAt_singleton, if_neg (Ne.symm isOther), List.append_nil]
    exact otherOwes

theorem Settles.judge (settles : exchange.Settles ended verdicts) (verdict : Option Bool)
    {index place : Nat} {request : Request} {channel : Channel}
    (isHeld : exchange.held[index]? = some (place, request))
    (there : exchange.transport.channels[place]? = some channel) :
    Settles { exchange with
      transport := exchange.transport.setChannel place
        { channel with requests := channel.requests.settle request verdict }
      held := exchange.held.eraseIdx index } ended
      (verdicts ++ exchange.verdictBy (.answer index verdict)) := by
  have owes := settles.owing place channel there
  have own := heldAt_eraseIdx isHeld place
  rw [if_pos rfl] at own
  have elsewhere : ∀ other ≠ place,
      (heldAt (exchange.held.eraseIdx index) other).Perm (heldAt exchange.held other) := by
    intro other isOther
    have perm := heldAt_eraseIdx isHeld other
    rw [if_neg (Ne.symm isOther)] at perm
    exact perm.symm
  have numbered : channel.requests.nextReply ≤
      (channel.requests.settle request verdict).nextReply :=
    Nat.le_of_eq (RequestStream.nextReply_settle _ _ _).symm
  have isVerdict : exchange.verdictBy (.answer index verdict) =
      if request.reply.isSome then [(place, request, verdict.getD false)] else [] := by
    simp only [verdictBy, isHeld]
  rw [isVerdict]
  cases reply : request.reply with
  | none =>
      rw [Option.isSome_none, if_neg Bool.false_ne_true, List.append_nil]
      refine ⟨settles.owing.set there (owes.settle_unasked own reply verdict)
        fun other isOther channel' otherOwes => ?_, settles.recorded.set there numbered⟩
      exact otherOwes.of_perm (((elsewhere other isOther).append_left _).filter _) rfl rfl
  | some number =>
      rw [Option.isSome_some, if_pos rfl]
      obtain ⟨isAwaited, unanswered, settled⟩ := owes.settle_asked own reply verdict
      refine ⟨settles.owing.set there settled fun other isOther channel' otherOwes => ?_,
        (settles.recorded.judge isAwaited unanswered _).set there numbered⟩
      exact (otherOwes.of_verdict (Ne.symm isOther) _).of_perm
        (((elsewhere other isOther).append_left _).filter _) rfl rfl

theorem Settles.next (settles : exchange.Settles ended verdicts) (ready : exchange.Ready)
    {act : ExchangeAct} {next : Exchange} (moves : exchange.Moves act next) :
    next.Settles (ended ++ exchange.endedBy act) (verdicts ++ exchange.verdictBy act) := by
  cases moves with
  | attempt attempted comes =>
      have noVerdict : exchange.verdictBy act = [] := by
        cases act with
        | call | goOn | handler | take => rfl
        | answer => exact absurd attempted.symm (Option.some_ne_none _)
      rw [endedBy_of_attempt attempted, noVerdict, List.append_nil]
      exact settles.after ready comes
  | stays noAttempt noVerdict =>
      rw [endedBy_of_none noAttempt, noVerdict, List.append_nil, List.append_nil]
      exact settles
  | handler act there =>
      rw [endedBy_of_none rfl, List.append_nil]
      exact (List.append_nil verdicts).symm ▸ settles.handler act there
  | take there taken =>
      rw [endedBy_of_none rfl, List.append_nil]
      exact (List.append_nil verdicts).symm ▸ settles.take there taken
  | answer verdict isHeld there =>
      rw [endedBy_of_none rfl, List.append_nil]
      exact settles.judge verdict isHeld there

end Exchange

end SshServer
