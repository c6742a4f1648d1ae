import Mathlib.Data.List.Induction
import SshServer.Proofs.Transport.Answers
import SshServer.Proofs.Transport.Delivery

/-!
Contract: the transport of a connection keeps its channels apart.

Owns: what a callback asks for, given those that were over before it; that callbacks are over in the
order in which they began; what a callback that waits is waiting for; and the statement about every
run of a transport with its handlers.
Does not own: the slots (`Proofs.Transport.Slots`), the data (`Proofs.Transport.Delivery`) and the
answers (`Proofs.Transport.Answers`) one by one.
-/

namespace SshServer

/-! ### What a callback asks for -/

/-- What a callback that is over has asked of a handler and has told the peer, given the callbacks
that were over before it. -/
structure Call.Asks (before : List Call) (call : Call) : Prop where
  /-- Nothing is told where the peer wants no answer. -/
  silent : (∀ id request, call.callback = .request id request → request.wantsReply = false) →
    call.made = none ∧ call.told = none
  /-- A request on a channel that is not open fails. -/
  unknown : ∀ id request, call.callback = .request id request → request.wantsReply = true →
    (∀ slot, ¬Names before id slot) → call.made = none ∧ call.told = some false
  /-- Any other request is made of the handler of the channel that is open. -/
  known : ∀ id request slot, call.callback = .request id request → request.wantsReply = true →
    Names before id slot →
    ∃ number, call.made = some (slot.place, request.toRequest (some number))

/-- A callback that makes no request tells the peer nothing. -/
theorem Call.asks_of_other {before : List Call} {call : Call}
    (isOther : ∀ id request, call.callback ≠ .request id request) (made : call.made = none)
    (told : call.told = none) : call.Asks before where
  silent _ := ⟨made, told⟩
  unknown id request isCallback := absurd isCallback (isOther id request)
  known id request _ isCallback := absurd isCallback (isOther id request)

/-- A request on an open channel, told of as its handler was asked. -/
theorem Call.asks_of_known {before : List Call} {call : Call} {id : Nat} {request : TypedRequest}
    {slot : Slot} (reply : Option Nat) (isCallback : call.callback = .request id request)
    (only : ∀ other, Names before id other ↔ other = slot)
    (wants : reply.isSome = request.wantsReply)
    (made : call.made = reply.map fun number => (slot.place, request.toRequest (some number)))
    (told : reply = none → call.told = none) : call.Asks before := by
  have same : ∀ {other : Nat} {asked : TypedRequest}, call.callback = .request other asked →
      id = other ∧ request = asked :=
    fun isOther => Callback.request.inj (isCallback.symm.trans isOther)
  constructor
  case silent =>
    intro quiet
    rw [quiet id request isCallback, Option.isSome_eq_false_iff, Option.isNone_iff_eq_none] at wants
    rw [made, wants]
    exact ⟨rfl, told wants⟩
  case unknown =>
    intro other asked isOther _ nobody
    obtain ⟨rfl, rfl⟩ := same isOther
    exact absurd ((only slot).2 rfl) (nobody slot)
  case known =>
    intro other asked found isOther wantsReply named
    obtain ⟨rfl, rfl⟩ := same isOther
    obtain rfl := (only found).1 named
    rw [wantsReply, Option.isSome_iff_exists] at wants
    obtain ⟨number, isNumber⟩ := wants
    rw [made, isNumber]
    exact ⟨number, rfl⟩

namespace Exchange

section

variable {exchange : Exchange} {ended : List Call} {verdicts : Verdicts}

theorem Comes.asks (slotted : exchange.Slotted ended) {attempt : Attempt}
    (comes : exchange.Comes attempt) {call : Call} (isCallback : call.callback = attempt.callback)
    (made : call.made = attempt.made) (told : attempt.status = .finished call.told) :
    call.Asks ended := by
  have only : ∀ {id : Nat} {slot : Slot}, exchange.transport.slot? id = some slot →
      ∀ other, Names ended id other ↔ other = slot := by
    intro id slot found other
    rw [← slotted.names, found, Option.some.injEq]
    exact eq_comm
  cases comes with
  | opened | refused | eof | close | dropped =>
      refine Call.asks_of_other (fun id request isRequest => ?_) made
        (CallbackStatus.finished.inj told).symm
      exact Callback.noConfusion (isCallback.symm.trans isRequest)
  | data id chunk place channel input sent =>
      refine Call.asks_of_other (fun id request isRequest => ?_) made ?_
      · exact Callback.noConfusion (isCallback.symm.trans isRequest)
      · cases sent with
        | waiting => exact nomatch told
        | queued | refused => exact (CallbackStatus.finished.inj told).symm
  | unknown id request idle isFree =>
      have isTold := CallbackStatus.finished.inj told
      constructor
      case silent =>
        intro quiet
        rw [quiet id request isCallback, if_neg Bool.false_ne_true] at isTold
        exact ⟨made, isTold.symm⟩
      case unknown =>
        intro other asked isOther wants _
        obtain ⟨rfl, rfl⟩ := Callback.request.inj (isCallback.symm.trans isOther)
        rw [if_pos wants] at isTold
        exact ⟨made, isTold.symm⟩
      case known =>
        intro other asked slot isOther _ named
        obtain ⟨rfl, rfl⟩ := Callback.request.inj (isCallback.symm.trans isOther)
        have found := (slotted.names id slot).2 named
        exact absurd (found.symm.trans isFree) (Option.some_ne_none _)
  | request id request slot channel requests reply sent found there wants =>
      refine Call.asks_of_known reply isCallback (only found) wants made ?_
      rintro rfl
      cases sent with
      | waiting => exact nomatch told
      | queued | refused => exact (CallbackStatus.finished.inj told).symm
  | answer id request slot channel number found there wants =>
      exact Call.asks_of_known (some number) isCallback (only found) wants.symm made
        fun absent => absurd absent (Option.some_ne_none _)

/-! ### One at a time -/

/-- The callbacks that began are over in the same order, but for one that may be under way. -/
def InTurn (exchange : Exchange) (begun : List Callback) (ended : List Call) : Prop :=
  begun = ended.map Call.callback ++ (exchange.underway.map Underway.callback).toList

/-- An attempt is made for the callback under way, or for one that begins where there is none. -/
theorem begunBy_of_attempt {act : ExchangeAct} {attempt : Attempt}
    (attempted : exchange.attempt? act = some attempt) :
    (exchange.underway.map Underway.callback).toList ++ exchange.begunBy act =
      [attempt.callback] := by
  cases act with
  | call act =>
      have begins : exchange.begunBy (.call act) = [attempt.callback] := by
        show ((exchange.attempt? (.call act)).map Attempt.callback).toList = _
        rw [attempted]
        rfl
      have idle : exchange.underway = none := by
        simp only [attempt?] at attempted
        split at attempted
        · exact absurd attempted.symm (Option.some_ne_none _)
        next idle => exact idle
      rw [begins, idle]
      rfl
  | goOn =>
      obtain ⟨underway, isUnderway, rfl⟩ := Option.map_eq_some_iff.1 attempted
      rw [isUnderway]
      rfl
  | handler | take | answer => exact absurd attempted.symm (Option.some_ne_none _)

/-- After an attempt its callback is over or under way. -/
theorem callback_after (exchange : Exchange) (attempt : Attempt) :
    (exchange.callOf attempt).map Call.callback ++
      ((exchange.after attempt).underway.map Underway.callback).toList = [attempt.callback] := by
  unfold after
  rcases exchange.callOf_cases attempt with ⟨isOpen, wait, waits⟩ | ⟨call, isOver, same, -, told⟩
  · rw [isOpen, waits]
    rfl
  · rw [isOver, told, List.map_singleton, same]
    rfl

theorem InTurn.next {begun : List Callback} (inTurn : exchange.InTurn begun ended)
    {act : ExchangeAct} {next : Exchange} (moves : exchange.Moves act next) :
    next.InTurn (begun ++ exchange.begunBy act) (ended ++ exchange.endedBy act) := by
  unfold InTurn at inTurn ⊢
  cases moves with
  | attempt attempted =>
      rw [endedBy_of_attempt attempted, inTurn, List.append_assoc, begunBy_of_attempt attempted,
        List.map_append, List.append_assoc, callback_after]
  | stays noAttempt =>
      have noneBegins : exchange.begunBy act = [] := by
        cases act with
        | call act =>
            show ((exchange.attempt? (.call act)).map Attempt.callback).toList = _
            rw [noAttempt]
            rfl
        | goOn | handler | take | answer => rfl
      rw [noneBegins, endedBy_of_none noAttempt, List.append_nil, List.append_nil]
      exact inTurn
  | handler | take | answer =>
      rw [endedBy_of_none rfl, List.append_nil]
      exact (List.append_nil begun).trans inTurn

/-! ### What a callback waits for -/

/-- A callback waits for the handler of its own channel, which has not left what it waits for. -/
inductive WaitsFor (exchange : Exchange) : CallbackWait → Prop where
  /-- The handler has yet to read from its input, which is full. -/
  | input {place : Nat} {channel : Channel}
      (there : exchange.transport.channels[place]? = some channel)
      (attached : channel.input.box.attached = true)
      (noRoom : channel.input.box.hasRoom = false) : WaitsFor exchange (.input place)
  /-- The handler has yet to take a request from its stream, which is full. -/
  | requests {place : Nat} {reply : Option Nat} {channel : Channel}
      (there : exchange.transport.channels[place]? = some channel)
      (attached : channel.requests.box.attached = true)
      (noRoom : channel.requests.box.hasRoom = false) : WaitsFor exchange (.requests place reply)
  /-- The handler has yet to take the request, or to answer it. -/
  | answer {place number : Nat} {channel : Channel} {request : Request}
      (there : exchange.transport.channels[place]? = some channel)
      (reply : request.reply = some number)
      (isOpen : request ∈ channel.requests.box.items.toList ∨ (place, request) ∈ exchange.held) :
      WaitsFor exchange (.answer place number)

theorem mem_held_of_heldAt {held : List (Nat × Request)} {place : Nat} {request : Request}
    (member : request ∈ heldAt held place) : (place, request) ∈ held := by
  obtain ⟨⟨own, _⟩, isEntry, rfl⟩ := List.mem_map.1 member
  obtain ⟨isHeld, same⟩ := List.mem_filter.1 isEntry
  obtain rfl := beq_iff_eq.1 same
  exact isHeld

/-- An answer that is not there has yet to be given. -/
theorem Settles.waitsFor (settles : exchange.Settles ended verdicts) {callback : Callback}
    {place number : Nat} {request : Request} {channel : Channel}
    (isUnderway : exchange.underway =
      some ⟨callback, some (place, request), .answer place number⟩)
    (reply : request.reply = some number)
    (there : exchange.transport.channels[place]? = some channel)
    (notYet : channel.requests.answers.lookup number = none) :
    exchange.WaitsFor (.answer place number) := by
  have owes := settles.owing place channel there
  rw [awaited_of_answer isUnderway, if_pos rfl] at owes
  cases owes with
  | openRequest _ isOpen =>
      refine .answer there reply ?_
      have member : request ∈ asking (channel.requests.box.items.toList ++
          heldAt exchange.held place) := isOpen.symm.subset (List.mem_singleton_self request)
      rcases List.mem_append.1 (List.mem_filter.1 member).1 with queued | isHeld
      · exact .inl queued
      · exact .inr (mem_held_of_heldAt isHeld)
  | answered _ known verdict _ isKnown answer =>
      obtain rfl := Option.some.inj (reply.symm.trans isKnown)
      rw [answer, List.lookup_cons_self] at notYet
      exact absurd notYet (Option.some_ne_none _)

theorem collect_waits {channel : Channel} {place number : Nat} {wait : CallbackWait}
    (waits : (Transport.collect channel place number).2 = .waits wait) :
    wait = .answer place number ∧
      (Transport.collect channel place number).1.requests.answers.lookup number = none := by
  unfold Transport.collect RequestStream.collect? at waits ⊢
  cases found : channel.requests.answers.lookup number with
  | none =>
      rw [found] at waits
      exact ⟨(CallbackStatus.waits.inj waits).symm, found⟩
  | some verdict =>
      rw [found] at waits
      exact nomatch waits

theorem underway_after {attempt : Attempt} {wait : CallbackWait}
    (waits : attempt.status = .waits wait) :
    (exchange.after attempt).underway = some ⟨attempt.callback, attempt.made, wait⟩ := by
  unfold after
  rw [waits]
  rfl

/-- Where an attempt does not come to the end of its callback, it is up to the handler. -/
theorem Comes.waitsFor {attempt : Attempt} (comes : exchange.Comes attempt)
    (settles : (exchange.after attempt).Settles ended verdicts) {wait : CallbackWait}
    (waits : attempt.status = .waits wait) : (exchange.after attempt).WaitsFor wait := by
  cases comes with
  | opened | refused | eof | close | dropped | unknown => exact nomatch waits
  | data id chunk place channel input sent found there origin sends =>
      cases sends with
      | refused | queued => exact nomatch waits
      | waits isAttached attached noRoom =>
          obtain rfl := CallbackStatus.waits.inj waits
          exact .input ((Transport.getElem?_setChannel there place).trans (if_pos rfl))
            (attached.trans isAttached) noRoom
  | request id request slot channel requests reply sent found there wants origin sends =>
      cases sends with
      | refused => exact nomatch waits
      | waits isAttached attached noRoom =>
          obtain rfl := CallbackStatus.waits.inj waits
          exact .requests ((Transport.getElem?_setChannel there slot.place).trans (if_pos rfl))
            (attached.trans isAttached) noRoom
      | queued =>
          cases reply with
          | none => exact nomatch waits
          | some number =>
              obtain ⟨rfl, notYet⟩ := collect_waits waits
              exact settles.waitsFor (underway_after waits) rfl
                ((Transport.getElem?_setChannel there slot.place).trans (if_pos rfl)) notYet
  | answer id request slot channel number found there =>
      obtain ⟨rfl, notYet⟩ := collect_waits waits
      exact settles.waitsFor (underway_after waits) rfl
        ((Transport.getElem?_setChannel there slot.place).trans (if_pos rfl)) notYet

/-! ### Every run -/

theorem Moves.slot?_of_other (ready : exchange.Ready) {act : ExchangeAct} {next : Exchange}
    (moves : exchange.Moves act next) {id : Nat}
    (isOther : ∀ attempt, exchange.attempt? act = some attempt → attempt.callback.id ≠ id) :
    next.transport.slot? id = exchange.transport.slot? id := by
  cases moves with
  | attempt attempted comes =>
      exact (comes.others ready (isOther _ attempted).symm).1
  | stays | handler | take | answer => rfl

theorem Comes.dropped_of_unnamed (slotted : exchange.Slotted ended) {attempt : Attempt}
    (comes : exchange.Comes attempt) {id : Nat} {chunk : ByteArray}
    (isData : attempt.callback = .data id chunk)
    (unnamed : ∀ place, ¬Names ended id ⟨place, true⟩) :
    attempt.transport = exchange.transport ∧ attempt.status = .finished none := by
  cases comes with
  | opened | refused | eof | close | unknown | request | answer =>
      exact Callback.noConfusion isData
  | dropped => exact ⟨rfl, rfl⟩
  | data own other place channel input sent found =>
      obtain ⟨rfl, rfl⟩ := Callback.data.inj isData
      exact absurd ((slotted.names own ⟨place, true⟩).1 found) (unnamed place)

/-- A callback for another identifier also leaves the channel that is found in a slot. -/
theorem Moves.channel_of_other (ready : exchange.Ready) {act : ExchangeAct} {next : Exchange}
    (moves : exchange.Moves act next) {attempt : Attempt}
    (attempted : exchange.attempt? act = some attempt) {id : Nat} {slot : Slot}
    (isOther : attempt.callback.id ≠ id) (found : exchange.transport.slot? id = some slot) :
    next.transport.channels[slot.place]? = exchange.transport.channels[slot.place]? := by
  cases moves with
  | attempt isAttempt comes =>
      obtain rfl := Option.some.inj (attempted.symm.trans isAttempt)
      exact (comes.others ready isOther.symm).2 slot found
  | stays => rfl
  | handler | take | answer => exact absurd attempted.symm (Option.some_ne_none _)

/-- A callback that is not over when it has gone on waits for a handler. -/
theorem Moves.waitsFor {next : Exchange} (moves : exchange.Moves .goOn next)
    (settles : next.Settles ended verdicts) {underway : Underway}
    (isUnderway : next.underway = some underway) : next.WaitsFor underway.wait := by
  cases moves with
  | stays noAttempt =>
      have idle := Option.map_eq_none_iff.1 noAttempt
      exact absurd (isUnderway.symm.trans idle) (Option.some_ne_none _)
  | @attempt _ attempt _ comes =>
      cases status : attempt.status with
      | waits wait =>
          obtain rfl := Option.some.inj ((underway_after status).symm.trans isUnderway)
          exact comes.waitsFor settles status
      | finished told =>
          have idle : (exchange.after attempt).underway = none := by
            unfold after
            rw [status]
            rfl
          exact absurd (isUnderway.symm.trans idle) (Option.some_ne_none _)

/-- What a transport and its handlers keep to, with all that was seen of them. -/
structure Keeps (exchange : Exchange) (begun : List Callback) (ended : List Call)
    (verdicts : Verdicts) (delivered : Nat → List ByteArray) : Prop where
  ready : exchange.Ready
  slotted : exchange.Slotted ended
  delivers : Delivers ended delivered
  settles : exchange.Settles ended verdicts
  inTurn : exchange.InTurn begun ended
  asks : ∀ before call after, ended = before ++ call :: after → call.Asks before

theorem Keeps.next {begun : List Callback} {delivered : Nat → List ByteArray}
    (keeps : exchange.Keeps begun ended verdicts delivered) {act : ExchangeAct} {next : Exchange}
    (moves : exchange.Moves act next) :
    next.Keeps (begun ++ exchange.begunBy act) (ended ++ exchange.endedBy act)
      (verdicts ++ exchange.verdictBy act) fun place =>
        delivered place ++ Transport.arrives place exchange.transport next.transport where
  ready := keeps.ready.next moves
  slotted := keeps.slotted.next keeps.ready moves
  delivers := keeps.delivers.next keeps.slotted keeps.ready moves
  settles := keeps.settles.next keeps.ready moves
  inTurn := keeps.inTurn.next moves
  asks before call after split := by
    have noMore : exchange.endedBy act = [] → call.Asks before := by
      intro noCall
      rw [noCall, List.append_nil] at split
      exact keeps.asks before call after split
    cases moves with
    | stays noAttempt => exact noMore (endedBy_of_none noAttempt)
    | handler | take | answer => exact noMore (endedBy_of_none rfl)
    | @attempt _ attempt attempted comes =>
        rcases exchange.callOf_cases attempt with
          ⟨isOpen, -⟩ | ⟨last, isOver, isCallback, made, told⟩
        · exact noMore ((endedBy_of_attempt attempted).trans isOpen)
        · rw [endedBy_of_attempt attempted, isOver] at split
          rcases split_snoc split with ⟨rfl, rfl, rfl⟩ | ⟨rest, rfl, isEnded⟩
          · exact comes.asks keeps.slotted isCallback made told
          · exact keeps.asks before call rest isEnded

end

theorem keeps_start : Keeps {} [] [] [] fun _ => [] where
  ready := ready_start
  slotted := ⟨rfl, fun id slot => by
    refine ⟨fun found => absurd found (Option.some_ne_none _).symm, ?_⟩
    rintro ⟨before, opening, after, lives⟩
    exact absurd lives.split.symm (List.append_ne_nil_of_right_ne_nil _ (List.cons_ne_nil _ _))⟩
  delivers := ⟨fun _ _ => rfl, fun _ before opening after split =>
    absurd split.symm (List.append_ne_nil_of_right_ne_nil _ (List.cons_ne_nil _ _))⟩
  settles :=
    { owing := fun _ _ there => absurd there (Option.some_ne_none _).symm
      recorded :=
        { once := List.nodup_nil
          numbered := fun _ member => absurd member List.not_mem_nil
          judged := fun _ member => absurd member List.not_mem_nil
          judgedOnce := List.nodup_nil
          unqueued := fun _ isUnderway => absurd isUnderway (Option.some_ne_none _).symm
          settled := fun _ member => absurd member List.not_mem_nil } }
  inTurn := rfl
  asks before call after split :=
    absurd split.symm (List.append_ne_nil_of_right_ne_nil _ (List.cons_ne_nil _ _))

theorem keeps_run (acts : List ExchangeAct) :
    (run {} acts).Keeps (begun {} acts) (ended {} acts) (verdicts {} acts)
      fun place => delivered place {} acts := by
  induction acts using List.reverseRecOn with
  | nil => exact keeps_start
  | append_singleton acts act inductionHypothesis =>
      have next := inductionHypothesis.next (inductionHypothesis.ready.moves act)
      unfold run begun ended verdicts delivered at next ⊢
      simp only [observed_snoc, runFrom_snoc]
      exact next

/-- How a transport keeps channels apart over a run. -/
structure KeptApart (acts : List ExchangeAct) : Prop where
  /-- The callbacks that began are over in the same order, but for one that may be under way. -/
  inTurn : begun {} acts = (ended {} acts).map Call.callback ++
    ((run {} acts).underway.map Underway.callback).toList
  /-- The slots are those of the channels that were opened and not closed since. -/
  slots : ∀ id slot,
    (run {} acts).transport.slot? id = some slot ↔ Names (ended {} acts) id slot
  /-- To the input of a channel comes the data for its identifier, from its opening up to the end of
  its data, as far as its handler still took it. -/
  delivered : ∀ id before opening after, ended {} acts = before ++ opening :: after →
    opening.callback.opens id = true → delivered (openings before) {} acts = chunksFor id after
  /-- Data for which no channel is open is dropped. -/
  dropped : ∀ act attempt id chunk, (run {} acts).attempt? act = some attempt →
    attempt.callback = .data id chunk → (∀ place, ¬Names (ended {} acts) id ⟨place, true⟩) →
    attempt.transport = (run {} acts).transport ∧ attempt.status = .finished none
  /-- A request is made of the handler of the channel that is open, or fails. -/
  asks : ∀ before call after, ended {} acts = before ++ call :: after → call.Asks before
  /-- For each request that was made the peer is told what the handler has answered, or of a failure
  where its stream is gone. -/
  settled : ∀ call ∈ ended {} acts, ∀ place request, call.made = some (place, request) →
    ∃ told, call.told = some told ∧ Settled (verdicts {} acts) place request told call.served
  /-- No request is made twice, or answered twice. -/
  once : ((ended {} acts).filterMap Call.made).Nodup ∧
    ((verdicts {} acts).map fun entry => (entry.1, entry.2.1)).Nodup
  /-- Only a callback for an identifier changes its slot. -/
  others : ∀ act id,
    (∀ attempt, (run {} acts).attempt? act = some attempt → attempt.callback.id ≠ id) →
    (run {} (acts ++ [act])).transport.slot? id = (run {} acts).transport.slot? id
  /-- A callback for another identifier also leaves the channel that is found there. -/
  channels : ∀ act attempt id slot, (run {} acts).attempt? act = some attempt →
    attempt.callback.id ≠ id → (run {} acts).transport.slot? id = some slot →
    (run {} (acts ++ [act])).transport.channels[slot.place]? =
      (run {} acts).transport.channels[slot.place]?
  /-- A callback that is not over when it has gone on waits for the handler of its channel. -/
  progress : ∀ underway, (run {} (acts ++ [.goOn])).underway = some underway →
    (run {} (acts ++ [.goOn])).WaitsFor underway.wait

/-- A transport keeps the channels of a connection apart, whatever the peer and the handlers do. -/
theorem channels_kept_apart (acts : List ExchangeAct) : KeptApart acts := by
  have keeps := keeps_run acts
  have stepped : ∀ act, run {} (acts ++ [act]) = (run {} acts).step act :=
    fun act => runFrom_snoc step {} acts act
  constructor
  case inTurn => exact keeps.inTurn
  case slots => exact keeps.slotted.names
  case delivered => exact keeps.delivers.opened
  case dropped =>
    intro act attempt id chunk attempted isData unnamed
    exact (comes_of_attempt keeps.ready attempted).dropped_of_unnamed keeps.slotted isData unnamed
  case asks => exact keeps.asks
  case settled => exact keeps.settles.recorded.settled
  case once =>
    have once := keeps.settles.recorded.once
    exact ⟨(List.nodup_append.1 once).1, keeps.settles.recorded.judgedOnce⟩
  case others =>
    intro act id isOther
    rw [stepped]
    exact (keeps.ready.moves act).slot?_of_other keeps.ready isOther
  case channels =>
    intro act attempt id slot attempted isOther found
    rw [stepped]
    exact (keeps.ready.moves act).channel_of_other keeps.ready attempted isOther found
  case progress =>
    intro underway isUnderway
    rw [stepped] at isUnderway ⊢
    have moves := keeps.ready.moves .goOn
    exact moves.waitsFor (keeps.settles.next keeps.ready moves) isUnderway

/-- Two channels at once: the data of one is over, the other is asked for a shell, and a third was
never opened. -/
example :
    let acts : List ExchangeAct :=
      [.call (.accept 7 ⟨"session", .empty⟩ []), .call (.accept 8 ⟨"session", .empty⟩ []),
        .call (.data 7 ⟨#[1]⟩), .call (.data 8 ⟨#[2]⟩), .call (.eof 7), .call (.data 7 ⟨#[3]⟩),
        .call (.request 8 .shell), .take 1, .answer 0 (some true), .goOn,
        .call (.request 9 .shell)]
    delivered 0 {} acts = [⟨#[1]⟩] ∧ delivered 1 {} acts = [⟨#[2]⟩] ∧
      (ended {} acts).map Call.told =
        [none, none, none, none, none, none, some true, some false] := by
  decide

end Exchange

end SshServer
