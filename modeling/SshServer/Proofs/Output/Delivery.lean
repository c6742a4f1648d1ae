import SshServer.Proofs.Output.Run

/-!
Contract: what writers were told is what the transport receives.

Owns: the account that an onlooker draws up from operations and their answers alone, which messages
succeeded and which were received; and that the queue of an output always holds the difference.
Does not own: which operations succeed (`Channel.Outbox`), and the credit they take
(`Proofs.Output.Window`).

A send that has to wait succeeds at the moment at which it goes on, and then its message is the one
that it was begun with. The account therefore keeps the sends that wait, by the tickets they were
given, until they go on or are given up.
-/

namespace SshServer.Outbox

/-- The operations of a run, each with its answer. -/
def transcript (box : Outbox) (acts : List OutputAct) : List (OutputAct × OutputAnswer) :=
  observed step (fun box act => [(act, (box.perform act).2)]) box acts

/-- What operations and their answers say of the messages of an output. -/
structure Account where
  /-- The sends that were told to wait and have neither gone on nor been given up, by ticket. -/
  waiting : List (Nat × Message) := []
  /-- The messages of the operations that succeeded, in the order in which they did. -/
  succeeded : List Message := []
  /-- The messages that the transport was given. -/
  received : List Message := []

namespace Account

def succeed (account : Account) (message : Message) : Account :=
  { account with succeeded := account.succeeded ++ [message] }

/-- An operation that would send a message succeeds or fails. Failures leave nothing. -/
def conclude (account : Account) (message : Message) (result : Except Failure Unit) : Account :=
  match result with
  | .ok _ => account.succeed message
  | .error _ => account

def forget (account : Account) (ticket : Nat) : Account :=
  { account with waiting := account.waiting.filter fun entry => entry.1 != ticket }

/-- Enters an operation with its answer. A poll that is ready has taken the first bytes of what it
was to write, as many as it says; where these are none there is no message. -/
def enter (account : Account) : OutputAct × OutputAnswer → Account
  | (.stream (.send code content), .sending (.done result)) =>
    account.conclude (.ofStream code content) result
  | (.stream (.send code content), .sending (.waiting ticket)) =>
    { account with waiting := account.waiting ++ [(ticket, .ofStream code content)] }
  | (.stream (.resume ticket), .sending (.done result)) =>
    match account.waiting.lookup ticket with
    | none => account
    | some message => (account.forget ticket).conclude message result
  | (.stream (.cancel ticket), _) => account.forget ticket
  | (.stream (.trySend code content), .unit result) =>
    account.conclude (.ofStream code content) result
  | (.stream .eof, .unit result) => account.conclude .eof result
  | (.stream (.pollWrite _ code content), .polling (.ready (.ok count))) =>
    if count = 0 then account
    else account.succeed (.ofStream code (content.extract 0 count))
  | (.exitStatus status, .unit result) => account.conclude (.exitStatus status) result
  | (.close, .unit result) => account.conclude .close result
  | (.stream .take, .received (some message)) =>
    { account with received := account.received ++ [message] }
  | _ => account

/-- The account of a run, drawn up from its operations and their answers. -/
def ofTranscript (transcript : List (OutputAct × OutputAnswer)) : Account :=
  transcript.foldl enter {}

/-- The account and the output agree: the queue holds what succeeded and was not received. Once
the transport is gone it may have missed the end of that. -/
structure Matches (account : Account) (box : Outbox) : Prop where
  waiting : account.waiting = box.sends
  complete : box.attached = true →
    account.received ++ box.queue.toList.map Prod.fst = account.succeeded
  inOrder : account.received ++ box.queue.toList.map Prod.fst <+: account.succeeded

namespace Matches

variable {account : Account} {box : Outbox}

theorem of_same (agree : Matches account box) {after : Outbox} (same : SameSends box after) :
    Matches account after where
  waiting := agree.waiting.trans same.sends.symm
  complete := by
    rw [same.attached, same.queue]
    exact agree.complete
  inOrder := by
    rw [same.queue]
    exact agree.inOrder

theorem forget (agree : Matches account box) (ticket : Nat) :
    Matches (account.forget ticket) (box.forgetSend ticket) where
  waiting := by rw [Account.forget, agree.waiting, forgetSend]
  complete := agree.complete
  inOrder := agree.inOrder

/-- A message is queued behind the others, and then the operation succeeds. -/
theorem queued (agree : Matches account box) {after : Outbox} (message : Message) (credit : Nat)
    (sends : after.sends = box.sends) (isAttached : box.attached = true)
    (queue : after.queue = box.queue.push (message, credit)) :
    Matches { account with succeeded := account.succeeded ++ [message] } after := by
  have whole : account.received ++ after.queue.toList.map Prod.fst =
      account.succeeded ++ [message] := by
    rw [queue, Fifo.toList_push, List.map_append, ← List.append_assoc, agree.complete isAttached]
    rfl
  exact ⟨agree.waiting.trans sends.symm, fun _ => whole, whole ▸ List.prefix_rfl⟩

theorem push (agree : Matches account box) (message : Message) (credit : Nat) :
    Matches (account.conclude message (box.push message credit).2)
      (box.push message credit).1 := by
  unfold Outbox.push
  split
  · exact agree
  · split
    next isAttached => exact agree.queued message credit rfl isAttached rfl
    · exact agree

/-- A poll that is told how much was taken has had its message queued. -/
theorem pushPart (agree : Matches account box) {writer count : Nat} {code : Option UInt32}
    {content : ByteArray} (positive : count ≠ 0) (credit : Nat) :
    let message := Message.ofStream code (content.extract 0 count)
    let pushed := box.push message credit
    Matches
      (account.enter (.stream (.pollWrite writer code content),
        .polling (.ready ((pushed.2.map fun _ => count).mapError Failure.toIo))))
      pushed.1 := by
  intro message pushed
  have concluded := agree.push message credit
  cases result : pushed.2 with
  | error cause =>
      rw [show (box.push message credit).2 = .error cause from result] at concluded
      exact concluded
  | ok _ =>
      rw [show (box.push message credit).2 = .ok () from result] at concluded
      show Matches (if count = 0 then account else account.succeed message) _
      rw [if_neg positive]
      exact concluded

theorem take (agree : Matches account box) {after : Outbox} {message : Message}
    (taken : box.take? = some (message, after)) :
    Matches { account with received := account.received ++ [message] } after := by
  simp only [take?, Option.map_eq_some_iff, Prod.mk.injEq, Prod.exists] at taken
  obtain ⟨first, credit, queue, popped, rfl, rfl⟩ := taken
  have moved : account.received ++ box.queue.toList.map Prod.fst =
      (account.received ++ [first]) ++ queue.toList.map Prod.fst := by
    rw [Fifo.toList_of_pop? popped, List.map_cons, List.append_assoc]
    rfl
  exact ⟨agree.waiting, fun isAttached => moved ▸ agree.complete isAttached,
    moved ▸ agree.inOrder⟩

/-- The transport leaves, and what it was not given is lost. -/
theorem detach (agree : Matches account box) : Matches account box.detach where
  waiting := agree.waiting
  complete := fun isAttached => absurd isAttached Bool.false_ne_true
  inOrder := by
    show account.received ++ [] <+: account.succeeded
    rw [List.append_nil]
    exact (List.prefix_append _ _).trans agree.inOrder

theorem close (agree : Matches account box) :
    Matches (account.conclude .close box.close.2) box.close.1 := by
  unfold Outbox.close
  split
  · exact agree
  · split
    next isAttached => exact agree.queued .close 0 rfl isAttached rfl
    · exact { agree with }

/-! ### Steps -/

theorem send (agree : Matches account box) (code : Option UInt32) (content : ByteArray) :
    let sent := box.performStream (.send code content)
    Matches (account.enter (.stream (.send code content), sent.2)) sent.1 := by
  simp only [performStream, Outbox.send]
  split
  · exact agree
  · split
    · exact agree
    next credit _ =>
      have sameSends : SameSends box { box with credit } := ⟨rfl, rfl, rfl, rfl⟩
      exact (agree.of_same sameSends).push _ _
    next credit _ =>
      exact { agree with waiting := by rw [enter, agree.waiting] }

theorem resume (agree : Matches account box) (ticket : Nat) :
    let resumed := box.performStream (.resume ticket)
    Matches (account.enter (.stream (.resume ticket), resumed.2)) resumed.1 := by
  simp only [performStream, Outbox.resume]
  split
  · exact agree
  next message found =>
    have begun : account.waiting.lookup ticket = some message := agree.waiting ▸ found
    split
    · exact agree
    next credit _ =>
      simp only [enter, begun]
      have sameSends : SameSends (box.forgetSend ticket) { box.forgetSend ticket with credit } :=
        ⟨rfl, rfl, rfl, rfl⟩
      exact (agree.forget ticket).of_same sameSends
    next credit _ =>
      simp only [enter, begun]
      have sameSends : SameSends (box.forgetSend ticket) { box.forgetSend ticket with credit } :=
        ⟨rfl, rfl, rfl, rfl⟩
      exact ((agree.forget ticket).of_same sameSends).push message message.cost

/-- A send that waits is given up, and will not be heard of again. -/
theorem cancel (agree : Matches account box) (ticket : Nat) :
    let cancelled := box.performStream (.cancel ticket)
    Matches (account.enter (.stream (.cancel ticket), cancelled.2)) cancelled.1 := by
  show Matches (account.forget ticket)
    (if (box.sends.lookup ticket).isSome then box.cancel ticket else box)
  have forgotten := agree.forget ticket
  split
  · exact forgotten.of_same ⟨rfl, rfl, rfl, rfl⟩
  next absent =>
    rw [Option.not_isSome_iff_eq_none] at absent
    have unchanged : (box.forgetSend ticket).sends = box.sends := by
      apply List.filter_eq_self.2
      intro entry member
      have other := List.lookup_eq_none_iff.1 absent entry member
      exact bne_iff_ne.2 fun same => bne_iff_ne.1 other same.symm
    exact forgotten.of_same ⟨rfl, rfl, rfl, unchanged.symm⟩

theorem trySend (agree : Matches account box) (code : Option UInt32) (content : ByteArray) :
    let sent := box.performStream (.trySend code content)
    Matches (account.enter (.stream (.trySend code content), sent.2)) sent.1 := by
  simp only [performStream, Outbox.trySend]
  split
  · exact agree
  · split
    · exact agree
    · exact agree
    next credit _ =>
      have sameSends : SameSends box { box with credit } := ⟨rfl, rfl, rfl, rfl⟩
      exact (agree.of_same sameSends).push _ _

theorem pollWrite (agree : Matches account box) (writer : Nat) (code : Option UInt32)
    (content : ByteArray) :
    let polled := box.performStream (.pollWrite writer code content)
    Matches (account.enter (.stream (.pollWrite writer code content), polled.2)) polled.1 := by
  simp only [performStream, Outbox.pollWrite]
  split
  · exact agree
  next notEmpty =>
    split
    · exact agree
    · have frame := pollCredit_frame box writer (min content.size outputWindow)
      split
      next after polled =>
        rw [polled] at frame
        exact agree.of_same frame
      next after polled =>
        rw [polled] at frame
        exact agree.of_same frame
      next after polled =>
        rw [polled] at frame
        have positive : min content.size outputWindow ≠ 0 := by
          have window : 0 < outputWindow := by decide
          omega
        exact (agree.of_same frame).pushPart positive _

theorem performStream (agree : Matches account box) (act : StreamAct) :
    Matches (account.enter (.stream act, (box.performStream act).2))
      (box.performStream act).1 := by
  cases act with
  | send code content => exact agree.send code content
  | resume ticket => exact agree.resume ticket
  | cancel ticket => exact agree.cancel ticket
  | trySend code content => exact agree.trySend code content
  | eof => exact agree.push .eof 0
  | pollWrite writer code content => exact agree.pollWrite writer code content
  | dropPoll writer => exact agree.of_same (dropPoll_frame box writer)
  | take =>
      unfold Outbox.performStream
      cases taken : box.take? with
      | none => exact agree
      | some pair => exact agree.take taken
  | detach => exact agree.detach
  | addWriter => exact { agree with }
  | dropWriter => exact { agree with }

theorem perform (agree : Matches account box) (act : OutputAct) :
    Matches (account.enter (act, (box.perform act).2)) (box.perform act).1 := by
  cases act with
  | stream act => exact agree.performStream act
  | exitStatus status => exact agree.push (.exitStatus status) 0
  | close => exact agree.close

/-! ### Runs -/

theorem run (agree : Matches account box) (acts : List OutputAct) :
    Matches ((box.transcript acts).foldl enter account) (box.run acts) := by
  induction acts generalizing account box with
  | nil => exact agree
  | cons act rest inductionHypothesis =>
      rw [transcript, observed, List.foldl_append]
      exact inductionHypothesis (agree.perform act)

theorem ofOffer (offer : ChannelOffer) (awaited : Bool) :
    Matches {} (Channel.ofOffer offer awaited).output := by
  cases awaited with
  | true => exact ⟨rfl, fun _ => rfl, List.prefix_rfl⟩
  | false => exact ⟨rfl, fun isAttached => absurd isAttached Bool.false_ne_true, List.prefix_rfl⟩

end Matches

end Account

/-- Whatever writers and the transport do, in any order, what the transport was given and what is
under way to it are the messages of the operations that succeeded, each once and in the order in
which they succeeded. Once the transport is gone, what it was given is the beginning of that. -/
theorem output_delivered_once (offer : ChannelOffer) (awaited : Bool) (acts : List OutputAct) :
    let start := (Channel.ofOffer offer awaited).output
    let account := Account.ofTranscript (start.transcript acts)
    ((start.run acts).attached = true →
        account.received ++ (start.run acts).queue.toList.map Prod.fst = account.succeeded) ∧
      account.received <+: account.succeeded := by
  intro start account
  have agree : Account.Matches account (start.run acts) :=
    (Account.Matches.ofOffer offer awaited).run acts
  refine ⟨agree.complete, ?_⟩
  exact (List.prefix_append _ _).trans agree.inOrder

/-- The transport is given the first of three messages; what is tried after the close fails. -/
theorem output_delivered_once_before_close :
    let start := (Channel.ofOffer ⟨"session", ByteArray.empty⟩ true).output
    let acts : List OutputAct :=
      [.stream (.send none ⟨#[97]⟩), .stream (.pollWrite 0 (some standardError) ⟨#[98, 99]⟩),
        .stream (.pollWrite 0 none ByteArray.empty), .stream .take, .close,
        .stream (.trySend none ⟨#[100]⟩), .stream .eof]
    let account := Account.ofTranscript (start.transcript acts)
    (start.run acts).attached = true ∧
      account.received = [.data ⟨#[97]⟩] ∧
      account.succeeded = [.data ⟨#[97]⟩, .extended standardError ⟨#[98, 99]⟩, .close] ∧
      account.received ++ (start.run acts).queue.toList.map Prod.fst = account.succeeded :=
  ⟨rfl, rfl, rfl, (output_delivered_once ⟨"session", ByteArray.empty⟩ true _).1 rfl⟩

end SshServer.Outbox
