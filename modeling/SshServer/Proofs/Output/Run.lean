import SshServer.Channel.Basic
import SshServer.Proofs.Run

/-!
Contract: everything that can be done with the output of an accepted channel, in any order.

Owns: the operations of writers and of the transport, their answers, runs of them, the messages that
an operation queues, and what each operation does to the queue and to the marks of closing and
leaving.
Does not own: the credit that operations move (`Proofs.Output.Window`).

Any number of writers share an output. A send that waits is known by its ticket and goes on by an
operation of its own, so a run fixes when it resumes. A poll that waits goes on when it is polled
again.
-/

namespace SshServer

/-- An operation on an output that does not end it. -/
inductive StreamAct where
  /-- A writer begins to send data, or extended data where a code is given. -/
  | send (code : Option UInt32) (content : ByteArray)
  /-- A send that waits looks whether it can go on. -/
  | resume (ticket : Nat)
  /-- A send that waits is given up, or its writer is dropped. -/
  | cancel (ticket : Nat)
  | trySend (code : Option UInt32) (content : ByteArray)
  | eof
  | pollWrite (writer : Nat) (code : Option UInt32) (content : ByteArray)
  | dropPoll (writer : Nat)
  | take
  | detach
  | addWriter
  | dropWriter

inductive OutputAct where
  | stream (act : StreamAct)
  | exitStatus (status : UInt32)
  | close

/-- The ticket of a send that goes on, or is given up. -/
def OutputAct.ticket? : OutputAct → Option Nat
  | .stream (.resume ticket) | .stream (.cancel ticket) => some ticket
  | _ => none

inductive OutputAnswer where
  | sending (progress : Outbox.Sending)
  | unit (result : Except Failure Unit)
  | polling (progress : Outbox.Polling)
  | received (message : Option Message)
  | nothing

namespace Outbox

/-- Performs an operation that does not end the output. Only a send that waits can be given up. -/
def performStream (box : Outbox) : StreamAct → Outbox × OutputAnswer
  | .send code content =>
    let (box, progress) := box.send (.ofStream code content)
    (box, .sending progress)
  | .resume ticket =>
    let (box, progress) := box.resume ticket
    (box, .sending progress)
  | .cancel ticket =>
    (if (box.sends.lookup ticket).isSome then box.cancel ticket else box, .nothing)
  | .trySend code content =>
    let (box, result) := box.trySend (.ofStream code content)
    (box, .unit result)
  | .eof =>
    let (box, result) := box.eof
    (box, .unit result)
  | .pollWrite writer code content =>
    let (box, progress) := box.pollWrite writer code content
    (box, .polling progress)
  | .dropPoll writer => (box.dropPoll writer, .nothing)
  | .take =>
    match box.take? with
    | none => (box, .received none)
    | some (message, box) => (box, .received (some message))
  | .detach => (box.detach, .nothing)
  | .addWriter => (box.addWriter, .nothing)
  | .dropWriter => (box.dropWriter, .nothing)

def perform (box : Outbox) : OutputAct → Outbox × OutputAnswer
  | .stream act => box.performStream act
  | .exitStatus status =>
    let (box, result) := box.exitStatus status
    (box, .unit result)
  | .close =>
    let (box, result) := box.close
    (box, .unit result)

def step (box : Outbox) (act : OutputAct) : Outbox :=
  (box.perform act).1

def run (box : Outbox) (acts : List OutputAct) : Outbox :=
  runFrom step box acts

theorem run_append (box : Outbox) (first later : List OutputAct) :
    box.run (first ++ later) = (box.run first).run later :=
  runFrom_append step box first later

/-- The messages that stand in `after` behind all that stood in `before`. -/
def newMessages (before after : Outbox) : List Message :=
  (after.queue.toList.drop before.queue.length).map Prod.fst

end Outbox

/-- A message that can be followed by others: data, extended data or the end of the data. -/
def Message.streams : Message → Bool
  | .data _ | .extended _ _ | .eof => true
  | .exitStatus _ | .close => false

theorem Message.streams_ofStream (code : Option UInt32) (content : ByteArray) :
    (Message.ofStream code content).streams = true := by
  cases code with
  | none => rfl
  | some code => rfl

namespace Outbox

/-! ### Effects on the queue and the marks -/

/-- What an operation that does not end the output can do to the queue and to the marks. -/
inductive StreamEffect (before after : Outbox) : Prop where
  /-- No message is queued or taken. -/
  | quiet (queue : after.queue = before.queue) (closed : after.closed = before.closed)
      (attached : after.attached = before.attached)
  /-- One message is queued, which takes an output that is neither closed nor left. -/
  | queued (message : Message) (credit : Nat) (streams : message.streams = true)
      (isOpen : before.closed = false) (isAttached : before.attached = true)
      (queue : after.queue = before.queue.push (message, credit))
      (closed : after.closed = before.closed) (attached : after.attached = before.attached)
  /-- The transport takes the first message. -/
  | taken (entry : Message × Nat) (queue : before.queue.toList = entry :: after.queue.toList)
      (closed : after.closed = before.closed) (attached : after.attached = before.attached)
  /-- The transport leaves, and takes the queue with it. -/
  | left (queue : after.queue = .empty) (closed : after.closed = before.closed)
      (attached : after.attached = false)

theorem push_effect {before box : Outbox} {message : Message} (streams : message.streams = true)
    (credit : Nat) (queue : box.queue = before.queue) (closed : box.closed = before.closed)
    (attached : box.attached = before.attached) :
    StreamEffect before (box.push message credit).1 := by
  unfold push
  split
  · exact .quiet queue closed attached
  next isOpen =>
    split
    next isAttached =>
      apply StreamEffect.queued message credit streams
      · rw [← closed]
        exact Bool.not_eq_true _ ▸ isOpen
      · rw [← attached]
        exact isAttached
      · rw [← queue]
      · exact closed
      · exact attached
    · exact .quiet queue closed attached

theorem send_effect (box : Outbox) {message : Message} (streams : message.streams = true) :
    StreamEffect box (box.send message).1 := by
  unfold send
  split
  · exact .quiet rfl rfl rfl
  · split
    · exact .quiet rfl rfl rfl
    · exact push_effect streams _ rfl rfl rfl
    · exact .quiet rfl rfl rfl

theorem trySend_effect (box : Outbox) {message : Message} (streams : message.streams = true) :
    StreamEffect box (box.trySend message).1 := by
  unfold trySend
  split
  · exact .quiet rfl rfl rfl
  · split
    · exact .quiet rfl rfl rfl
    · exact .quiet rfl rfl rfl
    · exact push_effect streams _ rfl rfl rfl

theorem mem_of_lookup {β : Type} {entries : List (Nat × β)} {key : Nat} {value : β}
    (found : entries.lookup key = some value) : (key, value) ∈ entries := by
  obtain ⟨before, after, rfl, -⟩ := List.lookup_eq_some_iff.1 found
  exact List.mem_append_right before List.mem_cons_self

theorem resume_effect (box : Outbox) (ticket : Nat)
    (streams : ∀ entry ∈ box.sends, entry.2.streams = true) :
    StreamEffect box (box.resume ticket).1 := by
  unfold resume
  split
  · exact .quiet rfl rfl rfl
  next message found =>
    split
    · exact .quiet rfl rfl rfl
    · exact .quiet rfl rfl rfl
    · exact push_effect (streams _ (mem_of_lookup found)) _ rfl rfl rfl

/-- Only credit and the places of polls have moved. -/
structure SameSends (before after : Outbox) : Prop where
  queue : after.queue = before.queue
  closed : after.closed = before.closed
  attached : after.attached = before.attached
  sends : after.sends = before.sends

theorem SameSends.trans {first second third : Outbox} (before : SameSends first second)
    (after : SameSends second third) : SameSends first third where
  queue := after.queue.trans before.queue
  closed := after.closed.trans before.closed
  attached := after.attached.trans before.attached
  sends := after.sends.trans before.sends

theorem askAnew_frame (box : Outbox) (writer amount : Nat) :
    SameSends box (pollCredit.askAnew writer amount box).1 := by
  unfold pollCredit.askAnew
  split
  · exact ⟨rfl, rfl, rfl, rfl⟩
  · exact ⟨rfl, rfl, rfl, rfl⟩

theorem dropPoll_frame (box : Outbox) (writer : Nat) : SameSends box (box.dropPoll writer) := by
  unfold dropPoll
  split
  · exact ⟨rfl, rfl, rfl, rfl⟩
  · exact ⟨rfl, rfl, rfl, rfl⟩

theorem pollCredit_frame (box : Outbox) (writer amount : Nat) :
    SameSends box (box.pollCredit writer amount).1 := by
  unfold pollCredit
  split
  · split
    · split
      · exact ⟨rfl, rfl, rfl, rfl⟩
      · exact ⟨rfl, rfl, rfl, rfl⟩
    · exact (dropPoll_frame box writer).trans (askAnew_frame (box.dropPoll writer) writer amount)
  · exact askAnew_frame box writer amount

theorem pollWrite_effect (box : Outbox) (writer : Nat) (code : Option UInt32)
    (content : ByteArray) : StreamEffect box (box.pollWrite writer code content).1 := by
  unfold pollWrite
  split
  · exact .quiet rfl rfl rfl
  · split
    · exact .quiet rfl rfl rfl
    · have frame := pollCredit_frame box writer (min content.size outputWindow)
      dsimp only
      split
      next after polled =>
        rw [polled] at frame
        exact .quiet frame.queue frame.closed frame.attached
      next after polled =>
        rw [polled] at frame
        exact .quiet frame.queue frame.closed frame.attached
      next after polled =>
        rw [polled] at frame
        exact push_effect (Message.streams_ofStream _ _) _ frame.queue frame.closed frame.attached

theorem take_effect {box after : Outbox} {message : Message}
    (taken : box.take? = some (message, after)) : StreamEffect box after := by
  simp only [take?, Option.map_eq_some_iff, Prod.mk.injEq, Prod.exists] at taken
  obtain ⟨first, credit, queue, popped, -, rfl⟩ := taken
  exact .taken (first, credit) (Fifo.toList_of_pop? popped) rfl rfl

theorem performStream_effect (box : Outbox) (act : StreamAct)
    (streams : ∀ entry ∈ box.sends, entry.2.streams = true) :
    StreamEffect box (box.performStream act).1 := by
  cases act with
  | send code content => exact send_effect box (Message.streams_ofStream code content)
  | resume ticket => exact resume_effect box ticket streams
  | cancel ticket =>
      show StreamEffect box (if (box.sends.lookup ticket).isSome then box.cancel ticket else box)
      split
      · exact .quiet rfl rfl rfl
      · exact .quiet rfl rfl rfl
  | trySend code content => exact trySend_effect box (Message.streams_ofStream code content)
  | eof => exact push_effect rfl 0 rfl rfl rfl
  | pollWrite writer code content => exact pollWrite_effect box writer code content
  | dropPoll writer =>
      have frame := dropPoll_frame box writer
      exact .quiet frame.queue frame.closed frame.attached
  | take =>
      unfold performStream
      cases taken : box.take? with
      | none => exact .quiet rfl rfl rfl
      | some pair => exact take_effect taken
  | detach => exact .left rfl rfl rfl
  | addWriter => exact .quiet rfl rfl rfl
  | dropWriter => exact .quiet rfl rfl rfl

/-! ### Messages that an operation queues -/

theorem newMessages_of_append {before after : Outbox} {entries : List (Message × Nat)}
    (queue : after.queue.toList = before.queue.toList ++ entries) :
    newMessages before after = entries.map Prod.fst := by
  rw [newMessages, queue, ← Fifo.length_toList, List.drop_left]

theorem newMessages_of_length_le {before after : Outbox}
    (fewer : after.queue.toList.length ≤ before.queue.toList.length) :
    newMessages before after = [] := by
  rw [newMessages, ← Fifo.length_toList, List.drop_of_length_le fewer, List.map_nil]

theorem newMessages_of_queue_eq {before after : Outbox} (queue : after.queue = before.queue) :
    newMessages before after = [] := by
  apply newMessages_of_length_le
  exact Nat.le_of_eq (by rw [queue])

namespace StreamEffect

variable {before after : Outbox}

theorem closed_eq (effect : StreamEffect before after) : after.closed = before.closed := by
  cases effect with
  | quiet _ closed _ => exact closed
  | queued _ _ _ _ _ _ closed _ => exact closed
  | taken _ _ closed _ => exact closed
  | left _ closed _ => exact closed

/-- Whatever is queued can be followed by more. -/
theorem streams_of_mem (effect : StreamEffect before after) :
    ∀ message ∈ newMessages before after, message.streams = true := by
  cases effect with
  | quiet queue _ _ =>
      rw [newMessages_of_queue_eq queue]
      exact fun _ member => absurd member List.not_mem_nil
  | queued message credit streams _ _ queue _ _ =>
      have appended : after.queue.toList = before.queue.toList ++ [(message, credit)] := by
        rw [queue, Fifo.toList_push]
      rw [newMessages_of_append appended]
      intro other member
      rw [List.mem_singleton.1 member]
      exact streams
  | taken entry queue _ _ =>
      rw [newMessages_of_length_le (by rw [queue]; exact Nat.le_succ _)]
      exact fun _ member => absurd member List.not_mem_nil
  | left queue _ _ =>
      rw [newMessages_of_length_le (by rw [queue]; exact Nat.zero_le _)]
      exact fun _ member => absurd member List.not_mem_nil

/-- A closed output takes nothing more. -/
theorem newMessages_of_closed (effect : StreamEffect before after)
    (isClosed : before.closed = true) : newMessages before after = [] := by
  cases effect with
  | quiet queue _ _ => exact newMessages_of_queue_eq queue
  | queued _ _ _ isOpen _ _ _ _ =>
      rw [isOpen] at isClosed
      exact absurd isClosed Bool.false_ne_true
  | taken entry queue _ _ => exact newMessages_of_length_le (by rw [queue]; exact Nat.le_succ _)
  | left queue _ _ => exact newMessages_of_length_le (by rw [queue]; exact Nat.zero_le _)

end StreamEffect

/-- `after` has the entries of `before` and behind them these messages. -/
def Extends (before after : Outbox) (messages : List Message) : Prop :=
  ∃ entries, after.queue.toList = before.queue.toList ++ entries ∧
    entries.map Prod.fst = messages

theorem Extends.newMessages {before after : Outbox} {messages : List Message}
    (grown : Extends before after messages) : newMessages before after = messages := by
  obtain ⟨entries, queue, rfl⟩ := grown
  exact newMessages_of_append queue

theorem Extends.of_queue_eq {before after : Outbox} (queue : after.queue = before.queue) :
    Extends before after [] :=
  ⟨[], by rw [queue, List.append_nil], rfl⟩

theorem Extends.of_push {before after : Outbox} {message : Message} {credit : Nat}
    (queue : after.queue = before.queue.push (message, credit)) :
    Extends before after [message] :=
  ⟨[(message, credit)], by rw [queue, Fifo.toList_push], rfl⟩

theorem Extends.trans {first second third : Outbox} {before after : List Message}
    (one : Extends first second before) (two : Extends second third after) :
    Extends first third (before ++ after) := by
  obtain ⟨entries, queue, rfl⟩ := one
  obtain ⟨others, grown, rfl⟩ := two
  exact ⟨entries ++ others, by rw [grown, queue, List.append_assoc], List.map_append⟩

/-- What a close queues: a close, if nobody closed before and the transport is there. -/
def closing (box : Outbox) : List Message :=
  if box.closed = false ∧ box.attached = true then [.close] else []

theorem extends_close (box : Outbox) : Extends box box.close.1 box.closing := by
  unfold closing close
  split
  next isClosed =>
    rw [if_neg fun both => Bool.eq_false_iff.1 both.1 isClosed]
    exact .of_queue_eq rfl
  next isOpen =>
    split
    next isAttached =>
      rw [if_pos ⟨Bool.not_eq_true _ ▸ isOpen, isAttached⟩]
      exact .of_push rfl
    next isLeft =>
      rw [if_neg fun both => isLeft both.2]
      exact .of_queue_eq rfl

/-- What is queued by a close, which only the first one queues, and only for a transport. -/
theorem newMessages_close (box : Outbox) :
    newMessages box box.close.1 =
      if box.closed = false ∧ box.attached = true then [.close] else [] :=
  box.extends_close.newMessages

/-- What is queued by an exit status and a close together. -/
theorem newMessages_exit (box : Outbox) (status : UInt32) :
    newMessages box (box.exitStatus status).1.close.1 =
      if box.closed = false ∧ box.attached = true then [.exitStatus status, .close] else [] := by
  unfold exitStatus push
  split
  next isClosed =>
    rw [newMessages_close]
    simp only [isClosed, Bool.true_eq_false, false_and, if_false]
  next isOpen =>
    split
    next isAttached =>
      have canClose : box.closed = false ∧ box.attached = true :=
        ⟨Bool.not_eq_true _ ▸ isOpen, isAttached⟩
      let pushed := { box with queue := box.queue.push (.exitStatus status, 0) }
      have isPushed : Extends box pushed [.exitStatus status] := .of_push rfl
      have isClosing : pushed.closing = [.close] := if_pos canClose
      rw [if_pos canClose, (isPushed.trans pushed.extends_close).newMessages, isClosing]
      rfl
    next isLeft =>
      rw [newMessages_close, if_neg (fun both => isLeft both.2),
        if_neg (fun both => isLeft both.2)]

theorem close_closed (box : Outbox) : box.close.1.closed = true := by
  unfold close
  split
  next isClosed => exact isClosed
  · split <;> rfl

/-! ### Outputs that are closed -/

theorem push_of_closed {box : Outbox} (isClosed : box.closed = true) (message : Message)
    (credit : Nat) : box.push message credit = (box, .error .streamClosed) :=
  if_pos isClosed

theorem send_of_closed {box : Outbox} (isClosed : box.closed = true) (message : Message) :
    box.send message = (box, .done (.error .streamClosed)) :=
  if_pos isClosed

theorem trySend_of_closed {box : Outbox} (isClosed : box.closed = true) (message : Message) :
    box.trySend message = (box, .error .streamClosed) :=
  if_pos isClosed

theorem close_of_closed {box : Outbox} (isClosed : box.closed = true) :
    box.close = (box, .error .streamClosed) :=
  if_pos isClosed

/-! ### Sends that wait -/

@[simp] theorem push_sends (box : Outbox) (message : Message) (credit : Nat) :
    (box.push message credit).1.sends = box.sends := by
  unfold push
  split
  · rfl
  · split <;> rfl

@[simp] theorem close_sends (box : Outbox) : box.close.1.sends = box.sends := by
  unfold close
  split
  · rfl
  · split <;> rfl

/-- What an operation can do to the sends that wait. -/
inductive SendsEffect (before after : Outbox) (act : OutputAct) : Prop where
  /-- Nobody begins to wait, and nobody stops. -/
  | same (sends : after.sends = before.sends)
  /-- A send begins to wait, under the next ticket. -/
  | begun (code : Option UInt32) (content : ByteArray)
      (sends : after.sends = before.sends ++ [(before.nextTicket, .ofStream code content)])
  /-- A send goes on or is given up, and waits no more. -/
  | ended (ticket : Nat) (its : act.ticket? = some ticket)
      (sends : after.sends = before.sends.filter fun entry => entry.1 != ticket)

theorem send_sends (box : Outbox) (code : Option UInt32) (content : ByteArray) :
    SendsEffect box (box.send (.ofStream code content)).1 (.stream (.send code content)) := by
  unfold send
  split
  · exact .same rfl
  · split
    · exact .same rfl
    · exact .same (push_sends _ _ _)
    · exact .begun code content rfl

theorem resume_sends (box : Outbox) (ticket : Nat) :
    SendsEffect box (box.resume ticket).1 (.stream (.resume ticket)) := by
  unfold resume
  split
  · exact .same rfl
  · split
    · exact .same rfl
    · exact .ended ticket rfl rfl
    · exact .ended ticket rfl (push_sends _ _ _)

theorem trySend_sends (box : Outbox) (message : Message) :
    (box.trySend message).1.sends = box.sends := by
  unfold trySend
  split
  · rfl
  · split
    · rfl
    · rfl
    · exact push_sends _ _ _

theorem pollWrite_sends (box : Outbox) (writer : Nat) (code : Option UInt32)
    (content : ByteArray) : (box.pollWrite writer code content).1.sends = box.sends := by
  have frame := pollCredit_frame box writer (min content.size outputWindow)
  unfold pollWrite
  split
  · rfl
  · split
    · rfl
    · dsimp only
      split
      next polled =>
        rw [polled] at frame
        exact frame.sends
      next polled =>
        rw [polled] at frame
        exact frame.sends
      next polled =>
        rw [polled] at frame
        exact (push_sends _ _ _).trans frame.sends

theorem step_sends (box : Outbox) (act : OutputAct) : SendsEffect box (box.step act) act := by
  cases act with
  | stream act =>
      cases act with
      | send code content => exact box.send_sends code content
      | resume ticket => exact box.resume_sends ticket
      | cancel ticket =>
          show SendsEffect box (if (box.sends.lookup ticket).isSome then box.cancel ticket else box) _
          split
          · exact .ended ticket rfl rfl
          · exact .same rfl
      | trySend code content => exact .same (box.trySend_sends _)
      | eof => exact .same (push_sends box .eof 0)
      | pollWrite writer code content => exact .same (box.pollWrite_sends writer code content)
      | dropPoll writer => exact .same (dropPoll_frame box writer).sends
      | take =>
          refine .same ?_
          show (box.performStream .take).1.sends = box.sends
          unfold performStream
          cases taken : box.take? with
          | none => rfl
          | some pair =>
              simp only [take?, Option.map_eq_some_iff, Prod.exists] at taken
              obtain ⟨_, _, _, -, rfl⟩ := taken
              rfl
      | detach | addWriter | dropWriter => exact .same rfl
  | exitStatus status => exact .same (push_sends box (.exitStatus status) 0)
  | close => exact .same (close_sends box)

/-- A send that is told to wait has the next ticket. -/
theorem send_of_waiting {box : Outbox} {message : Message} {ticket : Nat}
    (waits : (box.send message).2 = .waiting ticket) :
    ticket = box.nextTicket ∧
      (box.send message).1.sends = box.sends ++ [(box.nextTicket, message)] := by
  revert waits
  unfold send
  split
  · exact nofun
  · split
    · exact nofun
    · exact nofun
    · exact fun waits => ⟨(Sending.waiting.inj waits).symm, rfl⟩

theorem mem_sends_of_waiting {box : Outbox} {message : Message} {ticket : Nat}
    (waits : (box.send message).2 = .waiting ticket) :
    (ticket, message) ∈ (box.send message).1.sends := by
  obtain ⟨rfl, sends⟩ := send_of_waiting waits
  exact sends ▸ List.mem_append_right _ (List.mem_singleton_self _)

/-- A send waits until it goes on or is given up, whatever else happens to the output. -/
theorem mem_sends_step {box : Outbox} {act : OutputAct} {entry : Nat × Message}
    (waits : entry ∈ box.sends) (isOther : act.ticket? ≠ some entry.1) :
    entry ∈ (box.step act).sends := by
  cases box.step_sends act with
  | same sends => exact sends ▸ waits
  | begun code content sends => exact sends ▸ List.mem_append_left _ waits
  | ended ticket its sends =>
      have different : entry.1 ≠ ticket := by
        rintro rfl
        exact isOther its
      exact sends ▸ List.mem_filter.2 ⟨waits, bne_iff_ne.2 different⟩

/-- A send that waits has waited before, or has the ticket that was next. -/
theorem mem_sends_of_step {box : Outbox} {act : OutputAct} {entry : Nat × Message}
    (waits : entry ∈ (box.step act).sends) : entry ∈ box.sends ∨ entry.1 = box.nextTicket := by
  cases box.step_sends act with
  | same sends => exact .inl (sends ▸ waits)
  | begun code content sends =>
      rw [sends] at waits
      rcases List.mem_append.1 waits with before | isNew
      · exact .inl before
      · exact .inr (congrArg Prod.fst (List.mem_singleton.1 isNew))
  | ended ticket _ sends =>
      rw [sends] at waits
      exact .inl (List.mem_filter.1 waits).1

/-- Only messages that can be followed by others ever wait for credit. -/
def SendsStream (box : Outbox) : Prop :=
  ∀ entry ∈ box.sends, entry.2.streams = true

theorem SendsStream.step {box : Outbox} (streams : box.SendsStream) (act : OutputAct) :
    (box.step act).SendsStream := by
  intro entry waits
  cases box.step_sends act with
  | same sends => exact streams entry (sends ▸ waits)
  | begun code content sends =>
      rw [sends] at waits
      rcases List.mem_append.1 waits with before | isNew
      · exact streams entry before
      · rw [List.mem_singleton.1 isNew]
        exact Message.streams_ofStream code content
  | ended ticket _ sends =>
      rw [sends] at waits
      exact streams entry (List.mem_filter.1 waits).1

/-! ### What a run keeps -/

/-- A closed output stays closed. -/
theorem closed_step {box : Outbox} (streams : box.SendsStream) (isClosed : box.closed = true)
    (act : OutputAct) : (box.step act).closed = true := by
  cases act with
  | stream act => exact (performStream_effect box act streams).closed_eq.trans isClosed
  | exitStatus status =>
      show (box.push (.exitStatus status) 0).1.closed = true
      rw [push, if_pos isClosed]
      exact isClosed
  | close => exact close_closed box

theorem SendsStream.run {box : Outbox} (streams : box.SendsStream) (acts : List OutputAct) :
    (box.run acts).SendsStream :=
  runFrom_induction Outbox.step SendsStream (fun _ act kept => kept.step act) streams acts

theorem closed_run {box : Outbox} (streams : box.SendsStream) (isClosed : box.closed = true)
    (acts : List OutputAct) : (box.run acts).closed = true := by
  have kept := runFrom_induction Outbox.step (fun box => box.SendsStream ∧ box.closed = true)
    (fun _ act kept => ⟨kept.1.step act, closed_step kept.1 kept.2 act⟩) ⟨streams, isClosed⟩ acts
  exact kept.2

/-- Nobody comes back to an output. -/
theorem attached_of_step {box : Outbox} (streams : box.SendsStream) {act : OutputAct}
    (attached : (box.step act).attached = true) : box.attached = true := by
  cases act with
  | stream act =>
      have effect := performStream_effect box act streams
      change (box.performStream act).1.attached = true at attached
      cases effect with
      | quiet _ _ same | queued _ _ _ _ _ _ _ same | taken _ _ _ same => exact same ▸ attached
      | left _ _ gone =>
          rw [gone] at attached
          exact absurd attached Bool.false_ne_true
  | exitStatus status =>
      change (box.push (.exitStatus status) 0).1.attached = true at attached
      unfold push at attached
      split at attached
      · exact attached
      · split at attached
        · exact attached
        · exact attached
  | close =>
      change box.close.1.attached = true at attached
      unfold close at attached
      split at attached
      · exact attached
      · split at attached
        · exact attached
        · exact attached

theorem attached_of_run {box : Outbox} (streams : box.SendsStream) (acts : List OutputAct)
    (attached : (box.run acts).attached = true) : box.attached = true := by
  induction acts generalizing box with
  | nil => exact attached
  | cons act rest inductionHypothesis =>
      exact attached_of_step streams (inductionHypothesis (streams.step act) attached)

end Outbox

end SshServer
