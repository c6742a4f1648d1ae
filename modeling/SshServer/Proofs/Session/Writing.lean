import SshServer.Channel.Stream
import SshServer.Proofs.Input.Stream
import SshServer.Proofs.Output.Window
import SshServer.Proofs.Session.Output

/-!
Contract: a text that is written to a stream of a session, poll by poll, arrives as it is.

Owns: what a single poll queues and says; a writing as a system of its polls, of its being given up
and of everything that others do to the session meanwhile; the account of its bytes; and that
`Outbox.writeAll` makes such polls for as long as they are met.
Does not own: when a poll is met (`Proofs.Output.Window`), and the order in which the transport is
given what was queued (`Proofs.Output.Delivery`).

Every poll of a writing is given all that is left of the text. A writing that is given up leaves the
place in which its last poll waits to the writer, who may poll again with another text or go.
-/

namespace SshServer

/-! ### Single polls -/

/-- A poll of a writer: what it was given, what it was told, and the messages that it queued. -/
structure WritePoll where
  content : ByteArray
  answer : Outbox.Polling
  queued : List Message

namespace WritePoll

/-- How many bytes the poll was told were taken. -/
def taken (poll : WritePoll) : Nat :=
  match poll.answer with
  | .ready (.ok count) => count
  | .ready (.error _) | .pending => 0

/-- What a poll of a stream can do. It queues nothing, or one message with as many bytes as the
window can hold. -/
inductive Fits (code : Option UInt32) : WritePoll → Prop where
  | empty {content : ByteArray} (nothing : content.size = 0) :
      Fits code ⟨content, .ready (.ok 0), []⟩
  | pending {content : ByteArray} (something : content.size ≠ 0) : Fits code ⟨content, .pending, []⟩
  | failed {content : ByteArray} (something : content.size ≠ 0) (cause : IoFailure) :
      Fits code ⟨content, .ready (.error cause), []⟩
  | queued {content : ByteArray} (something : content.size ≠ 0) :
      Fits code ⟨content, .ready (.ok (min content.size outputWindow)),
        [.ofStream code (content.extract 0 (min content.size outputWindow))]⟩

/-- What a poll queues is one piece of the stream or none, and as long as the poll says. -/
theorem Fits.pieces {code : Option UInt32} {poll : WritePoll} (fits : poll.Fits code) :
    ∃ pieces, poll.queued = pieces.map (Message.ofStream code) ∧
      joined pieces = poll.content.extract 0 poll.taken ∧ poll.taken ≤ poll.content.size := by
  cases fits with
  | empty | pending | failed =>
      refine ⟨[], rfl, ?_, Nat.zero_le _⟩
      show ByteArray.empty = ByteArray.extract _ 0 0
      exact (ByteArray.size_eq_zero_iff.1 (by rw [ByteArray.size_extract]; omega)).symm
  | queued =>
      refine ⟨[_], rfl, ?_, Nat.min_le_left _ _⟩
      rw [joined, joined, ByteArray.append_empty]
      rfl

end WritePoll

namespace Outbox

/-- A poll, as an onlooker sees it. -/
def writePoll (box : Outbox) (writer : Nat) (code : Option UInt32) (content : ByteArray) :
    WritePoll :=
  let polled := box.pollWrite writer code content
  { content, answer := polled.2, queued := newMessages box polled.1 }

/-- A poll that has its credit queues its message, or finds that nobody takes it. -/
theorem extends_pushPart {box polled : Outbox} (code : Option UInt32) {content : ByteArray}
    (something : content.size ≠ 0) (queue : polled.queue = box.queue)
    (isOpen : polled.closed = false) :
    let count := min content.size outputWindow
    let pushed := polled.push (.ofStream code (content.extract 0 count)) count
    ∃ messages, Extends box pushed.1 messages ∧
      WritePoll.Fits code
        ⟨content, .ready ((pushed.2.map fun _ => count).mapError Failure.toIo), messages⟩ := by
  intro count pushed
  unfold pushed push
  rw [isOpen, if_neg Bool.false_ne_true]
  split
  · have grown (message : Message) :
        polled.queue.push (message, count) = box.queue.push (message, count) := by rw [queue]
    exact ⟨_, .of_push (grown _), .queued something⟩
  · exact ⟨[], .of_queue_eq queue, .failed something _⟩

theorem extends_pollWrite (box : Outbox) (writer : Nat) (code : Option UInt32)
    (content : ByteArray) :
    ∃ messages, Extends box (box.pollWrite writer code content).1 messages ∧
      WritePoll.Fits code ⟨content, (box.pollWrite writer code content).2, messages⟩ := by
  unfold pollWrite
  split
  next nothing => exact ⟨[], .of_queue_eq rfl, .empty nothing⟩
  next something =>
    split
    · exact ⟨[], .of_queue_eq rfl, .failed something _⟩
    next isOpen =>
      have frame := pollCredit_frame box writer (min content.size outputWindow)
      dsimp only
      split
      next after polled =>
        rw [polled] at frame
        exact ⟨[], .of_queue_eq frame.queue, .pending something⟩
      next after polled =>
        rw [polled] at frame
        exact ⟨[], .of_queue_eq frame.queue, .failed something _⟩
      next after polled =>
        rw [polled] at frame
        exact extends_pushPart code something frame.queue
          (frame.closed.trans (Bool.not_eq_true _ ▸ isOpen))

theorem writePoll_fits (box : Outbox) (writer : Nat) (code : Option UInt32) (content : ByteArray) :
    (box.writePoll writer code content).Fits code := by
  obtain ⟨messages, grown, fits⟩ := box.extends_pollWrite writer code content
  unfold writePoll
  rw [← grown.newMessages] at fits
  exact fits

end Outbox

/-! ### Writings -/

inductive WritingStage where
  | underWay
  | over (result : Except IoFailure Unit)
  | givenUp

/-- A text that is written to a stream of a session. -/
structure Writing where
  session : Session
  /-- What no poll has taken yet. -/
  rest : ByteArray
  stage : WritingStage := .underWay

inductive WritingAct where
  | poll
  | giveUp
  /-- Anything that happens to the session meanwhile. -/
  | other (act : SessionAct)

namespace Writing

/-- What the next poll is given: all that is left. There is no next poll once nothing is left or the
writing has come to its end. -/
def due (writing : Writing) : Option ByteArray :=
  match writing.stage with
  | .underWay => if writing.rest.size = 0 then none else some writing.rest
  | .over _ | .givenUp => none

/-- A writing comes to an end. The first end counts. -/
def settle (writing : Writing) (stage : WritingStage) : Writing :=
  match writing.stage with
  | .underWay => { writing with stage }
  | .over _ | .givenUp => writing

/-- Goes on as the answer to a poll says. -/
def heed (writing : Writing) : Outbox.Polling → Writing
  | .pending => writing
  | .ready (.error cause) => writing.settle (.over (.error cause))
  | .ready (.ok count) => { writing with rest := writing.rest.extract count writing.rest.size }

section System

variable (writer : Nat) (code : Option UInt32)

def pollAct (content : ByteArray) : SessionAct :=
  .output (.pollWrite writer code content)

def step (writing : Writing) : WritingAct → Writing
  | .poll =>
    match writing.due with
    | none => writing.settle (.over (.ok ()))
    | some content =>
      let answer := (writing.session.channel.output.pollWrite writer code content).2
      { writing with session := writing.session.step (pollAct writer code content) }.heed answer
  | .giveUp => writing.settle .givenUp
  | .other act => { writing with session := writing.session.step act }

def run (writing : Writing) (acts : List WritingAct) : Writing :=
  runFrom (step writer code) writing acts

/-- The poll that an operation makes, if it makes one. -/
def pollsBy (writing : Writing) : WritingAct → List WritePoll
  | .poll => writing.due.toList.map (writing.session.channel.output.writePoll writer code)
  | .giveUp | .other _ => []

/-- The polls of a writing, one after another. -/
def polls (writing : Writing) (acts : List WritingAct) : List WritePoll :=
  observed (step writer code) (pollsBy writer code) writing acts

/-- What an operation does to the session. -/
def sessionActsBy (writing : Writing) : WritingAct → List SessionAct
  | .poll => writing.due.toList.map (pollAct writer code)
  | .giveUp => []
  | .other act => [act]

/-- All that happens to the session while a text is written, by the writing and by others. -/
def sessionActs (writing : Writing) (acts : List WritingAct) : List SessionAct :=
  observed (step writer code) (sessionActsBy writer code) writing acts

end System

variable {writer : Nat} {code : Option UInt32}

@[simp] theorem settle_session (writing : Writing) (stage : WritingStage) :
    (writing.settle stage).session = writing.session := by
  unfold settle
  split <;> rfl

@[simp] theorem settle_rest (writing : Writing) (stage : WritingStage) :
    (writing.settle stage).rest = writing.rest := by
  unfold settle
  split <;> rfl

@[simp] theorem heed_session (writing : Writing) (answer : Outbox.Polling) :
    (writing.heed answer).session = writing.session := by
  unfold heed
  split
  · rfl
  · exact writing.settle_session _
  · rfl

theorem due_eq_some {writing : Writing} {content : ByteArray} (due : writing.due = some content) :
    writing.stage = .underWay ∧ content = writing.rest ∧ writing.rest.size ≠ 0 := by
  unfold Writing.due at due
  split at due
  next underWay =>
    split at due
    · exact absurd due (Option.some_ne_none _).symm
    next something => exact ⟨underWay, (Option.some.inj due).symm, something⟩
  · exact absurd due (Option.some_ne_none _).symm
  · exact absurd due (Option.some_ne_none _).symm

theorem due_eq_none {writing : Writing} (due : writing.due = none)
    (underWay : writing.stage = .underWay) : writing.rest.size = 0 := by
  rw [Writing.due, underWay] at due
  by_contra something
  rw [if_neg something] at due
  exact absurd due (Option.some_ne_none _)

/-- What a poll leaves to be written is what it was told was not taken. -/
theorem heed_rest (writing : Writing) (poll : WritePoll) :
    (writing.heed poll.answer).rest = writing.rest.extract poll.taken writing.rest.size := by
  unfold heed WritePoll.taken
  split
  next pending =>
    rw [pending]
    exact ByteArray.extract_zero_size.symm
  next failed =>
    rw [failed, settle_rest]
    exact ByteArray.extract_zero_size.symm
  next taken => rw [taken]

/-! ### The account of a writing -/

/-- The polls queued pieces of the stream, which are the beginning of the text and as long as the
polls say; the rest is still to be written. -/
structure Wrote (code : Option UInt32) (text : ByteArray) (polls : List WritePoll)
    (rest : ByteArray) : Prop where
  pieces : ∃ pieces, polls.flatMap WritePoll.queued = pieces.map (Message.ofStream code) ∧
    joined pieces ++ rest = text ∧ (joined pieces).size = (polls.map WritePoll.taken).sum

theorem Wrote.none (text : ByteArray) : Wrote code text [] text :=
  ⟨[], rfl, ByteArray.empty_append, rfl⟩

theorem Wrote.append {text middle rest : ByteArray} {first later : List WritePoll}
    (before : Wrote code text first middle) (after : Wrote code middle later rest) :
    Wrote code text (first ++ later) rest := by
  obtain ⟨pieces, queued, split, size⟩ := before
  obtain ⟨others, queuedToo, splitToo, sizeToo⟩ := after
  refine ⟨pieces ++ others, ?_, ?_, ?_⟩
  · rw [List.flatMap_append, queued, queuedToo, List.map_append]
  · rw [joined_append, ByteArray.append_assoc, splitToo, split]
  · rw [joined_append, ByteArray.size_append, size, sizeToo, List.map_append, List.sum_append]

theorem Wrote.poll {poll : WritePoll} (fits : poll.Fits code) :
    Wrote code poll.content [poll] (poll.content.extract poll.taken poll.content.size) := by
  obtain ⟨pieces, queued, beginning, within⟩ := fits.pieces
  refine ⟨pieces, ?_, ?_, ?_⟩
  · rw [List.flatMap_singleton, queued]
  · rw [beginning, extract_append_rest]
  · rw [beginning, ByteArray.size_extract, List.map_singleton, List.sum_singleton]
    omega

/-- The bytes that were queued are the first of the text. -/
theorem Wrote.beginning {text rest : ByteArray} {polls : List WritePoll}
    (wrote : Wrote code text polls rest) :
    ∃ pieces, polls.flatMap WritePoll.queued = pieces.map (Message.ofStream code) ∧
      joined pieces = text.extract 0 (polls.map WritePoll.taken).sum ∧
      (polls.map WritePoll.taken).sum ≤ text.size ∧ (rest.size = 0 → joined pieces = text) := by
  obtain ⟨pieces, queued, rfl, size⟩ := wrote
  refine ⟨pieces, queued, ?_, ?_, ?_⟩
  · rw [← size, ByteArray.extract_append_eq_left rfl]
  · rw [← size, ByteArray.size_append]
    exact Nat.le_add_right _ _
  · intro nothing
    rw [ByteArray.size_eq_zero_iff.1 nothing, ByteArray.append_empty]

/-! ### Steps and runs -/

theorem wrote_step (writing : Writing) (act : WritingAct) :
    Wrote code writing.rest (writing.pollsBy writer code act)
      (writing.step writer code act).rest := by
  cases act with
  | giveUp => exact (writing.settle_rest _).symm ▸ .none _
  | other act => exact .none _
  | poll =>
      unfold step pollsBy
      cases due : writing.due with
      | none => exact (writing.settle_rest _).symm ▸ .none _
      | some content =>
          obtain ⟨-, rfl, -⟩ := due_eq_some due
          have fits := writing.session.channel.output.writePoll_fits writer code writing.rest
          have rest := heed_rest
            { writing with session := writing.session.step (pollAct writer code writing.rest) }
            (writing.session.channel.output.writePoll writer code writing.rest)
          exact rest.symm ▸ Wrote.poll fits

theorem wrote_run (writing : Writing) (acts : List WritingAct) :
    Wrote code writing.rest (writing.polls writer code acts)
      (writing.run writer code acts).rest := by
  induction acts generalizing writing with
  | nil => exact .none _
  | cons act rest inductionHypothesis =>
      exact (wrote_step writing act).append (inductionHypothesis (writing.step writer code act))

/-- A writing that is over without a fault has nothing left. -/
def Complete (writing : Writing) : Prop :=
  writing.stage = .over (.ok ()) → writing.rest.size = 0

theorem Complete.settle {writing : Writing} (complete : writing.Complete) {stage : WritingStage}
    (nothing : writing.stage = .underWay → stage = .over (.ok ()) → writing.rest.size = 0) :
    (writing.settle stage).Complete := by
  unfold Writing.settle
  split
  next underWay => exact nothing underWay
  · exact complete
  · exact complete

theorem Complete.step {writing : Writing} (complete : writing.Complete) (act : WritingAct) :
    (writing.step writer code act).Complete := by
  cases act with
  | giveUp => exact complete.settle fun _ => nofun
  | other act => exact complete
  | poll =>
      unfold Writing.step
      cases due : writing.due with
      | none => exact complete.settle fun underWay _ => due_eq_none due underWay
      | some content =>
          have underWay := (due_eq_some due).1
          dsimp only
          unfold heed
          split
          · exact complete
          next cause _ =>
            have same : Writing.Complete
              { writing with session := writing.session.step (pollAct writer code content) } := complete
            exact same.settle fun _ => nofun
          · exact fun isOver => absurd (underWay.symm.trans isOver) nofun

/-! ### The session meanwhile -/

theorem step_session (writing : Writing) (act : WritingAct) :
    (writing.step writer code act).session =
      writing.session.run (writing.sessionActsBy writer code act) := by
  cases act with
  | giveUp => exact settle_session _ _
  | other act => rfl
  | poll =>
      unfold step sessionActsBy
      cases writing.due with
      | none => exact settle_session _ _
      | some content => exact heed_session _ _

/-- A writing and all that goes on around it are one run of the session. -/
theorem run_session (writing : Writing) (acts : List WritingAct) :
    (writing.run writer code acts).session =
      writing.session.run (writing.sessionActs writer code acts) := by
  induction acts generalizing writing with
  | nil => rfl
  | cons act rest inductionHypothesis =>
      have later := inductionHypothesis (writing.step writer code act)
      rw [step_session] at later
      exact later.trans (runFrom_append Session.step writing.session _ _).symm

/-- What the polls queue, the session queues, in the same order among the messages of others. -/
theorem queued_sublist (writing : Writing) (acts : List WritingAct) :
    ((writing.polls writer code acts).flatMap WritePoll.queued).Sublist
      (writing.session.queuedIn (writing.sessionActs writer code acts)) := by
  induction acts generalizing writing with
  | nil => exact List.Sublist.refl _
  | cons act rest inductionHypothesis =>
      have later := inductionHypothesis (writing.step writer code act)
      rw [step_session] at later
      have now : ((writing.pollsBy writer code act).flatMap WritePoll.queued).Sublist
          (writing.session.queuedIn (writing.sessionActsBy writer code act)) := by
        cases act with
        | giveUp | other => exact List.nil_sublist _
        | poll =>
            unfold pollsBy sessionActsBy
            cases writing.due with
            | none => exact List.Sublist.refl _
            | some content => exact List.Sublist.refl _
      have whole : writing.session.queuedIn (writing.sessionActs writer code (act :: rest)) =
          writing.session.queuedIn (writing.sessionActsBy writer code act) ++
            (writing.session.run (writing.sessionActsBy writer code act)).queuedIn
              ((writing.step writer code act).sessionActs writer code rest) :=
        observed_append Session.step Session.queuedBy writing.session _ _
      rw [whole]
      show (List.flatMap WritePoll.queued (_ ++ _)).Sublist _
      rw [List.flatMap_append]
      exact now.append later

theorem polls_fit (writing : Writing) (acts : List WritingAct) :
    ∀ poll ∈ writing.polls writer code acts, poll.Fits code := by
  refine forall_observed (step writer code) (fun _ => True) _ (fun _ _ _ => trivial) ?_ trivial acts
  intro writing act _ poll made
  cases act with
  | giveUp | other => exact absurd made List.not_mem_nil
  | poll =>
      obtain ⟨content, -, rfl⟩ := List.mem_map.1 made
      exact writing.session.channel.output.writePoll_fits writer code content

/-- Whatever others do to the session, and wherever the writing stops: each poll queued nothing, or
one message with as many bytes as it was told were taken; the messages are of the stream, and
together they are the first bytes of the text, as many as the polls say; and a writing that is over
without a fault has written all of it. -/
theorem written_as_reported (session : Session) (writer : Nat) (code : Option UInt32)
    (text : ByteArray) (acts : List WritingAct) :
    let start : Writing := { session, rest := text }
    let writing := start.run writer code acts
    let polls := start.polls writer code acts
    let happened := start.sessionActs writer code acts
    writing.session = session.run happened ∧
      (∀ content, (writing.session.channel.output.writePoll writer code content).Fits code) ∧
      (∀ poll ∈ polls, poll.Fits code) ∧
      (polls.flatMap WritePoll.queued).Sublist (session.queuedIn happened) ∧
      ∃ pieces, polls.flatMap WritePoll.queued = pieces.map (Message.ofStream code) ∧
        joined pieces = text.extract 0 (polls.map WritePoll.taken).sum ∧
        (polls.map WritePoll.taken).sum ≤ text.size ∧
        (writing.stage = .over (.ok ()) → joined pieces = text) := by
  intro start writing polls happened
  have atFirst : start.Complete := by
    intro isOver
    cases isOver
  have complete : writing.Complete :=
    runFrom_induction (step writer code) Complete (fun _ act kept => kept.step act) atFirst acts
  have wrote : Wrote code text polls writing.rest := start.wrote_run acts
  obtain ⟨pieces, queued, beginning, within, whole⟩ := wrote.beginning
  refine ⟨start.run_session acts, fun content => Outbox.writePoll_fits _ writer code content,
    start.polls_fit acts, start.queued_sublist acts, pieces, queued, beginning, within, ?_⟩
  exact fun isOver => whole (complete isOver)

/-- Somebody else writes to the standard error and closes the session while a text is written. -/
theorem written_as_reported_among_others :
    let session := Session.onOffer default [] ⟨"session", ByteArray.empty⟩ true
    let start : Writing := { session, rest := ⟨#[97, 98]⟩ }
    let acts : List WritingAct :=
      [.other (.write (some standardError) ⟨#[99]⟩), .poll, .other (.output .take), .other .close,
        .poll, .giveUp]
    (start.run 0 none acts).stage = .over (.ok ()) ∧
      (start.polls 0 none acts).flatMap WritePoll.queued = [.data ⟨#[97, 98]⟩] ∧
      ∃ pieces, (start.polls 0 none acts).flatMap WritePoll.queued =
        pieces.map (Message.ofStream none) ∧ joined pieces = ⟨#[97, 98]⟩ :=
  have reported := written_as_reported (.onOffer default [] ⟨"session", ByteArray.empty⟩ true) 0 none
    ⟨#[97, 98]⟩
      [.other (.write (some standardError) ⟨#[99]⟩), .poll, .other (.output .take), .other .close,
        .poll, .giveUp]
  ⟨rfl, rfl, reported.2.2.2.2.imp fun _ told => ⟨told.1, told.2.2.2 rfl⟩⟩

/-! ### Writing all of a text at one go -/

/-- A writing stands where an operation on a stream has got to. -/
def StandsAt (writing : Writing) : Progress ByteArray (Except IoFailure Unit) → Prop
  | .waiting rest => writing.stage = .underWay ∧ writing.rest = rest
  | .finished result => writing.stage = .over result

/-- What `Outbox.writeAll` does is what a few polls of a writing do, and both get equally far. -/
theorem standsAt_writeAll (limit : Nat) {writing : Writing} (underWay : writing.stage = .underWay) :
    let written := writing.session.channel.output.writeAll writer code limit writing.rest
    ∃ count ≤ limit,
      let after := writing.run writer code (List.replicate count .poll)
      after.session.channel.output = written.1 ∧ after.StandsAt written.2 := by
  induction limit generalizing writing with
  | zero => exact ⟨0, Nat.le_refl _, rfl, underWay, rfl⟩
  | succ limit inductionHypothesis =>
      unfold Outbox.writeAll
      split
      next nothing =>
        refine ⟨1, Nat.succ_le_succ (Nat.zero_le _), ?_⟩
        have isDue : writing.due = none := by rw [due, underWay, if_pos nothing]
        have stepped : writing.step writer code .poll = { writing with stage := .over (.ok ()) } := by
          simp only [step, isDue, settle, underWay]
        exact ⟨congrArg (·.session.channel.output) stepped, congrArg Writing.stage stepped⟩
      next something =>
        have isDue : writing.due = some writing.rest := by rw [due, underWay, if_neg something]
        let polled : Writing :=
          { writing with session := writing.session.step (pollAct writer code writing.rest) }
        cases answered : writing.session.channel.output.pollWrite writer code writing.rest with
        | mk box answer =>
            have output : polled.session.channel.output = box := congrArg Prod.fst answered
            have stepped : writing.step writer code .poll = polled.heed answer := by
              simp only [step, isDue, answered, polled]
            have once : writing.run writer code (List.replicate 1 .poll) = polled.heed answer := stepped
            match answer with
            | .pending =>
                refine ⟨1, Nat.succ_le_succ (Nat.zero_le _), ?_⟩
                rw [once]
                exact ⟨output, underWay, rfl⟩
            | .ready (.error cause) =>
                refine ⟨1, Nat.succ_le_succ (Nat.zero_le _), ?_⟩
                have settled : polled.heed (.ready (.error cause)) =
                    { polled with stage := .over (.error cause) } := by
                  simp only [heed, settle, polled, underWay]
                rw [once, settled]
                exact ⟨output, rfl⟩
            | .ready (.ok taken) =>
                let next : Writing :=
                  { polled with rest := writing.rest.extract taken writing.rest.size }
                obtain ⟨count, within, goesOn⟩ := @inductionHypothesis next underWay
                rw [show next.session.channel.output = box from output] at goesOn
                refine ⟨count + 1, Nat.succ_le_succ within, ?_⟩
                have runs : writing.run writer code (List.replicate (count + 1) .poll) =
                    next.run writer code (List.replicate count .poll) := by
                  rw [List.replicate_succ, run, runFrom, List.foldl_cons, stepped]
                  rfl
                rw [runs]
                exact goesOn

/-- With as many polls as a text can take, `Outbox.writeAll` waits only because its last poll was
told to wait. -/
theorem pending_of_writeAll {limit : Nat} {box after : Outbox} {rest left : ByteArray}
    (enough : rest.size + outputWindow ≤ limit * outputWindow)
    (waits : box.writeAll writer code limit rest = (after, .waiting left)) :
    ∃ before : Outbox, before.pollWrite writer code left = (after, .pending) := by
  induction limit generalizing box rest with
  | zero =>
      rw [Nat.zero_mul, outputWindow] at enough
      omega
  | succ limit inductionHypothesis =>
      unfold Outbox.writeAll at waits
      split at waits
      · simp at waits
      next something =>
        split at waits
        next polled =>
          simp only [Prod.mk.injEq, Progress.waiting.injEq] at waits
          obtain ⟨rfl, rfl⟩ := waits
          exact ⟨box, polled⟩
        · simp at waits
        next taken polled =>
          obtain ⟨_, -, fits⟩ := box.extends_pollWrite writer code rest
          rw [polled] at fits
          refine inductionHypothesis ?_ waits
          cases fits with
          | empty nothing => exact absurd nothing something
          | queued =>
              rw [ByteArray.size_extract]
              rw [outputWindow] at enough ⊢
              omega

theorem pending_of_writeAll_pollsFor {box after : Outbox} {text left : ByteArray}
    (waits : box.writeAll writer code (Outbox.pollsFor text) text = (after, .waiting left)) :
    ∃ before : Outbox, before.pollWrite writer code left = (after, .pending) := by
  refine pending_of_writeAll ?_ waits
  rw [Outbox.pollsFor, outputWindow]
  omega

end Writing

end SshServer
