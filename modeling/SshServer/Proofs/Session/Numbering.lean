import SshServer.Proofs.Session.Answers
import SshServer.Proofs.Session.Attention

/-!
Contract: the events of a kind are passed on in the order in which they were accepted, so that each
of them has a number.

Owns: when an event was handed over, by its number; where the events are as long as the loop goes
on, be the session open or not; and that the numbers are right after every run.
Does not own: in which order events of different kinds are passed on (`Proofs.Session.SizesFirst`).

A session that was closed accepts nothing more, but its loop may be in the middle of handing over
events, and goes on with them until it has to wait.
-/

namespace SshServer

/-- Whether the event in hand is handed over or lost. -/
def DeskEntry.concludes {α : Type} : DeskEntry α → Bool
  | .handed | .lost => true
  | .registered _ | .took _ _ | .dropped _ | .takenUp _ _ => false

namespace DeskBook

variable {α : Type}

theorem passed_foldl {entries : List (DeskEntry α)}
    (none : ∀ entry ∈ entries, entry.concludes = false) (book : DeskBook α) :
    (entries.foldl enter book).passed = book.passed := by
  induction entries generalizing book with
  | nil => rfl
  | cons entry rest inductionHypothesis =>
      obtain ⟨first, later⟩ := List.forall_mem_cons.1 none
      rw [List.foldl_cons, inductionHypothesis later]
      cases entry with
      | registered | took | dropped | takenUp => rfl
      | handed | lost => exact absurd first Bool.true_eq_false.mp

theorem passed_prefix (book : DeskBook α) (entries : List (DeskEntry α)) :
    book.passed <+: (entries.foldl enter book).passed := by
  induction entries generalizing book with
  | nil => exact List.prefix_rfl
  | cons entry rest inductionHypothesis =>
      refine List.IsPrefix.trans ?_ (inductionHypothesis (book.enter entry))
      cases entry with
      | registered | took | dropped | takenUp => exact List.prefix_rfl
      | handed | lost => exact List.prefix_append _ _

end DeskBook

namespace Session

/-- The event that was accepted under a number, counted from zero, has been handed to its
receiver. -/
def HandedOver (start : Session) (stage : FlushStage) (acts : List SessionAct) (number : Nat) :
    Prop :=
  ∃ parcel, (start.deskBook stage acts).passed[number]? = some (parcel, true)

theorem handedOver_iff {start : Session} {stage : FlushStage} {acts : List SessionAct}
    {number : Nat} : start.HandedOver stage acts number ↔
      (start.deskBook stage acts).passed[number]?.map Prod.snd = some true := by
  rw [Option.map_eq_some_iff]
  constructor
  · rintro ⟨parcel, found⟩
    exact ⟨(parcel, true), found, rfl⟩
  · rintro ⟨⟨parcel, _⟩, found, rfl⟩
    exact ⟨parcel, found⟩

instance (start : Session) (stage : FlushStage) (acts : List SessionAct) (number : Nat) :
    Decidable (start.HandedOver stage acts number) :=
  decidable_of_iff _ handedOver_iff.symm

/-- The book of a run goes on from that of its first part. -/
theorem deskBook_append (start : Session) (stage : FlushStage) (earlier later : List SessionAct) :
    start.deskBook stage (earlier ++ later) =
      ((start.run earlier).deskEntriesIn stage later).foldl DeskBook.enter
        (start.deskBook stage earlier) := by
  have entries : start.deskEntriesIn stage (earlier ++ later) =
      start.deskEntriesIn stage earlier ++ (start.run earlier).deskEntriesIn stage later :=
    observed_append step _ start earlier later
  rw [deskBook, entries]
  exact List.foldl_append

/-- What became of an event is not revised. -/
theorem passed_run (start : Session) (stage : FlushStage) (earlier later : List SessionAct) :
    (start.deskBook stage earlier).passed <+: (start.deskBook stage (earlier ++ later)).passed := by
  rw [deskBook_append]
  exact DeskBook.passed_prefix _ _

/-- An event that was lost is not handed over any more. -/
theorem not_handedOver_of_lost {start : Session} {stage : FlushStage} {acts : List SessionAct}
    {number : Nat} {parcel : Parcel stage.Event}
    (lost : (start.deskBook stage acts).passed[number]? = some (parcel, false))
    (more : List SessionAct) : ¬start.HandedOver stage (acts ++ more) number := by
  rintro ⟨other, isOther⟩
  obtain ⟨known, isEntry⟩ := List.getElem?_eq_some_iff.1 lost
  have stays := List.prefix_iff_getElem?.1 (start.passed_run stage acts more) number known
  rw [isEntry, isOther] at stays
  exact absurd (Prod.mk.inj (Option.some.inj stays)).2 Bool.true_eq_false.mp

/-! ### Steps that conclude -/

section Steps

variable {session middle : Session} {stage : FlushStage} {act : SessionAct}

theorem outcomeOf_of_other {event : Handover} (other : event.stage ≠ stage) :
    session.outcomeOf stage event = [] :=
  if_neg other

/-- The loop hands over an event of the stage. -/
inductive Concludes (session : Session) (stage : FlushStage) : Prop where
  | takesUp (current : FlushStage) (request : Option (Request × Bool)) (event : Handover)
      (middle : Session) (phase : session.phase = .flushing current request)
      (next : session.nextEvent? current = some (event, middle)) (own : event.stage = stage)
  | triesAgain (event : Handover) (request : Option (Request × Bool))
      (phase : session.phase = .handing event request) (isOpen : session.closed = false)
      (own : event.stage = stage)

/-- The loop concludes something only where it hands over an event. -/
theorem concludes_of_loopEntries {entry : DeskEntry stage.Event}
    (member : entry ∈ session.loopEntries stage) (concludes : entry.concludes = true) :
    session.Concludes stage := by
  unfold loopEntries at member
  cases phase : session.phase with
  | parked | draining | finished | cancelled =>
      rw [phase] at member
      exact absurd member List.not_mem_nil
  | flushing current request =>
      rw [phase] at member
      dsimp only at member
      cases next : session.nextEvent? current with
      | none =>
          rw [next] at member
          exact absurd member List.not_mem_nil
      | some taken =>
          obtain ⟨event, middle⟩ := taken
          rw [next] at member
          by_cases own : event.stage = stage
          · exact .takesUp current request event middle phase next own
          · dsimp only at member
            rw [outcomeOf_of_other own, List.append_nil] at member
            obtain ⟨taken, -, rfl⟩ := Option.map_eq_some_iff.1 (Option.mem_toList.1 member)
            exact absurd concludes Bool.false_ne_true
  | handing event request =>
      rw [phase] at member
      dsimp only at member
      split at member
      · exact absurd member List.not_mem_nil
      next isOpen =>
        by_cases own : event.stage = stage
        · exact .triesAgain event request phase (Bool.eq_false_iff.2 isOpen) own
        · rw [outcomeOf_of_other own] at member
          exact absurd member List.not_mem_nil

/-- Nobody but the loop concludes anything. -/
theorem quiet_of_other (other : act ≠ .advance) {entry : DeskEntry stage.Event}
    (member : entry ∈ session.deskEntries stage act) : entry.concludes = false := by
  have ofOnly {only : DeskEntry stage.Event} (quiet : only.concludes = false)
      (isOnly : entry ∈ [only]) : entry.concludes = false :=
    List.mem_singleton.1 isOnly ▸ quiet
  cases act with
  | advance => exact absurd rfl other
  | takeTerminal =>
      cases stage with
      | signals => exact absurd member List.not_mem_nil
      | windows =>
          obtain ⟨receiver, -, rfl⟩ := List.mem_map.1 member
          rfl
  | reregisterSignals receiver =>
      cases stage with
      | windows => exact absurd member List.not_mem_nil
      | signals =>
          rw [deskEntries] at member
          split at member
          · exact ofOnly rfl member
          · exact absurd member List.not_mem_nil
  | takeWindow receiver =>
      cases stage with
      | signals => exact absurd member List.not_mem_nil
      | windows =>
          obtain ⟨taken, -, rfl⟩ := Option.map_eq_some_iff.1 (Option.mem_toList.1 member)
          rfl
  | takeSignal receiver =>
      cases stage with
      | windows => exact absurd member List.not_mem_nil
      | signals =>
          obtain ⟨taken, -, rfl⟩ := Option.map_eq_some_iff.1 (Option.mem_toList.1 member)
          rfl
  | dropWindows receiver =>
      cases stage with
      | windows => exact ofOnly rfl member
      | signals => exact absurd member List.not_mem_nil
  | registerSignals | dropSignals =>
      cases stage with
      | windows => exact absurd member List.not_mem_nil
      | signals => exact ofOnly rfl member
  | write | shutdown | exit | close | output | input | requests | endHandler | loseHandler
  | cancel =>
      cases stage with
      | windows => exact absurd member List.not_mem_nil
      | signals => exact absurd member List.not_mem_nil

theorem concludes_of_entry {entry : DeskEntry stage.Event}
    (member : entry ∈ session.deskEntries stage act) (concludes : entry.concludes = true) :
    act = .advance ∧ session.Concludes stage := by
  by_cases isAdvance : act = .advance
  · subst isAdvance
    rw [deskEntries_advance] at member
    exact ⟨rfl, concludes_of_loopEntries member concludes⟩
  · exact absurd (concludes.symm.trans (quiet_of_other isAdvance member)) Bool.true_eq_false.mp

/-- A step that concludes something is an attempt to hand over an event, and the loop goes on. -/
theorem Concludes.step (concludes : session.Concludes stage) :
    ∃ (middle : Session) (event : Handover) (request : Option (Request × Bool)),
      session.step .advance = middle.settle event request := by
  cases concludes with
  | takesUp current request event middle phase next =>
      exact ⟨middle, event, request, advance_of_next phase next⟩
  | triesAgain event request phase isOpen =>
      exact ⟨session, event, request, advance_of_handing phase isOpen⟩

theorem goesOn_of_settle (session : Session) (event : Handover)
    (request : Option (Request × Bool)) :
    (session.settle event request).phase.leftOff = false := by
  rcases session.settle_cases event request with ⟨after, -, same⟩ | same
  · rw [same]
    rfl
  · rw [same]
    rfl

/-- Where the loop hands over no event, nothing becomes of any. -/
theorem passed_of_quiet {start : Session} {acts : List SessionAct}
    (quiet : ¬(act = .advance ∧ (start.run acts).Concludes stage)) :
    (start.deskBook stage (acts ++ [act])).passed = (start.deskBook stage acts).passed := by
  have entries : (start.run acts).deskEntriesIn stage [act] =
      (start.run acts).deskEntries stage act := List.append_nil _
  rw [deskBook_append, entries]
  apply DeskBook.passed_foldl
  intro entry member
  rw [← Bool.not_eq_true]
  exact fun concludes => quiet (concludes_of_entry member concludes)

/-- Where the loop leaves off, or has done so before, nothing is concluded. -/
theorem passed_of_leftOff (start : Session) {acts : List SessionAct}
    (leftOff : (start.run (acts ++ [act])).phase.leftOff = true) :
    (start.deskBook stage (acts ++ [act])).passed = (start.deskBook stage acts).passed := by
  apply passed_of_quiet
  rintro ⟨rfl, isLoop⟩
  obtain ⟨middle, event, request, settles⟩ := isLoop.step
  rw [run_snoc, settles, goesOn_of_settle] at leftOff
  exact Bool.false_ne_true leftOff

/-- An event that is handed over with some operation is handed over by the loop. -/
theorem concludes_of_handedOver {start : Session} {acts : List SessionAct} {number : Nat}
    (notYet : ¬start.HandedOver stage acts number)
    (now : start.HandedOver stage (acts ++ [act]) number) :
    act = .advance ∧ (start.run acts).Concludes stage := by
  by_contra notLoop
  unfold HandedOver at now
  rw [passed_of_quiet notLoop] at now
  exact notYet now

/-! ### What waits in the feeds -/

theorem pending_settle (session : Session) (event : Handover) (request : Option (Request × Bool))
    (stage : FlushStage) :
    ((session.settle event request).feed stage).pending = (session.feed stage).pending := by
  rcases session.settle_cases event request with ⟨after, delivery, same⟩ | same
  · obtain ⟨_, _, _, _, -, events⟩ := deliver_cases delivery
    rw [same]
    cases stage with
    | windows => exact events.1.1
    | signals => exact events.2.1
  · rw [same]
    cases stage with
    | windows => rfl
    | signals => rfl

/-- An event that is taken up is the first of its feed. -/
theorem pending_of_next {current : FlushStage} {event : Handover}
    (next : session.nextEvent? current = some (event, middle)) (stage : FlushStage) :
    ([event].filterMap fun event => (event.inStage? stage).map Prod.snd) ++
      (middle.feed stage).pending = (session.feed stage).pending := by
  rcases nextEvent_cases next with
    ⟨_, size, rest, rfl, pending, rfl⟩ | ⟨_, raised, rest, rfl, pending, rfl⟩
  · cases stage with
    | windows => exact pending.symm
    | signals => rfl
  · cases stage with
    | windows => rfl
    | signals => exact pending.symm

/-- A loop that waits and takes up no request leaves the events in the feeds. -/
theorem LoopStep.pending_of_parked {after : Session} (step : LoopStep session after)
    (parked : session.phase = .parked) (noRequest : session.nextRequest? = none)
    (goesOn : after.phase.leftOff = false) (stage : FlushStage) :
    (after.feed stage).pending = (session.feed stage).pending := by
  cases step with
  | noticed => cases stage <;> rfl
  | dispatched request requests _ isOpen notice taken =>
      rw [nextRequest?, if_pos ⟨parked, isOpen, notice⟩, taken] at noRequest
      exact absurd noRequest (Option.some_ne_none _)
  | finished _ flushing => exact absurd (parked.symm.trans flushing) LoopPhase.noConfusion
  | handed _ _ _ _ source =>
      rcases source with ⟨_, flushing, -⟩ | ⟨handing, -, -⟩
      · exact absurd (parked.symm.trans flushing) LoopPhase.noConfusion
      · exact absurd (parked.symm.trans handing) LoopPhase.noConfusion
  | waits _ _ _ flushing => exact absurd (parked.symm.trans flushing) LoopPhase.noConfusion
  | stopped | drained => exact absurd goesOn Bool.true_eq_false.mp

/-- A step of the loop that takes up no request and does not end it leaves the events in the feeds,
but for those that it takes up. -/
theorem pending_advance (noRequest : session.nextRequest? = none)
    (goesOn : (session.step .advance).phase.leftOff = false) (stage : FlushStage) :
    ((session.handedBy .advance).filterMap fun event => (event.inStage? stage).map Prod.snd) ++
      ((session.step .advance).feed stage).pending = (session.feed stage).pending := by
  cases phase : session.phase with
  | parked =>
      rw [handedBy_of_phase phase fun _ _ => LoopPhase.noConfusion]
      rcases session.advance_cases with stays | step
      · rw [stays]
        rfl
      · exact step.pending_of_parked phase noRequest goesOn stage
  | flushing current request =>
      cases next : session.nextEvent? current with
      | none =>
          have handed : session.handedBy .advance = [] := by
            simp only [handedBy, phase, next]
            rfl
          have finishes : session.advanceLoop? = some (session.finishRequest request) := by
            simp only [advanceLoop?, phase, next]
          obtain ⟨_, same⟩ := session.finishRequest_cases request
          rw [handed, step_of_advance finishes, same]
          cases stage <;> rfl
      | some taken =>
          rw [handedBy_of_next phase next, advance_of_next phase next, pending_settle]
          exact pending_of_next next stage
  | handing event request =>
      rw [handedBy_of_phase phase fun _ _ => LoopPhase.noConfusion,
        advance_of_handing phase (open_of_handing phase goesOn), pending_settle]
      rfl
  | draining | finished | cancelled =>
      have wentOn := goesOn_of_step goesOn
      rw [phase] at wentOn
      exact absurd wentOn Bool.true_eq_false.mp

/-- Whoever is not the loop leaves the events in the feeds as they are. -/
theorem pending_of_other (other : act ≠ .advance)
    (goesOn : (session.step act).phase.leftOff = false) (stage : FlushStage) :
    ((session.step act).feed stage).pending = (session.feed stage).pending := by
  have beside := session.step_beside other (not_cancel_of_goesOn goesOn)
  have ofRewired {α : Type} {before after : Feed α} {told : Bool}
      (rewired : Rewired before after told) : after.pending = before.pending := by
    rcases rewired with same | ⟨-, number, same⟩
    · rw [same]
    · rw [same, Feed.pending_attach]
  cases stage with
  | windows => exact ofRewired beside.windows
  | signals => exact ofRewired beside.signals

theorem open_of_nextRequest {next : Request × RequestStream}
    (takes : session.nextRequest? = some next) : (session.step .advance).closed = false := by
  obtain ⟨request, requests⟩ := next
  obtain ⟨_, _, _, same, -⟩ := dispatch_cases
    { session with channel := { session.channel with requests } } request
  rw [step_of_advance (advance_of_nextRequest takes), same]
  exact (nextRequest?_eq_some takes).2.1

end Steps

/-! ### Runs -/

theorem Record.accepted_append (first later : Record) (stage : FlushStage) :
    (first.append later).accepted stage = first.accepted stage ++ later.accepted stage := by
  cases stage with
  | windows => exact kept_append _ _
  | signals => exact kept_append _ _

/-- The events of a stage that the loop took up. -/
def Record.takenUp (seen : Record) (stage : FlushStage) : List stage.Event :=
  seen.handed.filterMap fun event => (event.inStage? stage).map Prod.snd

theorem Record.takenUp_append (first later : Record) (stage : FlushStage) :
    (first.append later).takenUp stage = first.takenUp stage ++ later.takenUp stage :=
  List.filterMap_append

theorem accepted_of_quiet {session : Session} {act : SessionAct} (stage : FlushStage)
    (requests : session.dispatchedBy act = []) : (session.seenBy act).accepted stage = [] := by
  cases stage with
  | windows =>
      show kept (session.sizesBy act) = []
      rw [sizesBy, requests]
      rfl
  | signals =>
      show kept (session.signalsBy act) = []
      rw [signalsBy, requests]
      rfl

/-- Nobody but the loop takes up an event. -/
theorem takenUp_of_other {session : Session} {act : SessionAct} {stage : FlushStage}
    (other : act ≠ .advance) : (session.seenBy act).takenUp stage = [] := by
  cases act with
  | advance => exact absurd rfl other
  | _ => rfl

/-- A step that leaves the session closed, but its loop going on, accepts nothing, and what waited
waits or is taken up. -/
theorem quiet_step {session : Session} {act : SessionAct}
    (isClosed : (session.step act).closed = true)
    (goesOn : (session.step act).phase.leftOff = false) (stage : FlushStage) :
    (session.seenBy act).accepted stage = [] ∧
      (session.seenBy act).takenUp stage ++ ((session.step act).feed stage).pending =
        (session.feed stage).pending := by
  by_cases isAdvance : act = .advance
  · subst isAdvance
    have noRequest : session.nextRequest? = none := by
      rw [Option.eq_none_iff_forall_ne_some]
      intro next takes
      exact absurd ((open_of_nextRequest takes).symm.trans isClosed) Bool.false_ne_true
    refine ⟨accepted_of_quiet stage ?_, pending_advance noRequest goesOn stage⟩
    rw [dispatchedBy, noRequest]
    rfl
  · refine ⟨accepted_of_quiet stage (dispatchedBy_of_other isAdvance), ?_⟩
    rw [takenUp_of_other isAdvance, pending_of_other isAdvance goesOn, List.nil_append]

section FromOffer

variable (context : Context) (subsystems : List String) (offer : ChannelOffer) (awaited : Bool)
variable (acts : List SessionAct) (stage : FlushStage)

theorem taken_of_open
    (isOpen : ((onOffer context subsystems offer awaited).run acts).closed = false) :
    ((onOffer context subsystems offer awaited).seenIn acts).takenUp stage ++
        (((onOffer context subsystems offer awaited).run acts).feed stage).pending =
      ((onOffer context subsystems offer awaited).seenIn acts).accepted stage := by
  have tracks := tracks_run context subsystems offer awaited acts isOpen
  cases stage with
  | windows =>
      rw [Record.takenUp, Handover.inStage_windows]
      exact tracks.windowsKept
  | signals =>
      rw [Record.takenUp, Handover.inStage_signals]
      exact tracks.signalsKept

/-- As long as the loop goes on, the events that it took up and those that wait are those that were
accepted, in order. -/
theorem taken_run
    (goesOn : ((onOffer context subsystems offer awaited).run acts).phase.leftOff = false) :
    ((onOffer context subsystems offer awaited).seenIn acts).takenUp stage ++
        (((onOffer context subsystems offer awaited).run acts).feed stage).pending =
      ((onOffer context subsystems offer awaited).seenIn acts).accepted stage := by
  -- While the session is open this follows from its requests, and afterwards there are no more.
  induction acts using List.reverseRecOn with
  | nil => cases stage <;> rfl
  | append_singleton acts act inductionHypothesis =>
      cases isClosed : ((onOffer context subsystems offer awaited).run (acts ++ [act])).closed with
      | false => exact taken_of_open context subsystems offer awaited _ stage isClosed
      | true =>
          rw [run_snoc] at goesOn isClosed ⊢
          obtain ⟨nothing, pending⟩ := quiet_step isClosed goesOn stage
          rw [seenIn_snoc, Record.accepted_append, Record.takenUp_append, nothing, List.append_nil,
            List.append_assoc, pending]
          exact inductionHypothesis (goesOn_of_step goesOn)

/-- As long as the loop goes on, the events that were handed over or lost, the one in hand and those
that wait are those that were accepted, in order. -/
theorem accounted_run
    (goesOn : ((onOffer context subsystems offer awaited).run acts).phase.leftOff = false) :
    let start := onOffer context subsystems offer awaited
    ((start.deskBook stage acts).passed.map fun entry => entry.1.event) ++
        ((start.run acts).inHand stage).toList.map Prod.snd ++
        ((start.run acts).feed stage).pending =
      (start.seenIn acts).accepted stage := by
  intro start
  have kept := kept_of_goesOn context subsystems offer awaited stage acts goesOn
  have passed := kept.passed
  rw [takenUp_deskEntriesIn] at passed
  rw [← taken_run context subsystems offer awaited acts stage goesOn]
  exact congrArg (· ++ ((start.run acts).feed stage).pending) passed

/-- What became of the events of a stage is known in the order in which they were accepted. -/
theorem passed_accepted :
    let start := onOffer context subsystems offer awaited
    ((start.deskBook stage acts).passed.map fun entry => entry.1.event) <+:
      (start.seenIn acts).accepted stage := by
  intro start
  induction acts using List.reverseRecOn with
  | nil => exact List.nil_prefix
  | append_singleton acts act inductionHypothesis =>
      cases leftOff : (start.run (acts ++ [act])).phase.leftOff with
      | false =>
          rw [← accounted_run context subsystems offer awaited (acts ++ [act]) stage leftOff,
            List.append_assoc]
          exact List.prefix_append _ _
      | true =>
          rw [passed_of_leftOff start leftOff, seenIn_snoc, Record.accepted_append]
          exact inductionHypothesis.trans (List.prefix_append _ _)

end FromOffer

end Session

end SshServer
