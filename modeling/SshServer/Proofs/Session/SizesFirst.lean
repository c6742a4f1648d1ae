import SshServer.Proofs.Session.Numbering
import SshServer.Proofs.Session.SoleReceiver

/-!
Contract: a size that was accepted before a signal is handed over before it.

Owns: when the loop turns from sizes to signals; that the sizes which were accepted by then are
taken up before, unless nobody waits for any; and that the sizes of a receiver that was dropped are
never handed over.
Does not own: the order of the events of one kind (`Proofs.Session.Numbering`).

The two kinds wait in feeds of their own, and nothing says how they arrived among each other. The
order comes from the loop alone: it hands over events after each request that brings one, sizes
before signals, and takes up no request in between, however long it waits for a consumer.
-/

namespace SshServer

/-- Which events the loop is handing over. -/
def LoopPhase.stage? : LoopPhase → Option FlushStage
  | .flushing stage _ => some stage
  | .handing event _ => some event.stage
  | .parked | .draining | .finished | .cancelled => none

namespace Session

/-! ### Turning from sizes to signals -/

section Loop

variable {session middle after : Session} {stage : FlushStage} {event : Handover}
variable {request : Option (Request × Bool)}

theorem stage_settle (session : Session) (event : Handover) (request : Option (Request × Bool)) :
    (session.settle event request).phase.stage? = some event.stage := by
  rcases session.settle_cases event request with ⟨after, -, same⟩ | same
  · rw [same]
    rfl
  · rw [same]
    rfl

/-- An attempt to hand over a signal leaves the sizes alone. -/
theorem windows_settle (session : Session) (request : Option (Request × Bool))
    (isSignal : event.stage = .signals) :
    (session.settle event request).state.windows = session.state.windows := by
  rcases session.settle_cases event request with ⟨after, delivery, same⟩ | same
  · rw [same]
    rcases deliver_windows delivery with unchanged | ⟨isSize, -⟩
    · exact unchanged
    · exact absurd (isSize.symm.trans isSignal) FlushStage.noConfusion
  · rw [same]

/-- Once the loop has turned to signals it takes up no size. -/
theorem stage_of_next (next : session.nextEvent? .signals = some (event, middle)) :
    event.stage = .signals := by
  rcases nextEvent_cases next with ⟨_, _, _, rfl, -, -⟩ | ⟨_, _, _, rfl, -, -⟩
  · unfold nextEvent? at next
    dsimp only at next
    split at next
    · exact absurd (Prod.mk.inj (Option.some.inj next)).1 Handover.noConfusion
    · exact absurd next (Option.some_ne_none _).symm
  · rfl

/-- A signal is taken up where no size waits for a consumer, unless the loop had turned to signals
before. -/
theorem served_of_next (next : session.nextEvent? stage = some (event, middle))
    (isSignal : event.stage = .signals) :
    middle.state.windows = session.state.windows ∧
      (stage = .windows → session.state.windows.Served) := by
  have passed (isWindows : stage = .windows) : middle.state.Passed .signals := by
    subst isWindows
    exact isSignal ▸ passed_of_next next trivial
  rcases nextEvent_cases next with ⟨_, _, _, rfl, -, -⟩ | ⟨_, _, _, rfl, -, rfl⟩
  · exact absurd isSignal FlushStage.noConfusion
  · exact ⟨rfl, passed⟩

/-- What a step of the loop does, by what the loop hands over. -/
inductive Turn (before after : Session) : Prop where
  | begins (idle : before.phase.stage? = none) (notSignals : after.phase.stage? ≠ some .signals)
  /-- It goes on with sizes until none waits for a consumer. -/
  | sizes (stage : before.phase.stage? = some .windows)
      (turns : after.phase.stage? = some .windows ∨ after.state.windows.Served)
  | signals (stage : before.phase.stage? = some .signals)
      (same : after.state.windows = before.state.windows)

theorem turn_of_next (phase : session.phase = .flushing stage request)
    (next : session.nextEvent? stage = some (event, middle)) :
    Turn session (middle.settle event request) := by
  have isStage : session.phase.stage? = some stage := by rw [phase, LoopPhase.stage?]
  have turned := middle.stage_settle event request
  cases own : event.stage with
  | windows =>
      cases stage with
      | windows => exact .sizes isStage (.inl (own ▸ turned))
      | signals => exact absurd (own.symm.trans (stage_of_next next)) FlushStage.noConfusion
  | signals =>
      obtain ⟨same, served⟩ := served_of_next next own
      have unchanged := (middle.windows_settle request own).trans same
      cases stage with
      | windows => exact .sizes isStage (.inr (unchanged ▸ served rfl))
      | signals => exact .signals isStage unchanged

theorem turn_of_nothing (phase : session.phase = .flushing stage request)
    (nothing : session.nextEvent? stage = none) : Turn session (session.finishRequest request) := by
  have isStage : session.phase.stage? = some stage := by rw [phase, LoopPhase.stage?]
  have same := congrArg SessionState.windows (session.finishRequest_state request)
  cases stage with
  | windows => exact .sizes isStage (.inr (same ▸ (served_of_nothing nothing trivial).1))
  | signals => exact .signals isStage same

theorem turn_of_handing (phase : session.phase = .handing event request) :
    Turn session (session.settle event request) := by
  have isStage : session.phase.stage? = some event.stage := by rw [phase, LoopPhase.stage?]
  have turned := session.stage_settle event request
  cases own : event.stage with
  | windows => exact .sizes (own ▸ isStage) (.inl (own ▸ turned))
  | signals => exact .signals (own ▸ isStage) (session.windows_settle request own)

/-- A loop that waits begins with sizes. -/
theorem LoopStep.begins (step : LoopStep session after) (parked : session.phase = .parked) :
    after.phase.stage? ≠ some .signals := by
  cases step with
  | noticed => exact fun same => FlushStage.noConfusion (Option.some.inj same)
  | dispatched request requests =>
      obtain ⟨_, _, _, same, cases⟩ := dispatch_cases
        { session with channel := { session.channel with requests } } request
      rw [same]
      rcases cases with ⟨rfl, -⟩ | ⟨rfl, -⟩
      · exact fun same => FlushStage.noConfusion (Option.some.inj same)
      · exact (Option.some_ne_none _).symm
  | finished _ flushing => exact absurd (parked.symm.trans flushing) LoopPhase.noConfusion
  | handed event request middle delivered source =>
      rcases source with ⟨_, flushing, -⟩ | ⟨handing, -, -⟩
      · exact absurd (parked.symm.trans flushing) LoopPhase.noConfusion
      · exact absurd (parked.symm.trans handing) LoopPhase.noConfusion
  | waits _ _ _ flushing => exact absurd (parked.symm.trans flushing) LoopPhase.noConfusion
  | stopped => exact (Option.some_ne_none _).symm
  | drained => exact (Option.some_ne_none _).symm

theorem turn_advance (goesOn : (session.step .advance).phase.leftOff = false) :
    Turn session (session.step .advance) := by
  cases phase : session.phase with
  | parked =>
      have idle : session.phase.stage? = none := by rw [phase, LoopPhase.stage?]
      refine .begins idle ?_
      rcases session.advance_cases with stays | step
      · rw [stays, idle]
        exact (Option.some_ne_none _).symm
      · exact step.begins phase
  | flushing stage request =>
      cases next : session.nextEvent? stage with
      | none =>
          have finishes : session.advanceLoop? = some (session.finishRequest request) := by
            simp only [advanceLoop?, phase, next]
          rw [step_of_advance finishes]
          exact turn_of_nothing phase next
      | some taken =>
          rw [advance_of_next phase next]
          exact turn_of_next phase next
  | handing event request =>
      rw [advance_of_handing phase (open_of_handing phase goesOn)]
      exact turn_of_handing phase
  | draining | finished | cancelled =>
      have wentOn := goesOn_of_step goesOn
      rw [phase] at wentOn
      exact absurd wentOn Bool.true_eq_false.mp

/-- A loop that hands over events takes up no request. -/
theorem noRequest_of_stage (busy : session.phase.stage? = some stage) :
    session.nextRequest? = none := by
  refine if_neg fun conditions => ?_
  rw [conditions.1] at busy
  exact absurd busy (Option.some_ne_none _).symm

/-- Nobody is attached by the loop. -/
theorem LoopStep.detached (step : LoopStep session after)
    (nobody : session.state.windows.consumer = none) : after.state.windows.consumer = none := by
  have ofNext {middle : Session} {event : Handover} {stage : FlushStage}
      (next : session.nextEvent? stage = some (event, middle)) :
      middle.state.windows.consumer = none := by
    rcases nextEvent_cases next with ⟨_, _, _, -, -, rfl⟩ | ⟨_, _, _, -, -, rfl⟩
    · exact nobody
    · exact nobody
  cases step with
  | noticed => exact nobody
  | dispatched request requests =>
      rw [dispatch_state, (SessionState.judge_holding _ _ _ _).windows]
      exact nobody
  | finished request =>
      rw [finishRequest_state]
      exact nobody
  | handed event request middle delivered source delivery =>
      have before : middle.state.windows.consumer = none := by
        rcases source with ⟨_, -, next⟩ | ⟨-, -, rfl⟩
        · exact ofNext next
        · exact nobody
      show delivered.state.windows.consumer = none
      rcases deliver_windows delivery with same | ⟨-, gone, same⟩
      · rw [same]
        exact before
      · rw [same, Feed.consumer_detach, before]
        rfl
  | waits event request middle _ next =>
      have same : middle.state.windows.consumer = none := ofNext next
      exact same
  | stopped =>
      obtain ⟨_, same⟩ := session.endLoop_cases .draining
      rw [same]
      rfl
  | drained => exact nobody

end Loop

/-! ### Sizes that come first -/

section Ahead

variable {session : Session} {seen : Record} {bound : Nat} {act : SessionAct}

/-- The sizes up to a bound were taken up, or nobody waits for any, or else the loop is handing over
sizes and goes on until it has taken up those. -/
inductive Ahead (bound : Nat) (seen : Record) (session : Session) : Prop where
  | taken (enough : bound ≤ (seen.takenUp .windows).length)
  | detached (nobody : session.state.windows.consumer = none)
  | looking (stage : session.phase.stage? = some .windows)
      (waiting : bound ≤
        (seen.takenUp .windows).length + session.state.windows.pending.length)

/-- Where no size waits for a consumer any more, they were taken up unless nobody waits for any. -/
theorem Ahead.of_served (waiting : bound ≤
      (seen.takenUp .windows).length + session.state.windows.pending.length)
    (served : session.state.windows.Served) :
    bound ≤ (seen.takenUp .windows).length ∨ session.state.windows.consumer = none := by
  rcases Feed.served_iff.1 served with nobody | nothing
  · exact .inr nobody
  · rw [nothing] at waiting
    exact .inl waiting

theorem Ahead.advance (ahead : Ahead bound seen session)
    (goesOn : (session.step .advance).phase.leftOff = false) :
    Ahead bound (seen.append (session.seenBy .advance)) (session.step .advance) := by
  have more : ((seen.append (session.seenBy .advance)).takenUp .windows).length =
      (seen.takenUp .windows).length + ((session.seenBy .advance).takenUp .windows).length := by
    rw [Record.takenUp_append, List.length_append]
  cases ahead with
  | taken enough => exact .taken (more ▸ Nat.le_add_right_of_le enough)
  | detached nobody =>
      rcases session.advance_cases with stays | step
      · exact .detached (stays.symm ▸ nobody)
      · exact .detached (step.detached nobody)
  | looking stage waiting =>
      have account := congrArg List.length
        (pending_advance (noRequest_of_stage stage) goesOn .windows)
      have still : bound ≤ ((seen.append (session.seenBy .advance)).takenUp .windows).length +
          (session.step .advance).state.windows.pending.length := by
        rw [List.length_append] at account
        change ((session.seenBy .advance).takenUp .windows).length +
          (session.step .advance).state.windows.pending.length =
            session.state.windows.pending.length at account
        omega
      cases turn_advance goesOn with
      | begins idle => exact absurd (stage.symm.trans idle) (Option.some_ne_none _)
      | signals other =>
          exact absurd (Option.some.inj (stage.symm.trans other)) FlushStage.noConfusion
      | sizes _ turns =>
          rcases turns with goes | served
          · exact .looking goes still
          · rcases Ahead.of_served still served with enough | nobody
            · exact .taken enough
            · exact .detached nobody

/-- Whoever is not the loop leaves it where it is, with the sizes that wait for it. -/
theorem looking_outside (other : act ≠ .advance)
    (goesOn : (session.step act).phase.leftOff = false)
    (looking : session.phase.stage? = some .windows ∧
      bound ≤ (seen.takenUp .windows).length + session.state.windows.pending.length) :
    (session.step act).phase.stage? = some .windows ∧
      bound ≤ ((seen.append (session.seenBy act)).takenUp .windows).length +
        (session.step act).state.windows.pending.length := by
  have pending : (session.step act).state.windows.pending = session.state.windows.pending :=
    pending_of_other other goesOn .windows
  rw [step_phase session other (not_cancel_of_goesOn goesOn), pending, Record.takenUp_append,
    takenUp_of_other other, List.append_nil]
  exact looking

theorem Ahead.outside (ahead : Ahead bound seen session) (other : act ≠ .advance)
    (goesOn : (session.step act).phase.leftOff = false)
    (isClaimed : session.state.windowsClaimed = true) :
    Ahead bound (seen.append (session.seenBy act)) (session.step act) := by
  cases ahead with
  | taken enough =>
      refine .taken ?_
      rw [Record.takenUp_append, takenUp_of_other other, List.append_nil]
      exact enough
  | detached nobody =>
      rcases session.windows_of_other other (not_cancel_of_goesOn goesOn) with same | ⟨-, unclaimed⟩
      · exact .detached (same ▸ nobody)
      · exact absurd (unclaimed.symm.trans isClaimed) Bool.false_ne_true
  | looking stage waiting =>
      obtain ⟨still, enough⟩ := looking_outside other goesOn ⟨stage, waiting⟩
      exact .looking still enough

/-- Once the receiver was handed out, the sizes stay ahead as long as the loop goes on. -/
theorem Ahead.run {start : Session} {earlier : List SessionAct}
    (ahead : Ahead bound (start.seenIn earlier) (start.run earlier))
    (isClaimed : (start.run earlier).state.windowsClaimed = true) (later : List SessionAct)
    (goesOn : (start.run (earlier ++ later)).phase.leftOff = false) :
    Ahead bound (start.seenIn (earlier ++ later)) (start.run (earlier ++ later)) ∧
      (start.run (earlier ++ later)).state.windowsClaimed = true := by
  induction later using List.reverseRecOn with
  | nil =>
      rw [List.append_nil]
      exact ⟨ahead, isClaimed⟩
  | append_singleton later act inductionHypothesis =>
      rw [← List.append_assoc, run_snoc] at goesOn ⊢
      rw [seenIn_snoc]
      obtain ⟨before, claimedBefore⟩ := inductionHypothesis (goesOn_of_step goesOn)
      refine ⟨?_, claimed_step claimedBefore act⟩
      by_cases isAdvance : act = .advance
      · subst isAdvance
        exact before.advance goesOn
      · exact before.outside isAdvance goesOn claimedBefore

/-- Until the loop makes its next step it stays where it is. -/
theorem looking_run {start : Session} {earlier : List SessionAct}
    (looking : (start.run earlier).phase.stage? = some .windows ∧
      bound ≤ ((start.seenIn earlier).takenUp .windows).length +
        (start.run earlier).state.windows.pending.length)
    (meanwhile : List SessionAct) (others : .advance ∉ meanwhile)
    (goesOn : (start.run (earlier ++ meanwhile)).phase.leftOff = false) :
    (start.run (earlier ++ meanwhile)).phase.stage? = some .windows ∧
      bound ≤ ((start.seenIn (earlier ++ meanwhile)).takenUp .windows).length +
        (start.run (earlier ++ meanwhile)).state.windows.pending.length := by
  induction meanwhile using List.reverseRecOn with
  | nil =>
      rw [List.append_nil]
      exact looking
  | append_singleton meanwhile act inductionHypothesis =>
      rw [List.mem_append, List.mem_singleton, not_or] at others
      rw [← List.append_assoc, run_snoc] at goesOn ⊢
      rw [seenIn_snoc]
      exact looking_outside (Ne.symm others.2) goesOn
        (inductionHypothesis others.1 (goesOn_of_step goesOn))

end Ahead

/-! ### Signals -/

section Signals

variable {session : Session}

/-- Where a signal is handed over, no size is in hand, and none waits for a consumer unless the loop
had turned to signals before. -/
theorem Concludes.signal (concludes : session.Concludes .signals) :
    session.phase.leftOff = false ∧ session.inHand .windows = none ∧
      (session.phase.stage? = some .windows → session.state.windows.Served) := by
  cases concludes with
  | takesUp current request event middle phase next own =>
      refine ⟨by rw [phase, LoopPhase.leftOff], by rw [inHand, phase], fun isWindows => ?_⟩
      rw [phase] at isWindows
      exact (served_of_next next own).2 (Option.some.inj isWindows)
  | triesAgain event request phase isOpen own =>
      refine ⟨by rw [phase, LoopPhase.leftOff], ?_, fun isWindows => ?_⟩
      · rw [inHand, phase]
        cases event with
        | window => exact absurd own FlushStage.noConfusion
        | signal => rfl
      · rw [phase, LoopPhase.stage?, own] at isWindows
        exact absurd (Option.some.inj isWindows) FlushStage.noConfusion

theorem request_of_signal {raised : Signal}
    (accepted : (raised, true) ∈ session.signalsBy .advance) :
    ∃ request requests, session.nextRequest? = some (request, requests) ∧
      request.signalAsked = some raised ∧ session.state.signals.pending.length < feedBacklog := by
  obtain ⟨request, dispatched, arrives⟩ := List.mem_filterMap.1 accepted
  obtain ⟨⟨taken, requests⟩, next, rfl⟩ := Option.map_eq_some_iff.1 (Option.mem_toList.1 dispatched)
  obtain ⟨asked, isSignal, isRaised⟩ := Option.map_eq_some_iff.1 arrives
  obtain ⟨rfl, room⟩ := Prod.mk.inj isRaised
  exact ⟨taken, requests, next, isSignal, of_decide_eq_true room⟩

/-- With a signal the loop turns to what waits to be handed over, beginning with sizes. -/
theorem stage_of_signal {subsystems : List String} {record : Record}
    (tracks : Tracks subsystems record session) {raised : Signal}
    (accepted : (raised, true) ∈ session.signalsBy .advance) :
    (session.step .advance).phase.stage? = some .windows ∧
      (session.step .advance).state.windows.consumer = session.state.windows.consumer := by
  obtain ⟨request, requests, next, isSignal, room⟩ := request_of_signal accepted
  obtain rfl := tracks.served
  have signals := (judge_judged tracks.reflects request).signals
  rw [step_of_advance (advance_of_nextRequest next)]
  refine ⟨?_, by rw [dispatch_state, (SessionState.judge_holding _ _ _ _).windows]⟩
  obtain ⟨phase, _, _, same, cases⟩ :=
    dispatch_cases { session with channel := { session.channel with requests } } request
  have quiet :=
    @flush_of_parked { session with channel := { session.channel with requests } } request
  rw [same] at quiet ⊢
  rcases cases with ⟨rfl, -⟩ | ⟨rfl, -⟩
  · rfl
  · -- A request that brings a signal is not answered at once.
    have unchanged := (session.state.judge_quiet _ _ _ (quiet rfl)).2
    have pending := pending_offered tracks.signalsOpen request.signalAsked
    rw [← signals, unchanged, isSignal, arrival, Option.map_some, decide_eq_true room] at pending
    have longer := congrArg List.length pending
    simp [kept] at longer

end Signals

/-! ### Sizes that are never handed over -/

/-- The receiver of sizes is gone, and nobody will be handed any. -/
structure Deserted (session : Session) : Prop where
  nobody : session.state.windows.consumer = none
  claimed : session.state.windowsClaimed = true
  free : session.inHand .windows = none

namespace Deserted

variable {session after : Session}

/-- The loop takes up no size. -/
theorem not_window (deserted : session.Deserted) {current : FlushStage} {event : Handover}
    {middle : Session} (next : session.nextEvent? current = some (event, middle)) :
    event.stage = .signals := by
  rcases nextEvent_cases next with ⟨receiver, size, rest, rfl, -, -⟩ | ⟨_, _, _, rfl, -, -⟩
  · unfold nextEvent? at next
    rw [Feed.served_iff.2 (.inl deserted.nobody)] at next
    split at next
    next found => exact absurd found (Option.some_ne_none _).symm
    · split at next
      · exact absurd (Prod.mk.inj (Option.some.inj next)).1 Handover.noConfusion
      · exact absurd next (Option.some_ne_none _).symm
  · rfl

theorem not_concludes (deserted : session.Deserted) : ¬session.Concludes .windows := by
  rintro (⟨current, request, event, middle, phase, next, own⟩ | ⟨event, request, phase, -, own⟩)
  · exact absurd (own.symm.trans (deserted.not_window next)) FlushStage.noConfusion
  · have free := deserted.free
    rw [inHand, phase] at free
    cases event with
    | signal => exact absurd own FlushStage.noConfusion
    | window => exact absurd free (Option.some_ne_none _)

theorem free_of_loop (deserted : session.Deserted) (step : LoopStep session after) :
    after.inHand .windows = none := by
  cases step with
  | noticed | handed | stopped | drained => rfl
  | dispatched request requests =>
      obtain ⟨_, _, _, same, cases⟩ := dispatch_cases
        { session with channel := { session.channel with requests } } request
      rw [same]
      rcases cases with ⟨rfl, -⟩ | ⟨rfl, -⟩
      · rfl
      · rfl
  | finished request =>
      obtain ⟨_, same⟩ := session.finishRequest_cases request
      rw [same]
      rfl
  | waits event request middle _ next =>
      have isSignal := deserted.not_window next
      cases event with
      | window => exact absurd isSignal FlushStage.noConfusion
      | signal => rfl

theorem step (deserted : session.Deserted) (act : SessionAct) : (session.step act).Deserted := by
  suffices rest : (session.step act).state.windows.consumer = none ∧
      (session.step act).inHand .windows = none from
    ⟨rest.1, claimed_step deserted.claimed act, rest.2⟩
  by_cases isAdvance : act = .advance
  · subst isAdvance
    rcases session.advance_cases with stays | loop
    · rw [stays]
      exact ⟨deserted.nobody, deserted.free⟩
    · exact ⟨loop.detached deserted.nobody, deserted.free_of_loop loop⟩
  · by_cases isCancel : act = .cancel
    · subst isCancel
      show session.cancel.state.windows.consumer = none ∧ session.cancel.inHand .windows = none
      cases goesOn : session.phase.leftOff with
      | false =>
          rw [cancel_of_goesOn goesOn]
          obtain ⟨_, same⟩ := session.endLoop_cases .cancelled
          rw [same]
          exact ⟨rfl, rfl⟩
      | true =>
          rcases cancel_of_leftOff goesOn with stays | stops
          · rw [stays]
            exact ⟨deserted.nobody, deserted.free⟩
          · rw [stops]
            exact ⟨deserted.nobody, rfl⟩
    · constructor
      · rcases session.windows_of_other isAdvance isCancel with same | ⟨-, unclaimed⟩
        · rw [same]
          exact deserted.nobody
        · exact absurd (unclaimed.symm.trans deserted.claimed) Bool.false_ne_true
      · rw [inHand, step_phase session isAdvance isCancel]
        exact deserted.free

/-- What became of the sizes stays as it is. -/
theorem passed {start : Session} {earlier : List SessionAct}
    (deserted : (start.run earlier).Deserted) (later : List SessionAct) :
    (start.deskBook .windows (earlier ++ later)).passed =
      (start.deskBook .windows earlier).passed := by
  rw [deskBook_append]
  apply DeskBook.passed_foldl
  refine forall_observed Session.step Deserted
    (fun entry : DeskEntry WindowSize => entry.concludes = false)
    (fun _ act deserted => deserted.step act) ?_ deserted later
  intro now act deserted entry member
  rw [← Bool.not_eq_true]
  exact fun concludes => deserted.not_concludes (concludes_of_entry member concludes).2

end Deserted

/-! ### Sizes before signals -/

section FromOffer

variable (context : Context) (subsystems : List String) (offer : ChannelOffer) (awaited : Bool)

/-- A size that was lost has left no receiver that is held. -/
theorem notHeld_of_lost {acts : List SessionAct}
    (goesOn : ((onOffer context subsystems offer awaited).run acts).phase.leftOff = false)
    {parcel : Parcel WindowSize} :
    let start := onOffer context subsystems offer awaited
    (parcel, false) ∈ (start.deskBook .windows acts).passed →
      ∀ receiver ∈ (start.run acts).windowReceivers, receiver.held = false := by
  intro start member
  have kept := kept_of_goesOn context subsystems offer awaited .windows acts goesOn
  have isLost : parcel ∈ (start.deskBook .windows acts).lost :=
    List.mem_map.2 ⟨(parcel, false), List.mem_filter.2 ⟨member, rfl⟩, rfl⟩
  exact notHeld_of_gone context subsystems offer awaited goesOn (kept.losesOnce.gone parcel isLost)

/-- A size that the loop has taken up, or that nobody waits for, was handed over or never will be,
for want of a receiver. -/
theorem handedOver_or_never {acts : List SessionAct}
    (goesOn : ((onOffer context subsystems offer awaited).run acts).phase.leftOff = false)
    (isClaimed : ((onOffer context subsystems offer awaited).run acts).state.windowsClaimed = true)
    (free : ((onOffer context subsystems offer awaited).run acts).inHand .windows = none)
    {number : Nat} :
    let start := onOffer context subsystems offer awaited
    (number < ((start.seenIn acts).takenUp .windows).length ∨
        (start.run acts).state.windows.consumer = none) →
      start.HandedOver .windows acts number ∨
        (∀ more, ¬start.HandedOver .windows (acts ++ more) number) ∧
          ∀ receiver ∈ (start.run acts).windowReceivers, receiver.held = false := by
  intro start settled
  have all := (kept_of_goesOn context subsystems offer awaited .windows acts goesOn).passed
  have noneInHand : ((start.run acts).desk .windows).inHand = none := free
  rw [takenUp_deskEntriesIn, noneInHand] at all
  change _ ++ [] = (start.seenIn acts).takenUp .windows at all
  rw [List.append_nil] at all
  have count := congrArg List.length all
  rw [List.length_map] at count
  change (start.deskBook .windows acts).passed.length = _ at count
  cases found : (start.deskBook .windows acts).passed[number]? with
  | some entry =>
      obtain ⟨parcel, handed⟩ := entry
      cases handed with
      | true => exact .inl ⟨parcel, found⟩
      | false =>
          exact .inr ⟨not_handedOver_of_lost found,
            notHeld_of_lost context subsystems offer awaited goesOn (List.mem_of_getElem? found)⟩
  | none =>
      have nobody : (start.run acts).state.windows.consumer = none := by
        refine settled.resolve_left fun below => ?_
        rw [List.getElem?_eq_none_iff, count] at found
        omega
      have deserted : (start.run acts).Deserted := ⟨nobody, isClaimed, free⟩
      refine .inr ⟨fun more handed => ?_, ?_⟩
      · obtain ⟨other, isOther⟩ := handed
        rw [deserted.passed more, found] at isOther
        exact absurd isOther (Option.some_ne_none _).symm
      · exact notHeld_of_detached context subsystems offer awaited goesOn nobody

/-- Somebody waits for sizes when the loop takes up a request, or comes before it looks for
events. -/
def AttachedInTime (start : Session) (earlier later : List SessionAct) : Prop :=
  (start.run earlier).state.windows.consumer ≠ none ∨
    ∃ meanwhile rest, later = meanwhile ++ rest ∧ .advance ∉ meanwhile ∧
      (start.run (earlier ++ .advance :: meanwhile)).state.windows.consumer ≠ none

/-- With a signal the loop begins with the sizes, and those that were accepted are in their feed, if
they were not taken up. -/
theorem looking_of_signal {earlier : List SessionAct} {raised : Signal} :
    let start := onOffer context subsystems offer awaited
    (raised, true) ∈ (start.run earlier).signalsBy .advance →
      (start.run (earlier ++ [.advance])).phase.stage? = some .windows ∧
        ((start.seenIn earlier).accepted .windows).length ≤
          ((start.seenIn (earlier ++ [.advance])).takenUp .windows).length +
            (start.run (earlier ++ [.advance])).state.windows.pending.length := by
  intro start accepted
  obtain ⟨request, requests, next, -, -⟩ := request_of_signal accepted
  have tracks := tracks_run context subsystems offer awaited earlier (nextRequest?_eq_some next).2.1
  have isOpen : (start.run (earlier ++ [.advance])).closed = false := by
    rw [run_snoc]
    exact open_of_nextRequest next
  constructor
  · rw [run_snoc]
    exact (stage_of_signal tracks accepted).1
  · have account := congrArg List.length
      (taken_of_open context subsystems offer awaited (earlier ++ [.advance]) .windows isOpen)
    rw [seenIn_snoc, Record.accepted_append, List.length_append, List.length_append,
      ← seenIn_snoc] at account
    exact Nat.le_trans (Nat.le_add_right _ _) (Nat.le_of_eq account.symm)

/-- Whoever waits for sizes when a signal is accepted still does so afterwards. -/
theorem AttachedInTime.meanwhile {earlier later : List SessionAct} {raised : Signal} :
    let start := onOffer context subsystems offer awaited
    (raised, true) ∈ (start.run earlier).signalsBy .advance → start.AttachedInTime earlier later →
      ∃ meanwhile rest, later = meanwhile ++ rest ∧ .advance ∉ meanwhile ∧
        (start.run (earlier ++ .advance :: meanwhile)).state.windows.consumer ≠ none := by
  intro start accepted attached
  obtain ⟨request, requests, next, -, -⟩ := request_of_signal accepted
  have tracks := tracks_run context subsystems offer awaited earlier (nextRequest?_eq_some next).2.1
  rcases attached with already | inTime
  · refine ⟨[], later, rfl, List.not_mem_nil, ?_⟩
    rw [run_snoc, (stage_of_signal tracks accepted).2]
    exact already
  · exact inTime

/-- Where a signal has just been accepted and somebody waits for sizes before the loop looks for
events, the sizes that were accepted before the signal are ahead from then on. -/
theorem ahead_of_signal {earlier later : List SessionAct} {raised : Signal} :
    let start := onOffer context subsystems offer awaited
    (raised, true) ∈ (start.run earlier).signalsBy .advance →
      start.AttachedInTime earlier later →
      (start.run (earlier ++ .advance :: later)).phase.leftOff = false →
      Ahead ((start.seenIn earlier).accepted .windows).length
          (start.seenIn (earlier ++ .advance :: later))
          (start.run (earlier ++ .advance :: later)) ∧
        (start.run (earlier ++ .advance :: later)).state.windowsClaimed = true := by
  intro start accepted attached goesOn
  obtain ⟨meanwhile, rest, rfl, others, consumer⟩ :=
    AttachedInTime.meanwhile context subsystems offer awaited accepted attached
  have looking := looking_of_signal context subsystems offer awaited accepted
  rw [List.append_cons] at goesOn consumer ⊢
  rw [← List.append_assoc] at goesOn ⊢
  have stillGoesOn : (start.run (earlier ++ [.advance] ++ meanwhile)).phase.leftOff = false := by
    rw [← Bool.not_eq_true]
    intro leftOff
    have letGo := (agrees_run context subsystems offer awaited _).letGo leftOff
    exact consumer (congrArg Feed.consumer letGo.windows)
  obtain ⟨still, waiting⟩ := looking_run looking meanwhile others stillGoesOn
  have isClaimed := claimed_of_consumer context subsystems offer awaited stillGoesOn consumer
  exact (Ahead.looking still waiting).run isClaimed rest goesOn

/-- Over every run, whoever attaches, takes from and drops receivers, and when: what became of the
events of a kind is known in the order in which they were accepted. And if a signal is accepted
while somebody waits for sizes, then whenever the signal is handed over, every size that was
accepted before it has been handed over already, or never will be, as its receiver was dropped. -/
theorem sizes_before_signal (earlier later : List SessionAct) (raised : Signal) :
    let start := onOffer context subsystems offer awaited
    let before := earlier ++ .advance :: later
    (∀ stage, ((start.deskBook stage before).passed.map fun entry => entry.1.event) <+:
        (start.seenIn before).accepted stage) ∧
      ((raised, true) ∈ (start.run earlier).signalsBy .advance →
        start.AttachedInTime earlier later →
        ∀ act, ¬start.HandedOver .signals before ((start.seenIn earlier).accepted .signals).length →
          start.HandedOver .signals (before ++ [act])
            ((start.seenIn earlier).accepted .signals).length →
          ∀ size < ((start.seenIn earlier).accepted .windows).length,
            start.HandedOver .windows before size ∨
              (∀ more, ¬start.HandedOver .windows (before ++ more) size) ∧
                ∀ receiver ∈ (start.run before).windowReceivers, receiver.held = false) := by
  intro start before
  refine ⟨fun stage => passed_accepted context subsystems offer awaited before stage, ?_⟩
  intro accepted attached act notYet now size below
  obtain ⟨goesOn, free, served⟩ := (concludes_of_handedOver notYet now).2.signal
  obtain ⟨ahead, isClaimed⟩ :=
    ahead_of_signal context subsystems offer awaited accepted attached goesOn
  apply handedOver_or_never context subsystems offer awaited goesOn isClaimed free
  cases ahead with
  | taken enough => exact .inl (Nat.lt_of_lt_of_le below enough)
  | detached nobody => exact .inr nobody
  | looking stage waiting =>
      exact (Ahead.of_served waiting (served stage)).imp_left (Nat.lt_of_lt_of_le below)

end FromOffer

/-- Two sizes come before a signal. Once somebody has waited for them all along, and keeps the loop
waiting; and once he comes only when the signal has been accepted. -/
theorem sizes_before_signal_of_two :
    let terminal : SessionAct :=
      .requests (.send 0 "pty-req" ⟨#[0, 0, 0, 0, 0, 0, 0, 80, 0, 0, 0, 24]⟩ false)
    let resize : SessionAct :=
      .requests (.send 0 "window-change" ⟨#[0, 0, 0, 81, 0, 0, 0, 24]⟩ false)
    let signal : SessionAct := .requests (.send 0 "signal" ⟨#[0, 0, 0, 4, 84, 69, 82, 77]⟩ false)
    let start := onOffer default [] ⟨"session", ByteArray.empty⟩ true
    let waited : List SessionAct :=
      [terminal, .takeTerminal, .advance, .takeTerminal, .registerSignals 1, .advance, .advance,
        .advance, resize, signal, .advance, .advance, .takeWindow 0, .advance, .advance]
    let came : List SessionAct := [terminal, resize, signal, .advance, .advance, .advance]
    let later : List SessionAct :=
      [.takeTerminal, .registerSignals 1, .advance, .advance, .takeWindow 0, .advance]
    (((start.run waited).state.windows.consumer = some 0 ∧
        (Signal.term, true) ∈ (start.run waited).signalsBy .advance ∧
        ¬start.HandedOver .signals (waited ++ [.advance]) 0 ∧
        start.HandedOver .signals (waited ++ [.advance] ++ [.advance]) 0) ∧
      (start.HandedOver .windows (waited ++ [.advance]) 1 ∨
        (∀ more, ¬start.HandedOver .windows (waited ++ [.advance] ++ more) 1) ∧
          ∀ receiver ∈ (start.run (waited ++ [.advance])).windowReceivers,
            receiver.held = false)) ∧
      ((start.run came).state.windows.consumer = none ∧
        (Signal.term, true) ∈ (start.run came).signalsBy .advance ∧
        ¬start.HandedOver .signals (came ++ .advance :: later) 0 ∧
        start.HandedOver .signals (came ++ .advance :: later ++ [.advance]) 0) ∧
      (start.HandedOver .windows (came ++ .advance :: later) 1 ∨
        (∀ more, ¬start.HandedOver .windows (came ++ .advance :: later ++ more) 1) ∧
          ∀ receiver ∈ (start.run (came ++ .advance :: later)).windowReceivers,
            receiver.held = false) := by
  intro terminal resize signal start waited came later
  refine ⟨⟨?_, ?_⟩, ?_, ?_⟩
  · exact ⟨by decide +kernel, by decide +kernel, by decide +kernel, by decide +kernel⟩
  · exact (sizes_before_signal default [] ⟨"session", ByteArray.empty⟩ true waited [] .term).2
      (by decide +kernel) (.inl (by decide +kernel)) .advance (by decide +kernel)
      (by decide +kernel) 1 (by decide +kernel)
  · exact ⟨by decide +kernel, by decide +kernel, by decide +kernel, by decide +kernel⟩
  · exact (sizes_before_signal default [] ⟨"session", ByteArray.empty⟩ true came later .term).2
      (by decide +kernel)
      (.inr ⟨[.takeTerminal, .registerSignals 1], _, rfl, by simp, by decide +kernel⟩) .advance
      (by decide +kernel) (by decide +kernel) 1 (by decide +kernel)

end Session

end SshServer
