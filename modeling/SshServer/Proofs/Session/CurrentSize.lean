import SshServer.Proofs.Session.SizesFirst

/-!
Contract: whoever takes all sizes ends up with the size of the window now, unless the last of them
found no room, or signals that nobody takes hold them back.

Owns: that sizes wait for their receiver while signals are handed over only if it was handed out in
the meantime and none was taken up yet; that sizes are dropped only before it is handed out; and
what the last size is that was taken wherever the loop has come to rest.
Does not own: where the sizes are at other times (`Proofs.Session.Windows`).

The size of the window now and the sizes that wait are two records of the same requests. Every
resize changes the first, and the second only where there is room for one more.
-/

namespace SshServer.Session

/-! ### The last size -/

/-- The sizes are all that arrived and found room, and the last of them is the size of the window
now, unless that one found no room. -/
def UpToNow (seen : Record) (state : SessionState) (sizes : List WindowSize) : Prop :=
  sizes = kept seen.sizes ∧
    (sizes.getLast? = some state.window ∨ seen.sizes.getLast? = some (state.window, false))

theorem Tracks.upToNow {subsystems : List String} {record : Record} {session : Session}
    (tracks : Tracks subsystems record session) (someKept : kept record.sizes ≠ []) :
    UpToNow record session.state (kept record.sizes) := by
  refine ⟨rfl, ?_⟩
  have window := tracks.reflects.window
  rw [← tracks.sizes] at window
  -- What arrived last is the size now, with or without room.
  rcases List.eq_nil_or_concat record.sizes with nothing | ⟨before, ⟨size, room⟩, arrived⟩
  · rw [nothing] at someKept
    exact absurd rfl someKept
  · rw [arrived, List.concat_eq_append] at window ⊢
    rw [List.map_append, List.map_singleton, List.getLastD_concat] at window
    rw [window, List.getLast?_concat]
    cases room with
    | false => exact .inr rfl
    | true =>
        left
        rw [kept_append]
        exact List.getLast?_concat

/-! ### Sizes that wait while signals are handed over -/

/-- The receiver of sizes was handed out when the loop was handing over signals. -/
def CameAmidSignals (start : Session) (acts : List SessionAct) : Prop :=
  ∃ earlier later, acts = earlier ++ .takeTerminal :: later ∧
    (start.run earlier).state.windowsClaimed = false ∧
    (start.run earlier).phase.stage? = some .signals

theorem CameAmidSignals.snoc {start : Session} {acts : List SessionAct}
    (came : start.CameAmidSignals acts) (act : SessionAct) :
    start.CameAmidSignals (acts ++ [act]) := by
  obtain ⟨earlier, later, rfl, unclaimed, stage⟩ := came
  exact ⟨earlier, later ++ [act], List.append_assoc _ _ _, unclaimed, stage⟩

/-- Where the loop hands over signals, no size waits for a consumer, unless the consumer came in the
meantime and none was taken up yet. -/
def SizesDone (start : Session) (acts : List SessionAct) : Prop :=
  (start.run acts).phase.stage? = some .signals →
    (start.run acts).state.windows.Served ∨
      (start.seenIn acts).takenUp .windows = [] ∧ start.CameAmidSignals acts

namespace SizesDone

variable {start : Session} {acts : List SessionAct} {act : SessionAct}

theorem advance (done : start.SizesDone acts)
    (goesOn : ((start.run acts).step .advance).phase.leftOff = false) :
    start.SizesDone (acts ++ [.advance]) := by
  unfold SizesDone
  rw [run_snoc, seenIn_snoc]
  intro isSignals
  cases turn_advance goesOn with
  | begins _ notSignals => exact absurd isSignals notSignals
  | sizes _ turns =>
      rcases turns with goes | served
      · exact absurd (Option.some.inj (goes.symm.trans isSignals)) FlushStage.noConfusion
      · exact .inl served
  | signals stage same =>
      rcases done stage with served | ⟨nothing, came⟩
      · exact .inl (same ▸ served)
      · right
        have account : ((start.run acts).seenBy .advance).takenUp .windows ++
            ((start.run acts).step .advance).state.windows.pending =
              (start.run acts).state.windows.pending :=
          pending_advance (noRequest_of_stage stage) goesOn .windows
        rw [same, List.append_left_eq_self] at account
        rw [Record.takenUp_append, nothing, account, List.append_nil]
        exact ⟨rfl, came.snoc .advance⟩

/-- A receiver that is handed out meanwhile is the first, so that nothing was taken up. -/
theorem outside (done : start.SizesDone acts) (other : act ≠ .advance)
    (goesOn : ((start.run acts).step act).phase.leftOff = false)
    (nothing : (start.run acts).state.windowsClaimed = false →
      (start.seenIn acts).takenUp .windows = []) :
    start.SizesDone (acts ++ [act]) := by
  have notCancelled := not_cancel_of_goesOn goesOn
  unfold SizesDone
  rw [run_snoc, seenIn_snoc]
  intro isSignals
  rw [step_phase _ other notCancelled] at isSignals
  rw [Record.takenUp_append, takenUp_of_other other, List.append_nil]
  rcases (start.run acts).windows_of_other other notCancelled with same | ⟨rfl, unclaimed⟩
  · rw [same]
    exact (done isSignals).imp_right fun late => ⟨late.1, late.2.snoc act⟩
  · exact .inr ⟨nothing unclaimed, acts, [], rfl, unclaimed, isSignals⟩

end SizesDone

section FromOffer

variable (context : Context) (subsystems : List String) (offer : ChannelOffer) (awaited : Bool)
variable (acts : List SessionAct)

theorem sizesDone_run
    (goesOn : ((onOffer context subsystems offer awaited).run acts).phase.leftOff = false) :
    (onOffer context subsystems offer awaited).SizesDone acts := by
  induction acts using List.reverseRecOn with
  | nil => exact fun isSignals => absurd isSignals (Option.some_ne_none _).symm
  | append_singleton acts act inductionHypothesis =>
      rw [run_snoc] at goesOn
      have wentOn := goesOn_of_step goesOn
      by_cases isAdvance : act = .advance
      · subst isAdvance
        exact (inductionHypothesis wentOn).advance goesOn
      · exact (inductionHypothesis wentOn).outside isAdvance goesOn
          (nothing_of_unclaimed context subsystems offer awaited wentOn)

/-! ### Sizes that find no room -/

/-- A size finds no room only before the receiver is handed out, if it is held in the end. -/
theorem noReceiver_of_dropped {earlier later : List SessionAct} {number : Nat}
    {receiver : Receiver WindowSize} {size : WindowSize} :
    let start := onOffer context subsystems offer awaited
    (start.run (earlier ++ later)).phase.leftOff = false →
      (start.run (earlier ++ later)).windowReceivers[number]? = some receiver →
      receiver.held = true → (size, false) ∈ (start.run earlier).sizesBy .advance →
      (start.run earlier).windowReceivers = [] := by
  intro start goesOn found held dropped
  obtain ⟨request, dispatched, arrives⟩ := List.mem_filterMap.1 dropped
  obtain ⟨next, takes, -⟩ := Option.map_eq_some_iff.1 (Option.mem_toList.1 dispatched)
  obtain ⟨_, _, noRoom⟩ := Option.map_eq_some_iff.1 arrives
  have full := of_decide_eq_false (Prod.mk.inj noRoom).2
  have isOpen := (nextRequest?_eq_some (show _ = some (next.1, next.2) from takes)).2.1
  -- The loop takes up a request, so a feed that is full has nobody who waits for it.
  have nobody : (start.run earlier).state.windows.consumer = none := by
    obtain ⟨served, -⟩ := served_of_parked context subsystems offer awaited isOpen (.inr ⟨_, takes⟩)
    refine (Feed.served_iff.1 served).resolve_right fun nothing => full ?_
    rw [nothing]
    decide
  rw [List.eq_nil_iff_forall_not_mem]
  intro earliest member
  obtain ⟨place, wasFound⟩ := List.mem_iff_getElem?.1 member
  have wentOn : (start.run earlier).phase.leftOff = false := goesOn_of_open rfl isOpen
  have notHeld := notHeld_of_detached context subsystems offer awaited wentOn nobody earliest member
  have gone : Desk.Gone ((start.run earlier).desk .windows).receivers place :=
    ⟨earliest, wasFound, notHeld⟩
  have stillGone :=
    gone.run (desk_runs context subsystems offer awaited .windows earlier later goesOn)
  have whole : start.run (earlier ++ later) = (start.run earlier).run later :=
    runFrom_append Session.step start earlier later
  rw [← whole] at stillGone
  have nobodyHeld := notHeld_of_gone context subsystems offer awaited goesOn stillGone receiver
    (List.mem_of_getElem? found)
  exact absurd (nobodyHeld.symm.trans held) Bool.false_ne_true

/-- Somebody waits for sizes only where there is a terminal, and the size of that found room. -/
theorem someKept_of_attached
    (isOpen : ((onOffer context subsystems offer awaited).run acts).closed = false)
    (attached : ((onOffer context subsystems offer awaited).run acts).state.windows.consumer ≠
      none) :
    kept ((onOffer context subsystems offer awaited).seenIn acts).sizes ≠ [] := by
  have terminal := (attentive_run context subsystems offer awaited acts).terminal attached
  rw [(tracks_run context subsystems offer awaited acts isOpen).reflects.terminal] at terminal
  obtain ⟨granted, isGranted⟩ := Option.isSome_iff_exists.1 terminal
  have first := first_kept_run context subsystems offer awaited acts isOpen
  dsimp only at first
  rw [isGranted] at first
  intro nothing
  rw [nothing] at first
  exact absurd first.symm (Option.some_ne_none _)

/-- The handing over of a size is never kept waiting once the receiver is empty. -/
theorem noWindow_of_full {event : Handover} {request : Option (Request × Bool)} {number : Nat}
    {receiver : Receiver WindowSize} :
    let session := (onOffer context subsystems offer awaited).run acts
    session.phase = .handing event request → session.deliver event = .full →
      session.windowReceivers[number]? = some receiver → receiver.held = true →
      receiver.items = [] → event.stage = .signals := by
  intro session phase full found held empty
  have goesOn : session.phase.leftOff = false := by rw [phase, LoopPhase.leftOff]
  cases event with
  | signal => rfl
  | window place size =>
      obtain ⟨alone, isFirst, -⟩ :=
        consumer_of_held context subsystems offer awaited goesOn found held
      have kept := kept_of_goesOn context subsystems offer awaited .windows acts goesOn
      have inHand : (session.desk .windows).inHand = some (place, size) := by
        show session.inHand .windows = _
        rw [inHand, phase]
        rfl
      have known : place < session.windowReceivers.length := kept.inOrder.inHand_known inHand
      rw [alone, List.length_singleton, Nat.lt_one_iff] at known
      subst known isFirst
      have one : receiver.capacity = 1 := capacity_run context subsystems offer awaited goesOn
        receiver (List.mem_of_getElem? found)
      have hasRoom : receiver.hasRoom = true := by
        rw [Receiver.hasRoom, empty, one]
        rfl
      simp only [deliver, found, held, hasRoom] at full
      exact absurd full Delivery.noConfusion

/-- From a receiver that is held and empty everything was taken that the loop has taken up, but for
the size in hand. -/
theorem took_of_empty {number : Nat} {receiver : Receiver WindowSize} :
    let start := onOffer context subsystems offer awaited
    (start.run acts).phase.leftOff = false →
      (start.run acts).windowReceivers[number]? = some receiver → receiver.held = true →
      receiver.items = [] →
      (start.deskBook .windows acts).took.map Prod.snd ++
          ((start.run acts).inHand .windows).toList.map Prod.snd =
        (start.seenIn acts).takenUp .windows := by
  intro start goesOn found held empty
  obtain ⟨alone, -, -⟩ := consumer_of_held context subsystems offer awaited goesOn found held
  have receivers : ((start.run acts).desk .windows).receivers = [receiver] := alone
  have kept := kept_of_goesOn context subsystems offer awaited .windows acts goesOn
  have accounted := kept.sole (by rw [receivers]; rfl) fun other member => by
    rw [receivers, List.mem_singleton] at member
    exact member ▸ held
  rw [takenUp_deskEntriesIn, receivers, List.flatMap_singleton, empty, List.append_nil] at accounted
  exact accounted

/-- Where the receiver is held and empty, what was taken, the size in hand and those that wait are
all there is, up to the size now. -/
theorem upToNow_of_empty {number : Nat} {receiver : Receiver WindowSize} :
    let start := onOffer context subsystems offer awaited
    let session := start.run acts
    session.closed = false → session.windowReceivers[number]? = some receiver →
      receiver.held = true → receiver.items = [] →
      session.state.windows.consumer ≠ none ∧
        UpToNow (start.seenIn acts) session.state
          ((start.deskBook .windows acts).took.map Prod.snd ++
            (session.inHand .windows).toList.map Prod.snd ++ session.state.windows.pending) := by
  intro start session isOpen found held empty
  have goesOn : session.phase.leftOff = false := goesOn_of_open rfl isOpen
  obtain ⟨-, -, consumer⟩ := consumer_of_held context subsystems offer awaited goesOn found held
  have attached : session.state.windows.consumer ≠ none :=
    ne_of_eq_of_ne consumer (Option.some_ne_none 0)
  have someKept := someKept_of_attached context subsystems offer awaited acts isOpen attached
  have current := (tracks_run context subsystems offer awaited acts isOpen).upToNow someKept
  have all := taken_of_open context subsystems offer awaited acts .windows isOpen
  rw [← took_of_empty context subsystems offer awaited acts goesOn found held empty] at all
  change _ ++ session.state.windows.pending = kept (start.seenIn acts).sizes at all
  exact ⟨attached, all ▸ current⟩

/-- Where none is in hand and none waits for a consumer, what was taken is up to the size now. -/
theorem upToNow_of_served {number : Nat} {receiver : Receiver WindowSize} :
    let start := onOffer context subsystems offer awaited
    let session := start.run acts
    session.closed = false → session.windowReceivers[number]? = some receiver →
      receiver.held = true → receiver.items = [] → session.inHand .windows = none →
      session.state.windows.Served →
      UpToNow (start.seenIn acts) session.state
        ((start.deskBook .windows acts).took.map Prod.snd) := by
  intro start session isOpen found held empty free served
  obtain ⟨attached, all⟩ :=
    upToNow_of_empty context subsystems offer awaited acts isOpen found held empty
  have nothing : session.state.windows.pending = [] :=
    (Feed.served_iff.1 served).resolve_left attached
  change UpToNow _ session.state (_ ++ (session.inHand .windows).toList.map Prod.snd ++
    session.state.windows.pending) at all
  rw [free, nothing, Option.toList_none, List.map_nil, List.append_nil, List.append_nil] at all
  exact all

/-- None of the sizes was taken up, and they wait, up to the size now: the loop was handing over
signals when the receiver of sizes was handed out, and waits for a consumer of signals to make
room. -/
structure HeldBack (start : Session) (acts : List SessionAct) : Prop where
  nothing : (start.deskBook .windows acts).took = []
  waiting : UpToNow (start.seenIn acts) (start.run acts).state
    (start.run acts).state.windows.pending
  came : start.CameAmidSignals acts
  full : ∃ consumer raised request,
    (start.run acts).phase = .handing (.signal consumer raised) request ∧
      (start.run acts).deliver (.signal consumer raised) = .full

/-- As long as the session is open, and the receiver of sizes is held and has been emptied: wherever
the loop can do nothing more, all sizes that arrived and found room were taken, the last of them
being the size of the window now unless that one found no room; or else they are held back by
signals that nobody takes, from before the receiver was handed out. And a size finds no room only
before the receiver is handed out. -/
theorem current_size_reached {number : Nat} {receiver : Receiver WindowSize} :
    let start := onOffer context subsystems offer awaited
    let session := start.run acts
    session.closed = false → session.advanceLoop? = none →
      session.windowReceivers[number]? = some receiver → receiver.held = true →
      receiver.items = [] →
      (UpToNow (start.seenIn acts) session.state
          ((start.deskBook .windows acts).took.map Prod.snd) ∨ start.HeldBack acts) ∧
        ∀ earlier later size, acts = earlier ++ .advance :: later →
          (size, false) ∈ (start.run earlier).sizesBy .advance →
          (start.run earlier).windowReceivers = [] := by
  intro start session isOpen settled found held empty
  have goesOn : session.phase.leftOff = false := goesOn_of_open rfl isOpen
  refine ⟨?_, ?_⟩
  · have tookAll :=
      upToNow_of_served context subsystems offer awaited acts isOpen found held empty
    rcases waits_cases isOpen goesOn settled with parked | ⟨event, request, handing, full⟩
    · have free : session.inHand .windows = none := by rw [inHand, parked]
      obtain ⟨served, -⟩ :=
        served_of_parked context subsystems offer awaited isOpen (.inl ⟨parked, settled⟩)
      exact .inl (tookAll free served)
    · have isSignal :=
        noWindow_of_full context subsystems offer awaited acts handing full found held empty
      cases event with
      | window => exact absurd isSignal FlushStage.noConfusion
      | signal consumer raised =>
          have free : session.inHand .windows = none := by
            rw [inHand, handing]
            rfl
          have stage : session.phase.stage? = some .signals := by
            rw [handing]
            rfl
          rcases sizesDone_run context subsystems offer awaited acts goesOn stage with
            served | ⟨nothing, came⟩
          · exact .inl (tookAll free served)
          · have taken :=
              took_of_empty context subsystems offer awaited acts goesOn found held empty
            rw [nothing, List.append_eq_nil_iff] at taken
            obtain ⟨-, all⟩ :=
              upToNow_of_empty context subsystems offer awaited acts isOpen found held empty
            rw [taken.1, taken.2] at all
            exact .inr ⟨List.map_eq_nil_iff.1 taken.1, all, came, consumer, raised, request,
              handing, full⟩
  · rintro earlier later size rfl dropped
    exact noReceiver_of_dropped context subsystems offer awaited goesOn found held dropped

end FromOffer

/-- One size comes before the receiver is handed out and one afterwards, and both are taken. -/
theorem current_size_reached_of_two :
    let terminal : SessionAct :=
      .requests (.send 0 "pty-req" ⟨#[0, 0, 0, 0, 0, 0, 0, 80, 0, 0, 0, 24]⟩ false)
    let resize : SessionAct :=
      .requests (.send 0 "window-change" ⟨#[0, 0, 0, 81, 0, 0, 0, 24]⟩ false)
    let start := onOffer default [] ⟨"session", ByteArray.empty⟩ true
    let acts : List SessionAct :=
      [terminal, .advance, .takeTerminal, .advance, .advance, .takeWindow 0, .advance,
        resize, .advance, .advance, .takeWindow 0, .advance]
    let session := start.run acts
    let took := (start.deskBook .windows acts).took.map Prod.snd
    (session.closed = false ∧ session.advanceLoop? = none ∧
        session.windowReceivers[0]? = some ⟨1, [], true⟩ ∧
        took = [⟨80, 24⟩, ⟨81, 24⟩] ∧ session.state.window = ⟨81, 24⟩) ∧
      (UpToNow (start.seenIn acts) session.state took ∨ start.HeldBack acts) := by
  intro terminal resize start acts session took
  have found : session.windowReceivers[0]? = some ⟨1, [], true⟩ := by decide +kernel
  refine ⟨⟨by decide +kernel, by decide +kernel, found, by decide +kernel, by decide +kernel⟩, ?_⟩
  exact (current_size_reached default [] ⟨"session", ByteArray.empty⟩ true acts
    (by decide +kernel) (by decide +kernel) found rfl rfl).1

/-- Two ways not to learn the size of the window now. Once the last of many sizes found no room,
since nobody had come for any yet; and once the loop waits for a consumer of signals, so that not
even the size of the terminal was handed over. -/
theorem current_size_missed :
    let terminal : SessionAct :=
      .requests (.send 0 "pty-req" ⟨#[0, 0, 0, 0, 0, 0, 0, 80, 0, 0, 0, 24]⟩ false)
    let resize (width : UInt8) : SessionAct :=
      .requests (.send 0 "window-change" ⟨#[0, 0, 0, width, 0, 0, 0, 24]⟩ false)
    let signal : SessionAct := .requests (.send 0 "signal" ⟨#[0, 0, 0, 4, 84, 69, 82, 77]⟩ false)
    let start := onOffer default [] ⟨"session", ByteArray.empty⟩ true
    let many : List SessionAct :=
      [terminal, .advance] ++ (List.replicate 127 [resize 81, .advance, .advance]).flatten ++
        [resize 100, .advance, .advance, .takeTerminal, .advance] ++
        (List.replicate 128 [.advance, .takeWindow 0]).flatten ++ [.advance, .advance]
    let stuck : List SessionAct :=
      [terminal, .advance, .registerSignals 1, .advance, .advance, signal, .advance, .advance,
        .advance, signal, .advance, .advance, .takeTerminal]
    let took (acts : List SessionAct) := (start.deskBook .windows acts).took.map Prod.snd
    ((start.run many).closed = false ∧ (start.run many).advanceLoop? = none ∧
        (start.run many).windowReceivers = [⟨1, [], true⟩] ∧
        (took many).getLast? = some ⟨81, 24⟩ ∧ (start.run many).state.window = ⟨100, 24⟩) ∧
      (start.run stuck).closed = false ∧ (start.run stuck).advanceLoop? = none ∧
        (start.run stuck).windowReceivers = [⟨1, [], true⟩] ∧
        took stuck = [] ∧ (start.run stuck).state.window = ⟨80, 24⟩ := by
  decide +kernel

end SshServer.Session
