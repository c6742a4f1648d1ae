import SshServer.Proofs.Session.Handover

/-!
Contract: the sizes of the window reach the one receiver that there is for them, each of them once,
in order, and that of the terminal first.

Owns: that a receiver of sizes is handed out once at most; that the size of the terminal always
finds room; and where the sizes are, at any time.
Does not own: the way of an event through a desk (`Proofs.Session.Handover`).
-/

namespace SshServer

namespace Session

/-! ### One receiver -/

/-- Only a terminal comes with a receiver of sizes. -/
theorem registered_of_other (session : Session) {act : SessionAct} (other : act ≠ .takeTerminal) :
    (session.deskEntries .windows act).filterMap DeskEntry.registered? = [] := by
  cases act with
  | takeTerminal => exact absurd rfl other
  | advance =>
      rw [deskEntries_advance]
      exact session.registered_loopEntries .windows
  | takeWindow receiver =>
      rw [deskEntries]
      cases session.takeWindow? receiver with
      | none => rfl
      | some taken => rfl
  | _ => rfl

/-- An operation hands out no receiver of sizes, or it is the first one to do so. -/
theorem registered_cases (session : Session) (act : SessionAct) :
    (session.deskEntries .windows act).filterMap DeskEntry.registered? = [] ∨
      ∃ receiver, (session.deskEntries .windows act).filterMap DeskEntry.registered? = [receiver] ∧
        session.state.windowsClaimed = false ∧
        (session.step act).state.windowsClaimed = true := by
  cases act with
  | takeTerminal =>
      show List.filterMap _ (session.takeTerminal.2.2.toList.map _) = [] ∨
        ∃ receiver, List.filterMap _ (session.takeTerminal.2.2.toList.map _) = [receiver] ∧
          session.state.windowsClaimed = false ∧
          session.takeTerminal.1.state.windowsClaimed = true
      unfold takeTerminal
      split
      · exact .inl rfl
      · split
        · exact .inl rfl
        next notClaimed =>
          rw [Bool.not_eq_true] at notClaimed
          exact .inr ⟨_, rfl, notClaimed, rfl⟩
  | _ => exact .inl (session.registered_of_other SessionAct.noConfusion)

/-- Over any run, receivers of sizes are handed out once at most. -/
theorem registered_length (session : Session) (acts : List SessionAct) :
    ((session.deskEntriesIn .windows acts).filterMap DeskEntry.registered?).length ≤
      if session.state.windowsClaimed then 0 else 1 := by
  -- Once a receiver was handed out there is none left, so the bound drops with the first one.
  induction acts generalizing session with
  | nil => exact Nat.zero_le _
  | cons act rest inductionHypothesis =>
      have later := inductionHypothesis (session.step act)
      have entries : session.deskEntriesIn .windows (act :: rest) =
          session.deskEntries .windows act ++ (session.step act).deskEntriesIn .windows rest := rfl
      rw [entries, List.filterMap_append, List.length_append]
      rcases session.registered_cases act with nobody | ⟨receiver, first, wasFree, isClaimed⟩
      · rw [nobody, List.length_nil, Nat.zero_add]
        cases isClaimed : session.state.windowsClaimed with
        | true =>
            rw [claimed_step isClaimed act] at later
            exact later
        | false =>
            refine Nat.le_trans later ?_
            split
            · exact Nat.zero_le _
            · exact Nat.le_refl _
      · rw [isClaimed, if_pos rfl] at later
        rw [first, wasFree, if_neg Bool.false_ne_true, List.length_singleton]
        omega

/-! ### The first size -/

section FirstSize

variable {subsystems : List String} {record : Record} {session : Session}

/-- The size of the terminal finds room, since there was none before. -/
theorem Tracks.first_kept (tracks : Tracks subsystems record session)
    (before : (kept record.sizes).head? = (History.terminal record.requests).map Terminal.window)
    (act : SessionAct) :
    (kept (record.append (session.seenBy act)).sizes).head? =
      (History.terminal (record.append (session.seenBy act)).requests).map Terminal.window := by
  obtain rfl := tracks.served
  have unseen (nothing : session.dispatchedBy act = []) :
      (kept (record.append (session.seenBy act)).sizes).head? =
        (History.terminal (record.append (session.seenBy act)).requests).map Terminal.window := by
    simp only [Record.append, seenBy, sizesBy, nothing, List.filterMap_nil, List.append_nil]
    exact before
  cases act with
  | advance =>
      cases next : session.nextRequest? with
      | none => exact unseen (by rw [dispatchedBy, next]; rfl)
      | some taken =>
          obtain ⟨request, requests⟩ := taken
          rw [seenBy_of_nextRequest tracks.reflects next, Record.append]
          dsimp only
          rw [kept_append, List.head?_append, before, History.terminal_snoc, Option.map_or]
          cases found : History.terminal record.requests with
          | some terminal => rfl
          | none =>
              have empty : session.state.windows.pending = [] := by
                rw [found, Option.map_none, List.head?_eq_none_iff, ← tracks.windowsKept] at before
                exact (List.append_eq_nil_iff.1 before).2
              have size : History.sizeGranted record.requests request =
                  request.terminalAsked.map Terminal.window := by
                rw [History.sizeGranted, found]
                rfl
              rw [size, arrival, empty]
              cases request.terminalAsked with
              | none => rfl
              | some terminal => rfl
  | _ => exact unseen rfl

theorem first_kept_run (context : Context) (subsystems : List String) (offer : ChannelOffer)
    (awaited : Bool) (acts : List SessionAct)
    (isOpen : ((Session.onOffer context subsystems offer awaited).run acts).closed = false) :
    let seen := (Session.onOffer context subsystems offer awaited).seenIn acts
    (kept seen.sizes).head? = (History.terminal seen.requests).map Terminal.window := by
  refine open_run _ (fun acts => (kept (seenIn _ acts).sizes).head? =
    (History.terminal (seenIn _ acts).requests).map Terminal.window) rfl ?_ acts isOpen
  intro acts act wasOpen _ before
  rw [seenIn_snoc]
  exact (tracks_run context subsystems offer awaited acts wasOpen).first_kept before act

end FirstSize

/-- Over any run, receivers of window sizes are handed out once at most. As long as the session is
open and its receiver was not dropped, what was taken from the receiver, what is in it, what the
loop has in hand and what waits in the feed are the sizes that arrived and found room, in order;
and the first of them is that of the terminal. -/
theorem windows_delivered_in_order (context : Context) (subsystems : List String)
    (offer : ChannelOffer) (awaited : Bool) (acts : List SessionAct) :
    let start := Session.onOffer context subsystems offer awaited
    let session := start.run acts
    let seen := start.seenIn acts
    let book := start.deskBook .windows acts
    book.registered.length ≤ 1 ∧
      (session.closed = false →
        (∀ receiver ∈ session.windowReceivers, receiver.held = true) →
          book.took.map Prod.snd ++ session.windowReceivers.flatMap Receiver.items ++
              (session.inHand .windows).toList.map Prod.snd ++ session.state.windows.pending =
            kept seen.sizes ∧
          seen.sizes.map Prod.fst = History.sizes seen.requests ∧
          (kept seen.sizes).head? = (History.terminal seen.requests).map Terminal.window) := by
  intro start session seen book
  have atMostOne : book.registered.length ≤ 1 := by
    show (DeskBook.ofEntries _).registered.length ≤ 1
    rw [DeskBook.registered_ofEntries]
    exact start.registered_length acts
  refine ⟨atMostOne, fun isOpen held => ?_⟩
  have tracks := tracks_run context subsystems offer awaited acts isOpen
  have deskKept := kept_run context subsystems offer awaited .windows acts isOpen
  have oneReceiver : session.windowReceivers.length ≤ 1 :=
    Nat.le_trans deskKept.inOrder.made atMostOne
  have accounted := deskKept.sole oneReceiver held
  rw [takenUp_deskEntriesIn, Handover.inStage_windows] at accounted
  refine ⟨?_, tracks.sizes, first_kept_run context subsystems offer awaited acts isOpen⟩
  rw [← tracks.windowsKept, ← accounted]
  rfl

/-- Of four sizes, one was taken, one is in the receiver, one in hand and one waits. -/
theorem windows_delivered_in_order_of_four :
    let terminal : SessionAct :=
      .requests (.send 0 "pty-req" ⟨#[0, 0, 0, 0, 0, 0, 0, 80, 0, 0, 0, 24]⟩ false)
    let resize (width : UInt8) : SessionAct :=
      .requests (.send 0 "window-change" ⟨#[0, 0, 0, width, 0, 0, 0, 24]⟩ false)
    let start := Session.onOffer default [] ⟨"session", ByteArray.empty⟩ true
    let acts : List SessionAct :=
      [terminal, .advance, resize 81, .advance, .advance, resize 82, .advance, .advance,
        resize 83, .advance, .advance, .takeTerminal, .advance, .advance, .advance,
        .takeWindow 0, .advance, .advance]
    let session := start.run acts
    let book := start.deskBook .windows acts
    session.closed = false ∧ (∀ receiver ∈ session.windowReceivers, receiver.held = true) ∧
      book.registered = [0] ∧ book.took = [(0, ⟨80, 24⟩)] ∧
      session.inHand .windows = some (0, ⟨82, 24⟩) ∧
      session.state.windows.pending = [⟨83, 24⟩] ∧
      book.took.map Prod.snd ++ session.windowReceivers.flatMap Receiver.items ++
          (session.inHand .windows).toList.map Prod.snd ++ session.state.windows.pending =
        kept (start.seenIn acts).sizes :=
  ⟨by decide +kernel, by decide +kernel, by decide +kernel, by decide +kernel, by decide +kernel,
    by decide +kernel,
    ((windows_delivered_in_order default [] ⟨"session", ByteArray.empty⟩ true _).2
      (by decide +kernel) (by decide +kernel)).1⟩

end Session

end SshServer
