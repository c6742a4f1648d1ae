import SshServer.Proofs.Session.Handover

/-!
Contract: signals reach whoever is registered for them, in order, and none of them twice.

Owns: where the signals are, at any time; which of them are lost; and whose they are where receivers
replace each other.
Does not own: the way of an event through a desk (`Proofs.Session.Handover`).

A receiver that is dropped stays dropped, and everything here holds after every part of a run, so a
signal is lost only where its receiver had been dropped before.
-/

namespace SshServer

namespace Session

/-- What becomes of signals, in terms of what is seen of the loop and of the book of their desk. -/
structure SignalsInTurn (seen : Record) (book : DeskBook Signal) (session : Session) : Prop where
  /-- What was handed over or lost, what is in hand and what waits in the feed are the signals that
  arrived and found room, in order. -/
  inOrder : (book.passed.map fun entry => entry.1.event) ++
      (session.inHand .signals).toList.map Prod.snd ++ session.state.signals.pending =
    kept seen.signals
  /-- The signals that arrived are those of a known name. -/
  arrived : seen.signals.map Prod.fst = seen.requests.filterMap Request.signalAsked
  /-- A signal is lost only with its receiver. -/
  lostWithReceiver : ∀ parcel ∈ book.lost, ∃ receiver,
    session.signalReceivers[parcel.receiver]? = some receiver ∧ receiver.held = false
  /-- A registration loses at most one. -/
  lostOnce : (book.lost.map Parcel.registrations).Pairwise (· < ·)
  /-- A signal is for the receiver that was registered last when it was taken up. -/
  addressed : ∀ parcel ∈ book.parcels, book.Addressed parcel
  /-- After a signal of a registration comes none of an earlier one. -/
  ordered : (book.parcels.map Parcel.registrations).Pairwise (· ≤ ·)
  /-- What was handed to a receiver was taken from it, or is there to be taken. -/
  received : ∀ number receiver, session.signalReceivers[number]? = some receiver →
    receiver.held = true →
      Desk.entriesOf number book.took ++ receiver.items = Desk.entriesOf number book.handedOver

/-- As long as a session is open, whoever registers and drops receivers, and when: what was handed
over or lost, what is in hand and what waits are the signals that were accepted, in order. A signal
is lost only with its receiver, one for each registration at most, and none goes to a receiver after
one of a later registration was taken up. -/
theorem signals_delivered_in_order (context : Context) (subsystems : List String)
    (offer : ChannelOffer) (awaited : Bool) (acts : List SessionAct)
    (isOpen : ((Session.onOffer context subsystems offer awaited).run acts).closed = false) :
    let start := Session.onOffer context subsystems offer awaited
    SignalsInTurn (start.seenIn acts) (start.deskBook .signals acts) (start.run acts) := by
  intro start
  have tracks := tracks_run context subsystems offer awaited acts isOpen
  have deskKept := kept_run context subsystems offer awaited .signals acts isOpen
  have accounted := deskKept.passed
  rw [takenUp_deskEntriesIn, Handover.inStage_signals] at accounted
  constructor
  case inOrder =>
    rw [← tracks.signalsKept, ← accounted]
    rfl
  case arrived => exact tracks.signals
  case lostWithReceiver => exact deskKept.losesOnce.gone
  case lostOnce => exact deskKept.losesOnce.once
  case addressed => exact deskKept.inOrder.addressed
  case ordered => exact deskKept.inOrder.ordered
  case received => exact deskKept.balance.balanced

/-- A receiver is replaced and dropped while a signal waits for it. That signal is lost, and those
after it go to the other receiver. -/
theorem signals_delivered_in_order_after_loss :
    let signal (name : Array UInt8) : SessionAct :=
      .requests (.send 0 "signal" ⟨#[0, 0, 0, name.size.toUInt8] ++ name⟩ false)
    let start := Session.onOffer default [] ⟨"session", ByteArray.empty⟩ true
    let acts : List SessionAct :=
      [signal #[84, 69, 82, 77], .advance, .advance, signal #[73, 78, 84], .advance, .advance,
        signal #[72, 85, 80], .advance, .advance, signal #[81, 85, 73, 84], .advance, .advance,
        .registerSignals 1, .advance, .advance, .advance, .registerSignals 1, .dropSignals 0,
        .advance, .advance, .advance, .takeSignal 1]
    let session := start.run acts
    let book := start.deskBook .signals acts
    session.closed = false ∧ book.registered = [0, 1] ∧ book.took = [(1, .hup)] ∧
      book.passed.map (fun entry => (entry.1.event, entry.2)) =
        [(.term, true), (.int, false), (.hup, true)] ∧
      session.inHand .signals = some (1, .quit) ∧
      SignalsInTurn (start.seenIn acts) book session :=
  ⟨by decide +kernel, by decide +kernel, by decide +kernel, by decide +kernel, by decide +kernel,
    signals_delivered_in_order default [] ⟨"session", ByteArray.empty⟩ true _
      (by decide +kernel)⟩

end Session

end SshServer
