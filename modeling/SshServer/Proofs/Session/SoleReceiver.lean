import SshServer.Proofs.Session.Numbering
import SshServer.Proofs.Session.Windows

/-!
Contract: there is one receiver of window sizes, and as long as it is held the sizes go to it.

Owns: that sizes are taken up only after the receiver was handed out; that it holds one size; that
it stays attached until it is dropped; and that nobody but the loop touches the sizes from then on.
Does not own: which sizes there are and where they are (`Proofs.Session.Windows`).

All of this holds as long as the loop goes on, which it may do for a while after the session was
closed.
-/

namespace SshServer

theorem Receiver.capacity_of_take {α : Type} {receiver rest : Receiver α} {event : α}
    (taken : receiver.take? = some (event, rest)) : rest.capacity = receiver.capacity := by
  unfold take? at taken
  split at taken
  · exact absurd taken (Option.some_ne_none _).symm
  · rw [← (Prod.mk.inj (Option.some.inj taken)).2]

namespace Desk

variable {α : Type} {desk after : Desk α} {bound : Nat}

/-- Whoever makes no receiver leaves them as large as they are. -/
theorem Moves.capacity {entry : DeskEntry α} (moves : Moves desk entry after)
    (notMade : entry.registered? = none)
    (all : ∀ receiver ∈ desk.receivers, receiver.capacity = bound) :
    ∀ receiver ∈ after.receivers, receiver.capacity = bound := by
  have ofSet {number : Nat} {receiver rest : Receiver α}
      (found : desk.receivers[number]? = some receiver)
      (same : rest.capacity = receiver.capacity) :
      ∀ other ∈ desk.receivers.set number rest, other.capacity = bound := by
    intro other member
    rcases List.mem_or_eq_of_mem_set member with before | rfl
    · exact all other before
    · exact same.trans (all receiver (List.mem_of_getElem? found))
  cases moves with
  | enrolled | registered => exact absurd notMade (Option.some_ne_none _)
  | took number receiver rest event found taken =>
      exact ofSet found (Receiver.capacity_of_take taken)
  | dropped number =>
      intro other member
      obtain ⟨place, found⟩ := List.mem_iff_getElem?.1 member
      rw [List.getElem?_modify] at found
      obtain ⟨receiver, wasFound, rfl⟩ := Option.map_eq_some_iff.1 found
      have before := all receiver (List.mem_of_getElem? wasFound)
      split
      · exact before
      · exact before
  | handed number event receiver _ found => exact ofSet found rfl
  | takenUp | lost => exact all

theorem Runs.capacity {entries : List (DeskEntry α)} (runs : Runs desk entries after)
    (noneMade : entries.filterMap DeskEntry.registered? = [])
    (all : ∀ receiver ∈ desk.receivers, receiver.capacity = bound) :
    ∀ receiver ∈ after.receivers, receiver.capacity = bound := by
  rw [List.filterMap_eq_nil_iff] at noneMade
  induction runs with
  | nil => exact all
  | cons moves _ inductionHypothesis =>
      obtain ⟨first, rest⟩ := List.forall_mem_cons.1 noneMade
      exact inductionHypothesis rest (moves.capacity first all)

end Desk

namespace Session

/-- Where somebody was registered, the receiver was handed out. -/
theorem claimed_of_registered (session : Session) (acts : List SessionAct)
    (somebody : (session.deskEntriesIn .windows acts).filterMap DeskEntry.registered? ≠ []) :
    (session.run acts).state.windowsClaimed = true := by
  induction acts using List.reverseRecOn with
  | nil => exact absurd rfl somebody
  | append_singleton acts act inductionHypothesis =>
      rw [run_snoc]
      rw [deskEntriesIn_snoc, List.filterMap_append] at somebody
      rcases (session.run acts).registered_cases act with nobody | ⟨_, -, -, isClaimed⟩
      · rw [nobody, List.append_nil] at somebody
        exact claimed_step (inductionHypothesis somebody) act
      · exact isClaimed

/-- Nobody but the loop touches the sizes, unless the receiver is handed out. -/
theorem windows_of_other (session : Session) {act : SessionAct} (other : act ≠ .advance)
    (notCancelled : act ≠ .cancel) :
    (session.step act).state.windows = session.state.windows ∨
      act = .takeTerminal ∧ session.state.windowsClaimed = false := by
  have ofExit (status : UInt32) :
      (session.exit status).1.state.windows = session.state.windows := by
    unfold exit
    split
    · rfl
    · rfl
  cases act with
  | advance => exact absurd rfl other
  | cancel => exact absurd rfl notCancelled
  | takeTerminal =>
      show session.takeTerminal.1.state.windows = _ ∨ _
      unfold takeTerminal
      split
      · exact .inl rfl
      · split
        · exact .inl rfl
        next notClaimed => exact .inr ⟨rfl, Bool.eq_false_iff.2 notClaimed⟩
  | reregisterSignals receiver =>
      show (session.reregisterSignals receiver).state.windows = _ ∨ _
      unfold reregisterSignals
      split
      · exact .inl rfl
      · exact .inl rfl
  | takeWindow receiver =>
      obtain ⟨_, same⟩ := session.takeWindow_cases receiver
      rw [same]
      exact .inl rfl
  | takeSignal receiver =>
      obtain ⟨_, same⟩ := session.takeSignal_cases receiver
      rw [same]
      exact .inl rfl
  | exit status => exact .inl (ofExit status)
  | endHandler ending =>
      show (session.endHandler ending).state.windows = _ ∨ _
      unfold endHandler
      split
      · exact .inl (ofExit ending.status)
      · exact .inl rfl
  | loseHandler =>
      show session.loseHandler.state.windows = _ ∨ _
      unfold loseHandler
      split
      · exact .inl rfl
      · exact .inl rfl
  | _ => exact .inl rfl

section FromOffer

variable (context : Context) (subsystems : List String) (offer : ChannelOffer) (awaited : Bool)
variable {acts : List SessionAct}

/-- No size is taken up before the receiver is handed out. -/
theorem nothing_of_unclaimed
    (goesOn : ((onOffer context subsystems offer awaited).run acts).phase.leftOff = false)
    (unclaimed : ((onOffer context subsystems offer awaited).run acts).state.windowsClaimed =
      false) :
    ((onOffer context subsystems offer awaited).seenIn acts).takenUp .windows = [] := by
  have kept := kept_of_goesOn context subsystems offer awaited .windows acts goesOn
  have taken := kept.takenUp
  rw [takenUp_deskEntriesIn] at taken
  rw [Record.takenUp, ← taken, List.map_eq_nil_iff, List.eq_nil_iff_forall_not_mem]
  intro parcel member
  have registered := (kept.inOrder.addressed parcel member).mem
  rw [DeskBook.registered_ofEntries] at registered
  have isClaimed := claimed_of_registered (onOffer context subsystems offer awaited) acts
    (List.ne_nil_of_mem registered)
  exact absurd (unclaimed.symm.trans isClaimed) Bool.false_ne_true

theorem claimed_of_consumer
    (goesOn : ((onOffer context subsystems offer awaited).run acts).phase.leftOff = false)
    (attached : ((onOffer context subsystems offer awaited).run acts).state.windows.consumer ≠
      none) :
    ((onOffer context subsystems offer awaited).run acts).state.windowsClaimed = true := by
  have kept := kept_of_goesOn context subsystems offer awaited .windows acts goesOn
  obtain ⟨number, isConsumer⟩ := Option.ne_none_iff_exists'.1 attached
  have registered := List.mem_of_getLast? (kept.inOrder.consumer number isConsumer)
  rw [DeskBook.registered_ofEntries] at registered
  exact claimed_of_registered _ acts (List.ne_nil_of_mem registered)

/-- A receiver that is held is the first and only one, and the sizes go to it. -/
theorem consumer_of_held
    (goesOn : ((onOffer context subsystems offer awaited).run acts).phase.leftOff = false)
    {number : Nat} {receiver : Receiver WindowSize} :
    let session := (onOffer context subsystems offer awaited).run acts
    session.windowReceivers[number]? = some receiver → receiver.held = true →
      session.windowReceivers = [receiver] ∧ number = 0 ∧
        session.state.windows.consumer = some 0 := by
  intro session found held
  have kept := kept_of_goesOn context subsystems offer awaited .windows acts goesOn
  have made := kept.inOrder.made
  have known := kept.inOrder.known
  have nobody : Desk.Attached ({} : Desk WindowSize) (.ofEntries []) :=
    fun _ last => absurd last (Option.some_ne_none _).symm
  have attached : (session.desk .windows).Attached
      (.ofEntries ((onOffer context subsystems offer awaited).deskEntriesIn .windows acts)) :=
    nobody.run (desk_runs context subsystems offer awaited .windows [] acts goesOn)
  have atMostOne := (onOffer context subsystems offer awaited).registered_length acts
  rw [← DeskBook.registered_ofEntries] at atMostOne
  change _ ≤ 1 at atMostOne
  change session.windowReceivers.length ≤ _ at made
  have place : number < session.windowReceivers.length := (List.getElem?_eq_some_iff.1 found).1
  -- There is a receiver, so there is exactly one registration.
  obtain ⟨only, registered⟩ := List.length_eq_one_iff.1
    (Nat.le_antisymm atMostOne (by omega : 1 ≤ List.length _))
  have onlyOne : session.windowReceivers.length = 1 := by
    rw [registered] at made
    exact Nat.le_antisymm made (by omega)
  have isFirst : number = 0 := by omega
  have isOnly : only = 0 := by
    have isKnown : only < session.windowReceivers.length :=
      known only (registered ▸ List.mem_singleton_self only)
    omega
  subst isFirst isOnly
  obtain ⟨sole, alone⟩ := List.length_eq_one_iff.1 onlyOne
  have isSole : sole = receiver := Option.some.inj (by rw [← found, alone]; rfl)
  refine ⟨isSole ▸ alone, rfl, ?_⟩
  rcases attached 0 (by rw [registered]; rfl) with consumer | ⟨other, isOther, gone⟩
  · exact consumer
  · have same : receiver = other := Option.some.inj (found.symm.trans isOther)
    exact absurd (held.symm.trans (same ▸ gone)) Bool.true_eq_false.mp

/-- Where nobody is attached, no receiver is held. -/
theorem notHeld_of_detached
    (goesOn : ((onOffer context subsystems offer awaited).run acts).phase.leftOff = false)
    (detached : ((onOffer context subsystems offer awaited).run acts).state.windows.consumer =
      none) :
    ∀ receiver ∈ ((onOffer context subsystems offer awaited).run acts).windowReceivers,
      receiver.held = false := by
  intro receiver member
  rw [← Bool.not_eq_true]
  intro held
  obtain ⟨number, found⟩ := List.mem_iff_getElem?.1 member
  obtain ⟨-, -, consumer⟩ := consumer_of_held context subsystems offer awaited goesOn found held
  exact absurd (detached.symm.trans consumer) (Option.some_ne_none _).symm

/-- Where a receiver is gone, none is held. -/
theorem notHeld_of_gone
    (goesOn : ((onOffer context subsystems offer awaited).run acts).phase.leftOff = false)
    {place : Nat} :
    let session := (onOffer context subsystems offer awaited).run acts
    Desk.Gone session.windowReceivers place →
      ∀ receiver ∈ session.windowReceivers, receiver.held = false := by
  intro session gone receiver member
  obtain ⟨other, isOther, notHeld⟩ := gone
  rw [← Bool.not_eq_true]
  intro held
  obtain ⟨number, found⟩ := List.mem_iff_getElem?.1 member
  obtain ⟨alone, -, -⟩ := consumer_of_held context subsystems offer awaited goesOn found held
  have isSole : other ∈ session.windowReceivers := List.mem_of_getElem? isOther
  rw [alone, List.mem_singleton] at isSole
  exact absurd (notHeld.symm.trans (isSole ▸ held)) Bool.false_ne_true

/-- A receiver of sizes holds one of them. -/
theorem capacity_run
    (goesOn : ((onOffer context subsystems offer awaited).run acts).phase.leftOff = false) :
    ∀ receiver ∈ ((onOffer context subsystems offer awaited).run acts).windowReceivers,
      receiver.capacity = 1 := by
  induction acts using List.reverseRecOn with
  | nil => exact fun _ member => absurd member List.not_mem_nil
  | append_singleton acts act inductionHypothesis =>
      rw [run_snoc] at goesOn ⊢
      have wentOn := goesOn_of_step goesOn
      have before := inductionHypothesis wentOn
      by_cases claims : act = .takeTerminal
      · subst claims
        show ∀ receiver ∈ (takeTerminal _).1.windowReceivers, receiver.capacity = 1
        unfold takeTerminal
        split
        · exact before
        · split
          · exact before
          · intro receiver member
            rcases List.mem_append.1 member with wasThere | isNew
            · exact before receiver wasThere
            · rw [List.mem_singleton.1 isNew]
      · have kept := kept_of_goesOn context subsystems offer awaited .windows acts wentOn
        have runs := runs_of_step context subsystems offer awaited .windows kept goesOn
        exact runs.capacity (registered_of_other _ claims) before

end FromOffer

end Session

end SshServer
