import SshServer.Proofs.Session.Desk

/-!
Contract: what receivers hold of the events that were handed over to them, and what the book says of
every desk, whatever happened.

Owns: the balance of a receiver; and that all that is known of a desk is kept as it goes on.
Does not own: what can happen at a desk (`Proofs.Session.Desk`).
-/

namespace SshServer

namespace Desk

variable {α : Type}

/-! ### What receivers hold -/

/-- The entries that concern one receiver. -/
def entriesOf (number : Nat) (entries : List (Nat × α)) : List α :=
  (entries.filter fun entry => entry.1 == number).map Prod.snd

theorem entriesOf_snoc_self (number : Nat) (entries : List (Nat × α)) (event : α) :
    entriesOf number (entries ++ [(number, event)]) = entriesOf number entries ++ [event] := by
  simp [entriesOf, List.filter_append]

theorem entriesOf_snoc_other {number other : Nat} (isOther : other ≠ number)
    (entries : List (Nat × α)) (event : α) :
    entriesOf number (entries ++ [(other, event)]) = entriesOf number entries := by
  simp [entriesOf, List.filter_append, isOther]

/-- Nothing concerns a receiver that does not exist yet. -/
theorem entriesOf_eq_nil {bound number : Nat} {entries : List (Nat × α)}
    (known : ∀ entry ∈ entries, entry.1 < bound) (unknown : bound ≤ number) :
    entriesOf number entries = [] := by
  rw [entriesOf, List.filter_eq_nil_iff.2, List.map_nil]
  intro entry member same
  have below := known entry member
  have isNumber := beq_iff_eq.1 same
  omega

theorem entriesOf_eq_map {number : Nat} {entries : List (Nat × α)}
    (only : ∀ entry ∈ entries, entry.1 = number) :
    entriesOf number entries = entries.map Prod.snd := by
  rw [entriesOf, List.filter_eq_self.2]
  intro entry member
  exact beq_iff_eq.2 (only entry member)

/-- What was handed to a receiver was taken by its holder or is there to be taken, in order, unless
the receiver was dropped. -/
structure Balanced (desk : Desk α) (book : DeskBook α) : Prop where
  balanced : ∀ number receiver, desk.receivers[number]? = some receiver → receiver.held = true →
    entriesOf number book.took ++ receiver.items = entriesOf number book.handedOver
  known : ∀ entry ∈ book.took, entry.1 < desk.receivers.length

theorem InOrder.handedOver_known {desk : Desk α} {book : DeskBook α} (inOrder : InOrder desk book) :
    ∀ entry ∈ book.handedOver, entry.1 < desk.receivers.length := by
  intro entry member
  obtain ⟨passed, filtered, rfl⟩ := List.mem_map.1 member
  have isParcel : passed.1 ∈ book.parcels :=
    List.mem_append_left _ (List.mem_map_of_mem (List.mem_filter.1 filtered).1)
  exact inOrder.known _ (inOrder.addressed _ isParcel).mem

namespace Balanced

variable {desk after : Desk α} {book : DeskBook α}

/-- Nothing concerns a receiver that has just been made. -/
theorem enroll (balance : Balanced desk book) (inOrder : InOrder desk book) (capacity : Nat) :
    Balanced
      { desk with
          consumer := some desk.receivers.length
          receivers := desk.receivers ++ [{ capacity := capacity }] }
      (book.enter (.registered desk.receivers.length)) where
  balanced := by
    intro number receiver found held
    by_cases before : number < desk.receivers.length
    · have wasFound := (List.getElem?_append_left before).symm.trans found
      exact balance.balanced number receiver wasFound held
    · have noneTaken : entriesOf number book.took = [] :=
        entriesOf_eq_nil balance.known (Nat.le_of_not_lt before)
      have noneHanded : entriesOf number book.handedOver = [] :=
        entriesOf_eq_nil inOrder.handedOver_known (Nat.le_of_not_lt before)
      have isNew : receiver.items = [] := by
        have bound := (List.getElem?_eq_some_iff.1 found).1
        rw [List.length_append, List.length_singleton] at bound
        have isLast : number = desk.receivers.length := by omega
        rw [isLast, List.getElem?_concat_length] at found
        rw [← Option.some.inj found]
      show entriesOf number book.took ++ receiver.items = entriesOf number book.handedOver
      rw [noneTaken, noneHanded, isNew, List.nil_append]
  known := by
    intro entry member
    have known : entry.1 < desk.receivers.length := balance.known entry member
    show entry.1 < (desk.receivers ++ [({ capacity := capacity } : Receiver α)]).length
    rw [List.length_append]
    omega

/-- One receiver changes, and what concerns it is entered. -/
theorem set {number : Nat} {receiver rest : Receiver α} (balance : Balanced desk book)
    (found : desk.receivers[number]? = some receiver) (inHand : Option (Nat × α))
    {later : DeskBook α}
    (others : ∀ other, other ≠ number →
      entriesOf other later.took = entriesOf other book.took ∧
        entriesOf other later.handedOver = entriesOf other book.handedOver)
    (own : rest.held = true → entriesOf number later.took ++ rest.items =
      entriesOf number later.handedOver)
    (known : ∀ entry ∈ later.took, entry.1 < desk.receivers.length) :
    Balanced { desk with receivers := desk.receivers.set number rest, inHand } later where
  balanced := by
    intro other current isFound held
    have bound : number < desk.receivers.length := (List.getElem?_eq_some_iff.1 found).1
    by_cases same : number = other
    · subst same
      have isRest : rest = current :=
        Option.some.inj ((List.getElem?_set_self bound).symm.trans isFound)
      rw [← isRest] at held ⊢
      exact own held
    · obtain ⟨sameTook, sameHanded⟩ := others other fun isNumber => same isNumber.symm
      rw [sameTook, sameHanded]
      exact balance.balanced other current ((List.getElem?_set_ne same).symm.trans isFound) held
  known := by
    show ∀ entry ∈ later.took, entry.1 < (desk.receivers.set number rest).length
    rw [List.length_set]
    exact known

theorem take {number : Nat} {receiver rest : Receiver α} {event : α} (balance : Balanced desk book)
    (found : desk.receivers[number]? = some receiver)
    (taken : receiver.take? = some (event, rest)) :
    Balanced { desk with receivers := desk.receivers.set number rest }
      (book.enter (.took number event)) := by
  obtain ⟨items, same⟩ := Receiver.take?_eq_some taken
  apply balance.set found desk.inHand
  case others => exact fun other isOther => ⟨entriesOf_snoc_other isOther.symm _ _, rfl⟩
  case own =>
    intro held
    have before := balance.balanced number receiver found (same ▸ held)
    show entriesOf number (book.took ++ [(number, event)]) ++ rest.items = _
    rw [entriesOf_snoc_self, List.append_assoc, List.singleton_append, ← items]
    exact before
  case known =>
    intro entry member
    rcases List.mem_append.1 member with before | isNew
    · exact balance.known entry before
    · rw [List.mem_singleton.1 isNew]
      exact (List.getElem?_eq_some_iff.1 found).1

theorem hand {number : Nat} {event : α} {receiver : Receiver α} (balance : Balanced desk book)
    (inOrder : InOrder desk book) (inHand : desk.inHand = some (number, event))
    (found : desk.receivers[number]? = some receiver) (held : receiver.held = true) :
    Balanced
      { desk with
          receivers := desk.receivers.set number (receiver.put event)
          inHand := none }
      (book.enter .handed) := by
  obtain ⟨parcel, bookHand, same⟩ := Option.map_eq_some_iff.1 (inOrder.inHand.symm.trans inHand)
  obtain ⟨rfl, rfl⟩ := Prod.mk.inj same
  have handedOver : (book.conclude true).handedOver =
      book.handedOver ++ [(parcel.receiver, parcel.event)] :=
    (DeskBook.handedOver_conclude bookHand).1
  apply balance.set found none
  case others =>
    intro other isOther
    rw [DeskBook.enter, handedOver, entriesOf_snoc_other isOther.symm]
    exact ⟨rfl, rfl⟩
  case own =>
    intro _
    have before := balance.balanced parcel.receiver receiver found held
    rw [DeskBook.enter, handedOver, entriesOf_snoc_self, ← before, List.append_assoc]
    rfl
  case known => exact balance.known

theorem drop (balance : Balanced desk book) (number : Nat) :
    Balanced { desk with receivers := desk.receivers.modify number Receiver.drop } book where
  balanced := by
    intro other current isFound held
    rw [List.getElem?_modify] at isFound
    obtain ⟨receiver, found, isCurrent⟩ := Option.map_eq_some_iff.1 isFound
    by_cases same : number = other
    · rw [if_pos same] at isCurrent
      rw [← isCurrent] at held
      exact absurd held Bool.false_ne_true
    · rw [if_neg same] at isCurrent
      rw [← isCurrent] at held ⊢
      exact balance.balanced other receiver found held
  known := by
    show ∀ entry ∈ book.took, entry.1 < (desk.receivers.modify number Receiver.drop).length
    rw [List.length_modify]
    exact balance.known

theorem move (balance : Balanced desk book) (inOrder : InOrder desk book) {entry : DeskEntry α}
    (moves : Moves desk entry after) : Balanced after (book.enter entry) := by
  cases moves with
  | enrolled capacity => exact balance.enroll inOrder capacity
  | registered number known => exact ⟨balance.balanced, balance.known⟩
  | took number receiver rest event found taken => exact balance.take found taken
  | dropped number => exact balance.drop number
  | takenUp number event => exact ⟨balance.balanced, balance.known⟩
  | handed number event receiver inHand found held => exact balance.hand inOrder inHand found held
  | lost number event receiver inHand =>
      obtain ⟨parcel, bookHand, -⟩ := Option.map_eq_some_iff.1 (inOrder.inHand.symm.trans inHand)
      refine ⟨?_, balance.known⟩
      rw [DeskBook.enter, (DeskBook.handedOver_conclude bookHand).2]
      exact balance.balanced

/-- With one receiver at most, everything that was handed over concerns it. -/
theorem sole (balance : Balanced desk book) (inOrder : InOrder desk book)
    (atMostOne : desk.receivers.length ≤ 1)
    (held : ∀ receiver ∈ desk.receivers, receiver.held = true) :
    book.took.map Prod.snd ++ desk.receivers.flatMap Receiver.items =
      book.handedOver.map Prod.snd := by
  have tookFirst : ∀ entry ∈ book.took, entry.1 = 0 := by
    intro entry member
    have known := balance.known entry member
    omega
  have handedFirst : ∀ entry ∈ book.handedOver, entry.1 = 0 := by
    intro entry member
    have known := inOrder.handedOver_known entry member
    omega
  rw [← entriesOf_eq_map tookFirst, ← entriesOf_eq_map handedFirst]
  cases receivers : desk.receivers with
  | nil =>
      have nobody : desk.receivers.length ≤ 0 :=
        Nat.le_of_eq (congrArg List.length receivers)
      rw [entriesOf_eq_nil balance.known nobody, entriesOf_eq_nil inOrder.handedOver_known nobody]
      rfl
  | cons receiver others =>
      have alone : others = [] := by
        rw [receivers, List.length_cons] at atMostOne
        exact List.eq_nil_of_length_eq_zero (by omega)
      have isHeld : receiver.held = true :=
        held receiver (receivers ▸ List.mem_cons_self)
      have balanced := balance.balanced 0 receiver (by rw [receivers]; rfl) isHeld
      rw [alone, List.flatMap_singleton]
      exact balanced

end Balanced

/-! ### Runs -/

/-- What the book says of a desk. -/
structure Kept (desk : Desk α) (entries : List (DeskEntry α)) : Prop where
  inOrder : InOrder desk (.ofEntries entries)
  losesOnce : LosesOnce desk (.ofEntries entries)
  balance : Balanced desk (.ofEntries entries)
  takenUp : (DeskBook.ofEntries entries).parcels.map Parcel.event =
    entries.filterMap DeskEntry.takenUp?

namespace Kept

variable {desk after : Desk α} {entries : List (DeskEntry α)}

theorem initial : Kept ({} : Desk α) [] where
  inOrder := {
    known := fun _ member => absurd member List.not_mem_nil
    made := Nat.le_refl 0
    consumer := fun number same => absurd same (Option.some_ne_none number).symm
    inHand := rfl
    addressed := fun _ member => absurd member List.not_mem_nil
    ordered := .nil }
  losesOnce := {
    gone := fun _ member => absurd member List.not_mem_nil
    once := .nil
    beforeInHand := fun _ member => absurd member List.not_mem_nil
    beforeConsumer := fun _ member => absurd member List.not_mem_nil }
  balance := {
    balanced := fun _ _ found => absurd found (Option.some_ne_none _).symm
    known := fun _ member => absurd member List.not_mem_nil }
  takenUp := rfl

theorem move (kept : Kept desk entries) {entry : DeskEntry α} (moves : Moves desk entry after) :
    Kept after (entries ++ [entry]) := by
  have entered := DeskBook.ofEntries_snoc entries entry
  constructor
  case inOrder => exact entered ▸ kept.inOrder.move moves
  case losesOnce => exact entered ▸ kept.losesOnce.move kept.inOrder moves
  case balance => exact entered ▸ kept.balance.move kept.inOrder moves
  case takenUp =>
    rw [entered, List.filterMap_append, ← kept.takenUp]
    cases moves with
    | enrolled | registered | took | dropped => exact (List.append_nil _).symm
    | takenUp number event _ free =>
        have empty : (DeskBook.ofEntries entries).inHand = none := by
          have inHand := kept.inOrder.inHand
          rw [free] at inHand
          exact Option.map_eq_none_iff.1 inHand.symm
        simp [DeskBook.parcels, DeskBook.enter, empty, DeskEntry.takenUp?]
    | handed | lost =>
        rw [DeskBook.enter, DeskBook.parcels_conclude]
        exact (List.append_nil _).symm

theorem run {later : List (DeskEntry α)} (kept : Kept desk entries)
    (runs : Runs desk later after) : Kept after (entries ++ later) := by
  induction runs generalizing entries with
  | nil desk =>
      rw [List.append_nil]
      exact kept
  | cons first rest inductionHypothesis =>
      rw [List.append_cons]
      exact inductionHypothesis (kept.move first)

/-- What was handed over or lost and what is in hand is what was taken up. -/
theorem passed (kept : Kept desk entries) :
    ((DeskBook.ofEntries entries).passed.map fun entry => entry.1.event) ++
        desk.inHand.toList.map Prod.snd = entries.filterMap DeskEntry.takenUp? := by
  rw [← kept.takenUp, DeskBook.parcels, kept.inOrder.inHand, List.map_append, List.map_map]
  cases (DeskBook.ofEntries entries).inHand with
  | none => rfl
  | some parcel => rfl

/-- A desk with one receiver at most, which is held, has handed over everything but the event in
hand. -/
theorem sole (kept : Kept desk entries) (atMostOne : desk.receivers.length ≤ 1)
    (held : ∀ receiver ∈ desk.receivers, receiver.held = true) :
    (DeskBook.ofEntries entries).took.map Prod.snd ++ desk.receivers.flatMap Receiver.items ++
        desk.inHand.toList.map Prod.snd = entries.filterMap DeskEntry.takenUp? := by
  have noneLost : (DeskBook.ofEntries entries).lost = [] := by
    rw [List.eq_nil_iff_forall_not_mem]
    intro parcel member
    obtain ⟨receiver, found, gone⟩ := kept.losesOnce.gone parcel member
    have isHeld := held receiver (List.mem_of_getElem? found)
    exact Bool.false_ne_true (gone.symm.trans isHeld)
  rw [kept.balance.sole kept.inOrder atMostOne held, DeskBook.handedOver_of_noneLost noneLost]
  exact kept.passed

end Kept

end Desk

end SshServer
