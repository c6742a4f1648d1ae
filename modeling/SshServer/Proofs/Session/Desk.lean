import SshServer.Session.Feed

/-!
Contract: events of one kind on their way from a feed to the receivers that consumers hold.

Owns: the desk, which is what hands over events of one kind; what can happen at a desk; the book
that an onlooker keeps of it; for whom events are, in which order; and which of them are lost.
Does not own: what receivers hold (`Proofs.Session.Receipts`), where the events come from
(`Session.Feed`), and when something happens at the desks of a session (`Proofs.Session.Handover`).

An event belongs to the registration that was the last one when it was taken up. It stays with that
registration while it waits in hand, even where the consumer was replaced in the meantime.
-/

namespace SshServer

/-- What hands over events of one kind. -/
structure Desk (α : Type) where
  /-- The receiver that is registered, unless it was found to be gone. -/
  consumer : Option Nat := none
  receivers : List (Receiver α) := []
  /-- The event that waits for a receiver. -/
  inHand : Option (Nat × α) := none

/-- What happens at a desk, as an onlooker sees it. -/
inductive DeskEntry (α : Type) where
  | registered (receiver : Nat)
  | took (receiver : Nat) (event : α)
  | dropped (receiver : Nat)
  | takenUp (receiver : Nat) (event : α)
  /-- The event in hand goes to its receiver. -/
  | handed
  /-- The event in hand is lost with its receiver. -/
  | lost

/-- An event that was taken up for a receiver. -/
structure Parcel (α : Type) where
  /-- How many registrations there had been. -/
  registrations : Nat
  receiver : Nat
  event : α

/-- What an onlooker writes down of a desk. -/
structure DeskBook (α : Type) where
  /-- The receivers that were registered, in turn. -/
  registered : List Nat := []
  /-- What holders took from their receivers. -/
  took : List (Nat × α) := []
  /-- The events that were handed over or lost, and which of the two. -/
  passed : List (Parcel α × Bool) := []
  inHand : Option (Parcel α) := none

def DeskEntry.registered? {α : Type} : DeskEntry α → Option Nat
  | .registered receiver => some receiver
  | _ => none

def DeskEntry.takenUp? {α : Type} : DeskEntry α → Option α
  | .takenUp _ event => some event
  | _ => none

namespace DeskBook

variable {α : Type}

/-- The event in hand is handed over, or else lost. -/
def conclude (book : DeskBook α) (handed : Bool) : DeskBook α :=
  { book with
      passed := book.passed ++ (book.inHand.map fun parcel => (parcel, handed)).toList
      inHand := none }

def enter (book : DeskBook α) : DeskEntry α → DeskBook α
  | .registered receiver => { book with registered := book.registered ++ [receiver] }
  | .took receiver event => { book with took := book.took ++ [(receiver, event)] }
  | .dropped _ => book
  | .takenUp receiver event =>
    { book with inHand := some ⟨book.registered.length, receiver, event⟩ }
  | .handed => book.conclude true
  | .lost => book.conclude false

def ofEntries (entries : List (DeskEntry α)) : DeskBook α :=
  entries.foldl enter {}

/-- The events that were taken up, in turn. -/
def parcels (book : DeskBook α) : List (Parcel α) :=
  book.passed.map Prod.fst ++ book.inHand.toList

/-- The events that were handed over, each with the receiver that has it. -/
def handedOver (book : DeskBook α) : List (Nat × α) :=
  (book.passed.filter Prod.snd).map fun entry => (entry.1.receiver, entry.1.event)

/-- The events that were lost. -/
def lost (book : DeskBook α) : List (Parcel α) :=
  (book.passed.filter fun entry => !entry.2).map Prod.fst

/-- The last of the registrations that there had been was one of the receiver. -/
def Addressed (book : DeskBook α) (parcel : Parcel α) : Prop :=
  parcel.registrations ≤ book.registered.length ∧
    (book.registered.take parcel.registrations).getLast? = some parcel.receiver

theorem registered_foldl (book : DeskBook α) (entries : List (DeskEntry α)) :
    (entries.foldl enter book).registered =
      book.registered ++ entries.filterMap DeskEntry.registered? := by
  induction entries generalizing book with
  | nil => exact (List.append_nil _).symm
  | cons entry rest inductionHypothesis =>
      rw [List.foldl_cons, inductionHypothesis]
      cases entry with
      | registered receiver =>
          show (book.registered ++ [receiver]) ++ _ = _
          rw [List.append_assoc]
          rfl
      | took | dropped | takenUp | handed | lost => rfl

theorem registered_ofEntries (entries : List (DeskEntry α)) :
    (ofEntries entries).registered = entries.filterMap DeskEntry.registered? :=
  registered_foldl {} entries

theorem ofEntries_snoc (entries : List (DeskEntry α)) (entry : DeskEntry α) :
    ofEntries (entries ++ [entry]) = (ofEntries entries).enter entry :=
  List.foldl_append

/-- Where nothing was lost, everything that is not in hand was handed over. -/
theorem handedOver_of_noneLost {book : DeskBook α} (noneLost : book.lost = []) :
    book.handedOver.map Prod.snd = book.passed.map fun entry => entry.1.event := by
  have allHanded : book.passed.filter Prod.snd = book.passed := by
    rw [List.filter_eq_self]
    intro entry member
    have notLost := List.filter_eq_nil_iff.1 (List.map_eq_nil_iff.1 noneLost) entry member
    rw [Bool.not_eq_true', Bool.not_eq_false] at notLost
    exact notLost
  rw [handedOver, allHanded, List.map_map]
  rfl

theorem parcels_conclude (book : DeskBook α) (handed : Bool) :
    (book.conclude handed).parcels = book.parcels := by
  cases inHand : book.inHand with
  | none => simp [parcels, conclude, inHand]
  | some parcel => simp [parcels, conclude, inHand]

theorem handedOver_conclude {book : DeskBook α} {parcel : Parcel α}
    (inHand : book.inHand = some parcel) :
    (book.conclude true).handedOver = book.handedOver ++ [(parcel.receiver, parcel.event)] ∧
      (book.conclude false).handedOver = book.handedOver := by
  constructor
  · simp [handedOver, conclude, inHand, List.filter_append]
  · simp [handedOver, conclude, inHand, List.filter_append]

theorem lost_conclude {book : DeskBook α} {parcel : Parcel α}
    (inHand : book.inHand = some parcel) :
    (book.conclude true).lost = book.lost ∧ (book.conclude false).lost = book.lost ++ [parcel] := by
  constructor
  · simp [lost, conclude, inHand, List.filter_append]
  · simp [lost, conclude, inHand, List.filter_append]

theorem Addressed.register {book : DeskBook α} {parcel : Parcel α}
    (addressed : book.Addressed parcel) (receiver : Nat) :
    (book.enter (.registered receiver)).Addressed parcel := by
  obtain ⟨earlier, last⟩ := addressed
  refine ⟨?_, ?_⟩
  · show parcel.registrations ≤ (book.registered ++ [receiver]).length
    rw [List.length_append]
    exact Nat.le_add_right_of_le earlier
  · show ((book.registered ++ [receiver]).take parcel.registrations).getLast? = _
    rw [List.take_append_of_le_length earlier]
    exact last

theorem Addressed.mem {book : DeskBook α} {parcel : Parcel α} (addressed : book.Addressed parcel) :
    parcel.receiver ∈ book.registered :=
  List.mem_of_mem_take (List.mem_of_getLast? addressed.2)

end DeskBook

theorem Receiver.take?_eq_some {α : Type} {receiver rest : Receiver α} {event : α}
    (taken : receiver.take? = some (event, rest)) :
    receiver.items = event :: rest.items ∧ rest.held = receiver.held := by
  unfold take? at taken
  split at taken
  · exact absurd taken (Option.some_ne_none _).symm
  next items =>
    obtain ⟨rfl, rfl⟩ := Prod.mk.inj (Option.some.inj taken)
    exact ⟨items, rfl⟩

namespace Desk

variable {α : Type}

/-- Who is registered after a receiver was found to be gone: nobody, unless another receiver took
its place. -/
def remaining (consumer : Option Nat) (gone : Nat) : Option Nat :=
  if consumer = some gone then none else consumer

/-- What can happen at a desk, and what becomes of it. -/
inductive Moves (desk : Desk α) : DeskEntry α → Desk α → Prop where
  /-- A new receiver is made and registered. -/
  | enrolled (capacity : Nat) :
      Moves desk (.registered desk.receivers.length)
        { desk with
            consumer := some desk.receivers.length
            receivers := desk.receivers ++ [{ capacity := capacity }] }
  | registered (number : Nat) (known : number < desk.receivers.length) :
      Moves desk (.registered number) { desk with consumer := some number }
  | took (number : Nat) (receiver rest : Receiver α) (event : α)
      (found : desk.receivers[number]? = some receiver)
      (taken : receiver.take? = some (event, rest)) :
      Moves desk (.took number event) { desk with receivers := desk.receivers.set number rest }
  | dropped (number : Nat) :
      Moves desk (.dropped number)
        { desk with receivers := desk.receivers.modify number Receiver.drop }
  | takenUp (number : Nat) (event : α) (consumer : desk.consumer = some number)
      (free : desk.inHand = none) :
      Moves desk (.takenUp number event) { desk with inHand := some (number, event) }
  | handed (number : Nat) (event : α) (receiver : Receiver α)
      (inHand : desk.inHand = some (number, event))
      (found : desk.receivers[number]? = some receiver) (held : receiver.held = true) :
      Moves desk .handed
        { desk with
            receivers := desk.receivers.set number (receiver.put event)
            inHand := none }
  /-- The receiver is gone, and the event with it. -/
  | lost (number : Nat) (event : α) (receiver : Receiver α)
      (inHand : desk.inHand = some (number, event))
      (found : desk.receivers[number]? = some receiver) (gone : receiver.held = false) :
      Moves desk .lost
        { desk with
            consumer := remaining desk.consumer number
            inHand := none }

/-- What becomes of an event that is in hand for a receiver, and the desk after it. -/
def attempt (desk : Desk α) (number : Nat) (event : α) : List (DeskEntry α) × Desk α :=
  match desk.receivers[number]? with
  | none => ([.lost], { desk with inHand := none })
  | some receiver =>
    if !receiver.held then
      ([.lost],
        { desk with
            consumer := remaining desk.consumer number
            inHand := none })
    else if receiver.hasRoom then
      ([.handed],
        { desk with
            receivers := desk.receivers.set number (receiver.put event)
            inHand := none })
    else ([], { desk with inHand := some (number, event) })

theorem Moves.enroll {desk after : Desk α} (capacity : Nat)
    (consumer : after.consumer = some desk.receivers.length)
    (receivers : after.receivers = desk.receivers ++ [{ capacity := capacity }])
    (inHand : after.inHand = desk.inHand) :
    Moves desk (.registered desk.receivers.length) after := by
  obtain ⟨_, _, _⟩ := after
  subst consumer receivers inHand
  exact .enrolled capacity

theorem Moves.register {desk after : Desk α} {number : Nat} (known : number < desk.receivers.length)
    (consumer : after.consumer = some number) (receivers : after.receivers = desk.receivers)
    (inHand : after.inHand = desk.inHand) : Moves desk (.registered number) after := by
  obtain ⟨_, _, _⟩ := after
  subst consumer receivers inHand
  exact .registered number known

/-- Everything that happens at a desk, one after another. -/
inductive Runs : Desk α → List (DeskEntry α) → Desk α → Prop where
  | nil (desk : Desk α) : Runs desk [] desk
  | cons {desk middle after : Desk α} {entry : DeskEntry α} {entries : List (DeskEntry α)}
      (first : Moves desk entry middle) (rest : Runs middle entries after) :
      Runs desk (entry :: entries) after

theorem Runs.one {desk after : Desk α} {entry : DeskEntry α} (moves : Moves desk entry after) :
    Runs desk [entry] after :=
  .cons moves (.nil after)

theorem Runs.trans {desk middle after : Desk α} {first later : List (DeskEntry α)}
    (earlier : Runs desk first middle) (rest : Runs middle later after) :
    Runs desk (first ++ later) after := by
  induction earlier with
  | nil => exact rest
  | cons moves _ inductionHypothesis => exact .cons moves (inductionHypothesis rest)

theorem with_inHand {desk : Desk α} {inHand : Option (Nat × α)} (same : desk.inHand = inHand) :
    { desk with inHand } = desk := by
  subst same
  rfl

/-- An attempt to hand over an event is one move at most. -/
theorem attempt_runs (desk : Desk α) {number : Nat} (known : number < desk.receivers.length)
    (event : α) :
    Runs { desk with inHand := some (number, event) } (desk.attempt number event).1
      (desk.attempt number event).2 := by
  have found : desk.receivers[number]? = some desk.receivers[number] :=
    List.getElem?_eq_getElem known
  unfold attempt
  rw [found]
  dsimp only
  split
  next gone =>
    rw [Bool.not_eq_true'] at gone
    exact .one (.lost number event _ rfl found gone)
  next held =>
    rw [Bool.not_eq_true', Bool.not_eq_false] at held
    split
    · exact .one (.handed number event _ rfl found held)
    · exact .nil _

/-! ### For whom events are -/

/-- Every event is for the receiver that was registered last when it was taken up, and events are
taken up in the order of the registrations. -/
structure InOrder (desk : Desk α) (book : DeskBook α) : Prop where
  known : ∀ number ∈ book.registered, number < desk.receivers.length
  /-- No receiver is made without being registered. -/
  made : desk.receivers.length ≤ book.registered.length
  consumer : ∀ number, desk.consumer = some number → book.registered.getLast? = some number
  inHand : desk.inHand = book.inHand.map fun parcel => (parcel.receiver, parcel.event)
  addressed : ∀ parcel ∈ book.parcels, book.Addressed parcel
  ordered : (book.parcels.map Parcel.registrations).Pairwise (· ≤ ·)

namespace InOrder

variable {desk after : Desk α} {book : DeskBook α}

theorem register (inOrder : InOrder desk book) {number : Nat}
    (fewer : desk.receivers.length ≤ after.receivers.length)
    (atMostOne : after.receivers.length ≤ desk.receivers.length + 1)
    (known : number < after.receivers.length) (consumer : after.consumer = some number)
    (inHand : after.inHand = desk.inHand) : InOrder after (book.enter (.registered number)) where
  known := by
    intro other member
    rcases List.mem_append.1 member with before | isNew
    · exact Nat.lt_of_lt_of_le (inOrder.known other before) fewer
    · rw [List.mem_singleton.1 isNew]
      exact known
  made := by
    have before := inOrder.made
    show after.receivers.length ≤ (book.registered ++ [number]).length
    rw [List.length_append, List.length_singleton]
    omega
  consumer := by
    intro other same
    rw [consumer] at same
    rw [← Option.some.inj same]
    exact List.getLast?_concat
  inHand := inHand.trans inOrder.inHand
  addressed := fun parcel member => (inOrder.addressed parcel member).register number
  ordered := inOrder.ordered

/-- Holders act on their receivers, and a consumer may be found to be gone. -/
theorem of_same (inOrder : InOrder desk book)
    (receivers : after.receivers.length = desk.receivers.length)
    (consumer : ∀ number, after.consumer = some number → desk.consumer = some number)
    (inHand : after.inHand = desk.inHand) (took : List (Nat × α)) :
    InOrder after { book with took } where
  known := by
    rw [receivers]
    exact inOrder.known
  made := by
    rw [receivers]
    exact inOrder.made
  consumer := fun number same => inOrder.consumer number (consumer number same)
  inHand := inHand.trans inOrder.inHand
  addressed := inOrder.addressed
  ordered := inOrder.ordered

theorem takeUp (inOrder : InOrder desk book) {number : Nat} {event : α}
    (consumer : desk.consumer = some number) (free : desk.inHand = none) :
    InOrder { desk with inHand := some (number, event) }
      (book.enter (.takenUp number event)) := by
  have empty : book.inHand = none := by
    have inHand := inOrder.inHand
    rw [free] at inHand
    exact Option.map_eq_none_iff.1 inHand.symm
  have parcels : (book.enter (.takenUp number event)).parcels =
      book.parcels ++ [⟨book.registered.length, number, event⟩] := by
    simp [DeskBook.parcels, DeskBook.enter, empty]
  have isAddressed : book.Addressed ⟨book.registered.length, number, event⟩ := by
    refine ⟨Nat.le_refl _, ?_⟩
    rw [List.take_length]
    exact inOrder.consumer number consumer
  refine { inOrder with inHand := rfl, addressed := ?_, ordered := ?_ }
  · rw [parcels]
    intro parcel member
    rcases List.mem_append.1 member with before | isNew
    · exact inOrder.addressed parcel before
    · rw [List.mem_singleton.1 isNew]
      exact isAddressed
  · rw [parcels, List.map_append, List.pairwise_append]
    refine ⟨inOrder.ordered, List.pairwise_singleton _ _, ?_⟩
    intro earlier member last isLast
    obtain ⟨parcel, known, rfl⟩ := List.mem_map.1 member
    rw [List.mem_singleton.1 isLast]
    exact (inOrder.addressed parcel known).1

theorem conclude (inOrder : InOrder desk book)
    (receivers : after.receivers.length = desk.receivers.length)
    (consumer : ∀ number, after.consumer = some number → desk.consumer = some number)
    (inHand : after.inHand = none) (handed : Bool) : InOrder after (book.conclude handed) where
  known := by
    rw [receivers]
    exact inOrder.known
  made := by
    rw [receivers]
    exact inOrder.made
  consumer := fun number same => inOrder.consumer number (consumer number same)
  inHand := inHand
  addressed := by
    rw [DeskBook.parcels_conclude]
    exact inOrder.addressed
  ordered := by
    rw [DeskBook.parcels_conclude]
    exact inOrder.ordered

theorem move (inOrder : InOrder desk book) {entry : DeskEntry α} (moves : Moves desk entry after) :
    InOrder after (book.enter entry) := by
  cases moves with
  | enrolled capacity =>
      have more : (desk.receivers ++ [({ capacity := capacity } : Receiver α)]).length =
          desk.receivers.length + 1 := List.length_append
      refine inOrder.register ?_ ?_ ?_ rfl rfl
      all_goals
        dsimp only
        omega
  | registered number known =>
      exact inOrder.register (Nat.le_refl _) (Nat.le_succ _) known rfl rfl
  | took number receiver rest event =>
      refine inOrder.of_same ?_ ?_ ?_ (book.took ++ [(number, event)])
      · exact List.length_set
      · exact fun _ => id
      · rfl
  | dropped number =>
      refine inOrder.of_same ?_ ?_ ?_ book.took
      · exact List.length_modify _ _ _
      · exact fun _ => id
      · rfl
  | takenUp number event consumer free => exact inOrder.takeUp consumer free
  | handed =>
      refine inOrder.conclude ?_ ?_ ?_ true
      · exact List.length_set
      · exact fun _ => id
      · rfl
  | lost number =>
      refine inOrder.conclude ?_ ?_ ?_ false
      · rfl
      · intro other
        dsimp only
        unfold remaining
        split
        · exact fun same => absurd same (Option.some_ne_none other).symm
        · exact id
      · rfl

/-- Whoever is registered was made. -/
theorem consumer_known (inOrder : InOrder desk book) {number : Nat}
    (consumer : desk.consumer = some number) : number < desk.receivers.length :=
  inOrder.known number (List.mem_of_getLast? (inOrder.consumer number consumer))

theorem inHand_known (inOrder : InOrder desk book) {number : Nat} {event : α}
    (inHand : desk.inHand = some (number, event)) : number < desk.receivers.length := by
  obtain ⟨parcel, bookHand, same⟩ := Option.map_eq_some_iff.1 (inOrder.inHand.symm.trans inHand)
  obtain ⟨rfl, -⟩ := Prod.mk.inj same
  have isParcel : parcel ∈ book.parcels := List.mem_append_right _ (Option.mem_toList.2 bookHand)
  exact inOrder.known parcel.receiver (inOrder.addressed parcel isParcel).mem

end InOrder

/-! ### Receivers that are gone -/

section Gone

variable {desk after : Desk α} {number other : Nat} {receivers : List (Receiver α)}

/-- The receiver was made, and its holder has dropped it. -/
def Gone (receivers : List (Receiver α)) (number : Nat) : Prop :=
  ∃ receiver, receivers[number]? = some receiver ∧ receiver.held = false

theorem Gone.set {receiver rest : Receiver α} (found : receivers[number]? = some receiver)
    (same : rest.held = receiver.held) (gone : Gone receivers other) :
    Gone (receivers.set number rest) other := by
  obtain ⟨old, oldFound, oldGone⟩ := gone
  by_cases isOther : number = other
  · subst isOther
    have known : number < receivers.length := (List.getElem?_eq_some_iff.1 found).1
    refine ⟨rest, List.getElem?_set_self known, ?_⟩
    rw [same, ← oldGone]
    exact congrArg Receiver.held (Option.some.inj (found.symm.trans oldFound))
  · exact ⟨old, (List.getElem?_set_ne isOther).trans oldFound, oldGone⟩

theorem Gone.drop (gone : Gone receivers other) (number : Nat) :
    Gone (receivers.modify number Receiver.drop) other := by
  obtain ⟨old, oldFound, oldGone⟩ := gone
  unfold Gone
  rw [List.getElem?_modify, oldFound]
  split
  · exact ⟨old.drop, rfl, rfl⟩
  · exact ⟨old, rfl, oldGone⟩

theorem Gone.append (gone : Gone receivers other) (made : Receiver α) :
    Gone (receivers ++ [made]) other := by
  obtain ⟨old, oldFound, oldGone⟩ := gone
  have known : other < receivers.length := (List.getElem?_eq_some_iff.1 oldFound).1
  exact ⟨old, (List.getElem?_append_left known).trans oldFound, oldGone⟩

/-- A receiver that is gone never comes back. -/
theorem Gone.move (gone : Gone desk.receivers other) {entry : DeskEntry α}
    (moves : Moves desk entry after) : Gone after.receivers other := by
  cases moves with
  | enrolled capacity => exact gone.append _
  | registered | takenUp | lost => exact gone
  | took number receiver rest event found taken =>
      exact gone.set found (Receiver.take?_eq_some taken).2
  | dropped number => exact gone.drop number
  | handed number event receiver _ found => exact gone.set found rfl

theorem Gone.run (gone : Gone desk.receivers other) {entries : List (DeskEntry α)}
    (runs : Runs desk entries after) : Gone after.receivers other := by
  induction runs with
  | nil => exact gone
  | cons moves _ inductionHypothesis => exact inductionHypothesis (gone.move moves)

/-- Whoever was registered last is the consumer, unless their receiver is gone. -/
def Attached (desk : Desk α) (book : DeskBook α) : Prop :=
  ∀ number, book.registered.getLast? = some number →
    desk.consumer = some number ∨ Gone desk.receivers number

theorem Attached.move {book : DeskBook α} (attached : Attached desk book) {entry : DeskEntry α}
    (moves : Moves desk entry after) : Attached after (book.enter entry) := by
  have stays {current : Nat} (last : book.registered.getLast? = some current)
      (consumer : desk.consumer = some current → after.consumer = some current) :
      after.consumer = some current ∨ Gone after.receivers current :=
    (attached current last).imp consumer fun gone => gone.move moves
  intro current last
  cases moves with
  | enrolled | registered =>
      exact .inl (List.getLast?_concat.symm.trans last)
  | took | dropped | takenUp | handed => exact stays last id
  | lost number event receiver _ found isGone =>
      by_cases same : current = number
      · exact .inr ⟨receiver, same ▸ found, isGone⟩
      · refine stays last fun consumer => ?_
        have other : desk.consumer ≠ some number := by
          rw [consumer]
          exact fun equal => same (Option.some.inj equal)
        exact (if_neg other).trans consumer

theorem Attached.run {entries later : List (DeskEntry α)}
    (attached : Attached desk (.ofEntries entries)) (runs : Runs desk later after) :
    Attached after (.ofEntries (entries ++ later)) := by
  induction runs generalizing entries with
  | nil =>
      rw [List.append_nil]
      exact attached
  | cons moves _ inductionHypothesis =>
      rw [List.append_cons]
      apply inductionHypothesis
      rw [DeskBook.ofEntries_snoc]
      exact attached.move moves

end Gone

/-! ### Losses -/

/-- An event is lost only with its receiver, and a registration loses at most one. -/
structure LosesOnce (desk : Desk α) (book : DeskBook α) : Prop where
  gone : ∀ parcel ∈ book.lost, ∃ receiver,
    desk.receivers[parcel.receiver]? = some receiver ∧ receiver.held = false
  once : (book.lost.map Parcel.registrations).Pairwise (· < ·)
  /-- The event in hand belongs to a later registration than those that were lost. -/
  beforeInHand : ∀ parcel ∈ book.lost, ∀ next, book.inHand = some next →
    parcel.registrations < next.registrations
  /-- After a loss nobody is registered until somebody else is. -/
  beforeConsumer : ∀ parcel ∈ book.lost, desk.consumer ≠ none →
    parcel.registrations < book.registered.length

namespace LosesOnce

variable {desk after : Desk α} {book : DeskBook α}

theorem mem_parcels {parcel : Parcel α} (member : parcel ∈ book.lost) : parcel ∈ book.parcels := by
  obtain ⟨entry, filtered, rfl⟩ := List.mem_map.1 member
  exact List.mem_append_left _ (List.mem_map_of_mem (List.mem_filter.1 filtered).1)

theorem register (losesOnce : LosesOnce desk book) (inOrder : InOrder desk book) {number : Nat}
    (gone : ∀ parcel ∈ book.lost, ∃ receiver,
      after.receivers[parcel.receiver]? = some receiver ∧ receiver.held = false) :
    LosesOnce after (book.enter (.registered number)) where
  gone := gone
  once := losesOnce.once
  beforeInHand := losesOnce.beforeInHand
  beforeConsumer := by
    intro parcel member _
    have earlier := (inOrder.addressed parcel (mem_parcels member)).1
    show parcel.registrations < (book.registered ++ [number]).length
    rw [List.length_append, List.length_singleton]
    omega

theorem lose (losesOnce : LosesOnce desk book) (inOrder : InOrder desk book) {number : Nat}
    {event : α} {receiver : Receiver α} (inHand : desk.inHand = some (number, event))
    (found : desk.receivers[number]? = some receiver) (isGone : receiver.held = false) :
    LosesOnce
      { desk with
          consumer := remaining desk.consumer number
          inHand := none }
      (book.conclude false) := by
  obtain ⟨parcel, bookHand, same⟩ := Option.map_eq_some_iff.1 (inOrder.inHand.symm.trans inHand)
  obtain ⟨rfl, rfl⟩ := Prod.mk.inj same
  obtain ⟨-, lost⟩ := DeskBook.lost_conclude bookHand
  have addressed : book.Addressed parcel := by
    apply inOrder.addressed
    rw [DeskBook.parcels, bookHand]
    exact List.mem_append_right _ List.mem_cons_self
  have cases {other : Parcel α} (member : other ∈ (book.conclude false).lost) :
      other ∈ book.lost ∨ other = parcel := by
    rw [lost] at member
    exact (List.mem_append.1 member).imp_right List.mem_singleton.1
  constructor
  case gone =>
    intro other member
    rcases cases member with before | rfl
    · exact losesOnce.gone other before
    · exact ⟨receiver, found, isGone⟩
  case once =>
    rw [lost, List.map_append, List.pairwise_append]
    refine ⟨losesOnce.once, List.pairwise_singleton _ _, ?_⟩
    intro earlier member last isLast
    obtain ⟨other, before, rfl⟩ := List.mem_map.1 member
    rw [List.mem_singleton.1 isLast]
    exact losesOnce.beforeInHand other before parcel bookHand
  case beforeInHand => exact fun _ _ next none => absurd none (Option.some_ne_none next).symm
  case beforeConsumer =>
    intro other member attached
    dsimp only at attached
    unfold remaining at attached
    split at attached
    · exact absurd rfl attached
    next replaced =>
      rcases cases member with before | rfl
      · exact losesOnce.beforeConsumer other before attached
      · -- Whoever is registered now took the place of the receiver that is gone.
        refine Nat.lt_of_le_of_ne addressed.1 fun isLast => replaced ?_
        have lastRegistered := addressed.2
        rw [isLast] at lastRegistered
        have allRegistered : book.registered.getLast? = some other.receiver :=
          (congrArg List.getLast? List.take_length).symm.trans lastRegistered
        obtain ⟨current, isCurrent⟩ := Option.ne_none_iff_exists'.1 attached
        rw [isCurrent, ← allRegistered, inOrder.consumer current isCurrent]

theorem move (losesOnce : LosesOnce desk book) (inOrder : InOrder desk book) {entry : DeskEntry α}
    (moves : Moves desk entry after) : LosesOnce after (book.enter entry) := by
  have stillGone : ∀ parcel ∈ book.lost, Gone after.receivers parcel.receiver :=
    fun parcel member => Gone.move (losesOnce.gone parcel member) moves
  cases moves with
  | enrolled | registered => exact losesOnce.register inOrder stillGone
  | took | dropped => exact { losesOnce with gone := stillGone }
  | takenUp number event consumer =>
      refine { losesOnce with beforeInHand := ?_ }
      intro parcel member next isNext
      rw [← Option.some.inj isNext]
      exact losesOnce.beforeConsumer parcel member (consumer ▸ Option.some_ne_none number)
  | handed number event receiver inHand found =>
      obtain ⟨parcel, bookHand, same⟩ := Option.map_eq_some_iff.1 (inOrder.inHand.symm.trans inHand)
      obtain ⟨lost, -⟩ := DeskBook.lost_conclude bookHand
      constructor
      case gone =>
        rw [DeskBook.enter, lost]
        exact stillGone
      case once =>
        rw [DeskBook.enter, lost]
        exact losesOnce.once
      case beforeInHand => exact fun _ _ next none => absurd none (Option.some_ne_none next).symm
      case beforeConsumer =>
        rw [DeskBook.enter, lost]
        exact losesOnce.beforeConsumer
  | lost number event receiver inHand found gone =>
      exact losesOnce.lose inOrder inHand found gone

end LosesOnce

end Desk

end SshServer
