import Mathlib.Data.List.Induction
import SshServer.Proofs.Session.Run

/-!
Contract: a feed is a bounded queue for at most one consumer.

Owns: the operations on a feed, in any order; which events a feed has taken on and given out; whose
turn it is to be given one; and what a closed feed does.
Does not own: who attaches consumers and who asks for events (`Proofs.Session.Handover`), and what
becomes of an event that was given out (`Proofs.Session.Desk`).

A consumer is only ever replaced by another. One that is detached is not followed by the one before
it, so the feed then waits for somebody to be attached.
-/

namespace SshServer

inductive FeedAct (α : Type) where
  | push (event : α)
  | attach (consumer : Nat)
  | next
  | detach (consumer : Nat)
  | close
deriving DecidableEq

/-- The consumer that was attached last, if it was not detached since. -/
def AttachedLast {α : Type} (acts : List (FeedAct α)) (consumer : Nat) : Prop :=
  ∃ earlier later, acts = earlier ++ .attach consumer :: later ∧
    (∀ other, .attach other ∉ later) ∧ .detach consumer ∉ later

namespace AttachedLast

variable {α : Type} {acts : List (FeedAct α)} {act : FeedAct α}

/-- Whoever was attached is the last one, and nobody else is. -/
theorem snoc_attach (consumer other : Nat) :
    AttachedLast (acts ++ [.attach consumer]) other ↔ other = consumer := by
  constructor
  · rintro ⟨earlier, later, same, nobody, -⟩
    rcases split_snoc same with ⟨-, isLast, -⟩ | ⟨before, rfl, -⟩
    · exact (FeedAct.attach.inj isLast).symm
    · refine absurd ?_ (nobody consumer)
      exact List.mem_append_right _ List.mem_cons_self
  · rintro rfl
    exact ⟨acts, [], rfl, fun _ => List.not_mem_nil, List.not_mem_nil⟩

/-- What attaches nobody leaves the last one in place, unless it detaches that one. -/
theorem snoc_other (attachesNobody : ∀ consumer, act ≠ .attach consumer) (consumer : Nat) :
    AttachedLast (acts ++ [act]) consumer ↔
      AttachedLast acts consumer ∧ act ≠ .detach consumer := by
  constructor
  · rintro ⟨earlier, later, same, nobody, stays⟩
    rcases split_snoc same with ⟨-, isLast, -⟩ | ⟨before, rfl, front⟩
    · exact absurd isLast (attachesNobody consumer)
    · refine ⟨⟨earlier, before, front, fun other member => ?_, fun member => ?_⟩, fun detaches => ?_⟩
      · exact nobody other (List.mem_append_left _ member)
      · exact stays (List.mem_append_left _ member)
      · exact stays (List.mem_append_right _ (List.mem_singleton.2 detaches.symm))
  · rintro ⟨⟨earlier, later, rfl, nobody, stays⟩, keeps⟩
    refine ⟨earlier, later ++ [act], ?_, fun other member => ?_, fun member => ?_⟩
    · rw [List.append_assoc, List.cons_append]
    · rcases List.mem_append.1 member with before | now
      · exact nobody other before
      · exact attachesNobody other (List.mem_singleton.1 now).symm
    · rcases List.mem_append.1 member with before | now
      · exact stays before
      · exact keeps (List.mem_singleton.1 now).symm

end AttachedLast

namespace Feed

variable {α : Type}

def step (feed : Feed α) : FeedAct α → Feed α
  | .push event => (feed.push event).1
  | .attach consumer => feed.attach consumer
  | .next => (feed.next?.map Prod.snd).getD feed
  | .detach consumer => feed.detach consumer
  | .close => feed.close

def run (feed : Feed α) (acts : List (FeedAct α)) : Feed α :=
  runFrom step feed acts

/-- The event that an operation is told has been queued. -/
def acceptedBy (feed : Feed α) : FeedAct α → List α
  | .push event => if (feed.push event).2 then [event] else []
  | _ => []

/-- The event that an operation is given, with the consumer that it is for. -/
def givenBy (feed : Feed α) : FeedAct α → List (Nat × α)
  | .next => (feed.next?.map Prod.fst).toList
  | _ => []

def acceptedIn (feed : Feed α) (acts : List (FeedAct α)) : List α :=
  observed step acceptedBy feed acts

def givenIn (feed : Feed α) (acts : List (FeedAct α)) : List (Nat × α) :=
  observed step givenBy feed acts

/-! ### One operation -/

/-- An event is refused where the feed is closed or full, and then nothing changes. -/
theorem push_cases (feed : Feed α) (event : α) :
    (feed.closed = true ∨ feedBacklog ≤ feed.pending.length) ∧ feed.push event = (feed, false) ∨
      (feed.closed = false ∧ feed.pending.length < feedBacklog) ∧
        feed.push event = ({ feed with pending := feed.pending ++ [event] }, true) := by
  unfold push
  split
  next refused => exact .inl ⟨refused, rfl⟩
  next accepts =>
    rw [not_or, Bool.not_eq_true, Nat.not_le] at accepts
    exact .inr ⟨accepts, rfl⟩

theorem next?_eq (feed : Feed α) (consumer : Nat) (event : α) (rest : List α)
    (attached : feed.consumer = some consumer) (pending : feed.pending = event :: rest) :
    feed.next? = some ((consumer, event), { feed with pending := rest }) := by
  unfold next?
  rw [attached, pending]

/-- An event is given out to the consumer that is attached. -/
theorem consumer_of_next? {feed after : Feed α} {consumer : Nat} {event : α}
    (next : feed.next? = some ((consumer, event), after)) : feed.consumer = some consumer := by
  unfold next? at next
  split at next
  next attached _ =>
    obtain ⟨same, -⟩ := Prod.mk.inj (Option.some.inj next)
    rw [attached, (Prod.mk.inj same).1]
  · exact absurd next (Option.some_ne_none _).symm

/-! ### Runs -/

/-- How a feed stands after some operations. -/
structure Stands (acts : List (FeedAct α)) (accepted : List α) (given : List (Nat × α))
    (feed : Feed α) : Prop where
  closed : feed.closed = true ↔ .close ∈ acts
  consumer : ∀ number, feed.consumer = some number ↔ .close ∉ acts ∧ AttachedLast acts number
  contents : .close ∉ acts → given.map Prod.snd ++ feed.pending = accepted
  bounded : feed.pending.length ≤ feedBacklog

section Steps

variable {acts : List (FeedAct α)} {accepted : List α} {given : List (Nat × α)} {feed : Feed α}

/-- By a push and by a request for the next event only events move. -/
theorem Stands.moved (stands : Stands acts accepted given feed) {act : FeedAct α}
    (moves : act = .next ∨ ∃ event, act = .push event) {pending isNew : List α}
    {out : List (Nat × α)} (bounded : pending.length ≤ feedBacklog)
    (events : out.map Prod.snd ++ pending = feed.pending ++ isNew) :
    Stands (acts ++ [act]) (accepted ++ isNew) (given ++ out) { feed with pending } := by
  have attachesNobody : ∀ consumer, act ≠ .attach consumer := by
    rcases moves with rfl | ⟨event, rfl⟩
    · exact fun _ => nofun
    · exact fun _ => nofun
  have detachesNobody : ∀ consumer, act ≠ .detach consumer := by
    rcases moves with rfl | ⟨event, rfl⟩
    · exact fun _ => nofun
    · exact fun _ => nofun
  have notClose : .close ≠ act := by
    rcases moves with rfl | ⟨event, rfl⟩
    · exact nofun
    · exact nofun
  constructor
  case closed =>
    rw [List.mem_append, List.mem_singleton, or_iff_left notClose]
    exact stands.closed
  case consumer =>
    intro number
    rw [List.mem_append, List.mem_singleton, or_iff_left notClose,
      AttachedLast.snoc_other attachesNobody, and_iff_left (detachesNobody number)]
    exact stands.consumer number
  case contents =>
    intro isOpen
    have wasOpen : .close ∉ acts := fun member => isOpen (List.mem_append_left _ member)
    rw [List.map_append, List.append_assoc, events, ← List.append_assoc, stands.contents wasOpen]
  case bounded => exact bounded

theorem Stands.push (stands : Stands acts accepted given feed) (event : α) :
    Stands (acts ++ [.push event]) (accepted ++ feed.acceptedBy (.push event)) (given ++ [])
      (feed.step (.push event)) := by
  have moves : FeedAct.push event = .next ∨ ∃ other, FeedAct.push event = .push other :=
    .inr ⟨event, rfl⟩
  rcases feed.push_cases event with ⟨-, refused⟩ | ⟨⟨-, room⟩, queued⟩
  · simp only [step, acceptedBy, refused]
    exact stands.moved moves stands.bounded (List.append_nil _).symm
  · simp only [step, acceptedBy, queued, if_true]
    refine stands.moved moves ?_ rfl
    rw [List.length_append, List.length_singleton]
    exact room

theorem Stands.next (stands : Stands acts accepted given feed) :
    Stands (acts ++ [.next]) (accepted ++ []) (given ++ feed.givenBy .next) (feed.step .next) := by
  cases next : feed.next? with
  | none =>
      simp only [step, givenBy, next]
      exact stands.moved (.inl rfl) stands.bounded (List.append_nil _).symm
  | some found =>
      obtain ⟨⟨consumer, event⟩, after⟩ := found
      obtain ⟨rest, pending, rfl⟩ := next?_eq_some next
      have shorter : rest.length ≤ feedBacklog := by
        have before := stands.bounded
        rw [pending, List.length_cons] at before
        exact Nat.le_of_succ_le before
      simp only [step, givenBy, next, Option.map_some, Option.getD_some, Option.toList_some]
      refine stands.moved (.inl rfl) shorter ?_
      rw [pending, List.append_nil]
      rfl

theorem Stands.attach (stands : Stands acts accepted given feed) (consumer : Nat) :
    Stands (acts ++ [.attach consumer]) (accepted ++ []) (given ++ [])
      (feed.step (.attach consumer)) := by
  have notClose : FeedAct.close ∉ [FeedAct.attach (α := α) consumer] := by
    rw [List.mem_singleton]
    exact nofun
  constructor
  case closed =>
    rw [List.mem_append, or_iff_left notClose]
    show (feed.attach consumer).closed = true ↔ _
    rw [closed_attach]
    exact stands.closed
  case consumer =>
    intro number
    rw [List.mem_append, or_iff_left notClose, AttachedLast.snoc_attach]
    show (feed.attach consumer).consumer = some number ↔ _
    unfold Feed.attach
    split
    next isClosed =>
      rw [stands.consumer number]
      exact ⟨fun attached => absurd (stands.closed.1 isClosed) attached.1,
        fun attached => absurd (stands.closed.1 isClosed) attached.1⟩
    next isOpen =>
      rw [stands.closed] at isOpen
      rw [and_iff_right isOpen, Option.some.injEq]
      exact eq_comm
  case contents =>
    intro isOpen
    have wasOpen : .close ∉ acts := fun member => isOpen (List.mem_append_left _ member)
    show (given ++ []).map Prod.snd ++ (feed.attach consumer).pending = _
    rw [pending_attach, List.append_nil, List.append_nil]
    exact stands.contents wasOpen
  case bounded =>
    show (feed.attach consumer).pending.length ≤ feedBacklog
    rw [pending_attach]
    exact stands.bounded

theorem Stands.detach (stands : Stands acts accepted given feed) (consumer : Nat) :
    Stands (acts ++ [.detach consumer]) (accepted ++ []) (given ++ [])
      (feed.step (.detach consumer)) := by
  have notClose : FeedAct.close ∉ [FeedAct.detach (α := α) consumer] := by
    rw [List.mem_singleton]
    exact nofun
  constructor
  case closed =>
    rw [List.mem_append, or_iff_left notClose]
    show (feed.detach consumer).closed = true ↔ _
    rw [closed_detach]
    exact stands.closed
  case consumer =>
    intro number
    have attachesNobody : ∀ other, FeedAct.detach (α := α) consumer ≠ .attach other :=
      fun _ => nofun
    rw [List.mem_append, or_iff_left notClose, AttachedLast.snoc_other attachesNobody,
      ← and_assoc, ← stands.consumer number]
    show (feed.detach consumer).consumer = some number ↔ _
    unfold Feed.detach
    split
    next mine =>
      rw [mine]
      refine ⟨fun nobody => absurd nobody nofun, fun ⟨same, other⟩ => ?_⟩
      exact absurd (Option.some.inj same ▸ rfl) other
    next other =>
      refine ⟨fun attached => ⟨attached, ?_⟩, And.left⟩
      rintro same
      exact other (FeedAct.detach.inj same ▸ attached)
  case contents =>
    intro isOpen
    have wasOpen : .close ∉ acts := fun member => isOpen (List.mem_append_left _ member)
    show (given ++ []).map Prod.snd ++ (feed.detach consumer).pending = _
    rw [pending_detach, List.append_nil, List.append_nil]
    exact stands.contents wasOpen
  case bounded =>
    show (feed.detach consumer).pending.length ≤ feedBacklog
    rw [pending_detach]
    exact stands.bounded

variable (feed) in
/-- A closed feed has nothing, whatever it had. -/
theorem stands_close : Stands (acts ++ [.close]) (accepted ++ []) (given ++ []) feed.close := by
  have isClosed : FeedAct.close ∈ acts ++ [FeedAct.close] :=
    List.mem_append_right _ List.mem_cons_self
  exact {
    closed := ⟨fun _ => isClosed, fun _ => rfl⟩
    consumer := fun _ => ⟨nofun, fun attached => absurd isClosed attached.1⟩
    contents := fun isOpen => absurd isClosed isOpen
    bounded := Nat.zero_le _ }

end Steps

theorem stands_run (acts : List (FeedAct α)) :
    Stands acts (({} : Feed α).acceptedIn acts) (({} : Feed α).givenIn acts)
      (({} : Feed α).run acts) := by
  induction acts using List.reverseRecOn with
  | nil =>
      refine ⟨⟨nofun, nofun⟩, fun number => ⟨nofun, ?_⟩, fun _ => rfl, Nat.zero_le _⟩
      rintro ⟨-, earlier, later, same, -⟩
      exact absurd same (List.append_ne_nil_of_right_ne_nil _ (List.cons_ne_nil _ _)).symm
  | append_singleton acts act inductionHypothesis =>
      unfold acceptedIn givenIn run
      rw [observed_snoc, observed_snoc, runFrom_snoc]
      cases act with
      | push event => exact inductionHypothesis.push event
      | attach consumer => exact inductionHypothesis.attach consumer
      | next => exact inductionHypothesis.next
      | detach consumer => exact inductionHypothesis.detach consumer
      | close => exact stands_close (({} : Feed α).run acts)

/-! ### Closed feeds -/

/-- A feed that has been closed, and so has nothing. -/
def Shut (feed : Feed α) : Prop :=
  feed = { closed := true }

theorem Shut.step {feed : Feed α} (shut : feed.Shut) (act : FeedAct α) : (feed.step act).Shut := by
  obtain rfl := shut
  cases act with
  | push | attach | next | detach | close => rfl

theorem Shut.acceptsNothing {feed : Feed α} (shut : feed.Shut) (act : FeedAct α) :
    feed.acceptedBy act = [] := by
  obtain rfl := shut
  cases act with
  | push | attach | next | detach | close => rfl

theorem Shut.givesNothing {feed : Feed α} (shut : feed.Shut) (act : FeedAct α) :
    feed.givenBy act = [] := by
  obtain rfl := shut
  cases act with
  | push | attach | next | detach | close => rfl

/-- From the moment of its close on, a feed has nothing. -/
theorem shut_of_close {acts : List (FeedAct α)} (closes : .close ∈ acts) (feed : Feed α) :
    (feed.run acts).Shut := by
  obtain ⟨earlier, later, rfl⟩ := List.append_of_mem closes
  have afterClose : (feed.run (earlier ++ .close :: later)) = (feed.run earlier).close.run later :=
    runFrom_append Feed.step feed earlier (.close :: later)
  rw [afterClose]
  exact runFrom_induction Feed.step Shut (fun _ act shut => shut.step act) rfl later

/-! ### The queue -/

/-- What a feed does after some operations, those before having been told and given so much. -/
structure QueuesForOne (acts : List (FeedAct α)) (accepted : List α) (given : List (Nat × α))
    (feed : Feed α) : Prop where
  /-- What was given out, and behind it what is pending, are the events that were accepted. -/
  contents : .close ∉ acts → given.map Prod.snd ++ feed.pending = accepted
  bounded : feed.pending.length ≤ feedBacklog
  /-- An event is refused by a closed feed and by a full one, and by no other. -/
  refuses : ∀ event, (feed.push event).2 = false ↔
    .close ∈ acts ∨ feed.pending.length = feedBacklog
  /-- Who is refused has changed nothing. -/
  unchanged : ∀ event, (feed.push event).2 = false → (feed.push event).1 = feed
  /-- The oldest event is given out for the consumer that was attached last and not detached since,
  and for nobody else. -/
  next : ∀ consumer event rest,
    feed.next? = some ((consumer, event), { feed with pending := rest }) ↔
      .close ∉ acts ∧ AttachedLast acts consumer ∧ feed.pending = event :: rest
  /-- To give an event out changes nothing but what is pending. -/
  takes : ∀ consumer event after, feed.next? = some ((consumer, event), after) →
    ∃ rest, after = { feed with pending := rest }
  /-- To detach somebody else, such as a consumer that was replaced, changes nothing. -/
  detaches : ∀ consumer, ¬AttachedLast acts consumer → feed.detach consumer = feed
  /-- Nothing is attached, accepted or given out once the feed is closed. -/
  closes : .close ∈ acts → ∀ later,
    feed.run later = { closed := true } ∧ feed.acceptedIn later = [] ∧ feed.givenIn later = []

/-- Whatever is done with a feed and in whatever order, it is a bounded queue for one consumer: its
events come out in the order in which they were accepted, each of them once, for the consumer that
was attached last; only a closed feed and a full one refuse an event; and nothing is to be had of a
closed one. -/
theorem feed_queues_for_one (acts : List (FeedAct α)) :
    let start : Feed α := {}
    QueuesForOne acts (start.acceptedIn acts) (start.givenIn acts) (start.run acts) := by
  intro start
  have stands : Stands acts (start.acceptedIn acts) (start.givenIn acts) (start.run acts) :=
    stands_run acts
  constructor
  case contents => exact stands.contents
  case bounded => exact stands.bounded
  case refuses =>
    intro event
    rcases (start.run acts).push_cases event with ⟨cause, refused⟩ | ⟨⟨isOpen, room⟩, queued⟩
    · rw [refused, ← stands.closed]
      refine ⟨fun _ => cause.imp_right fun full => ?_, fun _ => rfl⟩
      exact Nat.le_antisymm stands.bounded full
    · rw [queued, ← stands.closed, isOpen]
      refine ⟨nofun, fun cause => ?_⟩
      exact absurd (cause.resolve_left Bool.false_ne_true) (Nat.ne_of_lt room)
  case unchanged =>
    intro event told
    rcases (start.run acts).push_cases event with ⟨-, refused⟩ | ⟨-, queued⟩
    · rw [refused]
    · rw [queued] at told
      exact Bool.noConfusion told
  case next =>
    intro consumer event rest
    constructor
    · intro next
      obtain ⟨isOpen, last⟩ := (stands.consumer consumer).1 (consumer_of_next? next)
      obtain ⟨others, pending, same⟩ := next?_eq_some next
      rw [show rest = others from congrArg Feed.pending same]
      exact ⟨isOpen, last, pending⟩
    · rintro ⟨isOpen, last, pending⟩
      exact next?_eq _ consumer event rest ((stands.consumer consumer).2 ⟨isOpen, last⟩) pending
  case takes =>
    intro consumer event after next
    obtain ⟨rest, -, rfl⟩ := next?_eq_some next
    exact ⟨rest, rfl⟩
  case detaches =>
    intro consumer notLast
    unfold Feed.detach
    exact if_neg fun attached => notLast ((stands.consumer consumer).1 attached).2
  case closes =>
    intro isClosed later
    have shut := shut_of_close isClosed start
    exact ⟨runFrom_induction Feed.step Shut (fun _ act kept => kept.step act) shut later,
      observed_eq_nil Feed.step Shut (fun _ act kept => kept.step act)
        (fun _ act kept => kept.acceptsNothing act) shut later,
      observed_eq_nil Feed.step Shut (fun _ act kept => kept.step act)
        (fun _ act kept => kept.givesNothing act) shut later⟩

/-- A consumer is replaced while two events wait. The first goes to the new one, and to detach the
old one is of no effect; once the new one is detached, the second event stays. The feed takes 127
events more and refuses the next, and after its close it refuses everything. -/
theorem feed_queues_for_one_of_replaced :
    let start : Feed Nat := {}
    let replaced : List (FeedAct Nat) :=
      [.push 1, .attach 0, .push 2, .attach 7, .detach 0, .next, .detach 7, .next]
    let filled := replaced ++ (List.range 128).map .push
    let closed := filled ++ [.close]
    let feed := start.run replaced
    let full := start.run filled
    (.close ∉ replaced ∧ start.givenIn replaced = [(7, 1)] ∧ feed.pending = [2] ∧
        (start.givenIn replaced).map Prod.snd ++ feed.pending = start.acceptedIn replaced) ∧
      (¬AttachedLast (replaced.take 4) 0 ∧
        (start.run (replaced.take 4)).detach 0 = start.run (replaced.take 4)) ∧
      (full.pending.length = feedBacklog ∧ (start.acceptedIn filled).length = 129 ∧
        (full.push 500).2 = false ∧ (full.push 500).1 = full) ∧
      start.run (closed ++ [.push 3, .attach 9, .next]) = { closed := true } := by
  intro start replaced filled closed feed full
  have queues := feed_queues_for_one replaced
  have earlier := feed_queues_for_one (replaced.take 4)
  have whenFull := feed_queues_for_one filled
  have whenClosed := feed_queues_for_one closed
  have isOpen : .close ∉ replaced := by decide
  have isFull : full.pending.length = feedBacklog := by decide +kernel
  have isClosed : .close ∈ closed := List.mem_append_right _ List.mem_cons_self
  have refused : (full.push 500).2 = false := (whenFull.refuses 500).2 (.inr isFull)
  have isReplaced : ¬AttachedLast (replaced.take 4) 0 := by
    show ¬AttachedLast ([.push 1, .attach 0, .push 2] ++ [.attach 7]) 0
    rw [AttachedLast.snoc_attach]
    exact nofun
  refine ⟨⟨isOpen, by decide, by decide, queues.contents isOpen⟩,
    ⟨isReplaced, earlier.detaches 0 isReplaced⟩,
    ⟨isFull, by decide +kernel, refused, whenFull.unchanged 500 refused⟩, ?_⟩
  have stays := (whenClosed.closes isClosed [.push 3, .attach 9, .next]).1
  rw [← stays]
  exact runFrom_append Feed.step start closed _

end Feed

end SshServer
