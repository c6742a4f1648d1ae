import Mathlib.Data.List.Nodup
import SshServer.Proofs.Connection.Books

/-!
Contract: what the transport hears about every open of a connection.

Owns: that every open has a number and a task of its own; the decision about an open, by what has
become of it; and that a decision stays.
Does not own: when all that has to happen (`Proofs.Connection.Routing` and
`Proofs.Connection.Lifetime`).
-/

namespace SshServer

variable {η τ : Type}

/-! ### Numbers of their own -/

/-- Items that are numbered in order have numbers of their own. -/
theorem InOrder.nodup {α : Type} {key : α → Option Nat} {line : List α} {next : Nat}
    (inOrder : InOrder key line next) : (line.map key).Nodup := by
  obtain ⟨numbers, same, sorted, -⟩ := inOrder
  rw [same]
  exact (sorted.imp fun less => Nat.ne_of_lt less).map _ fun _ _ differ equal =>
    differ (Option.some.inj equal)

theorem lookup_of_mem {β : Type} {entries : List (Nat × β)} {key : Nat} {value : β}
    (distinct : (entries.map Prod.fst).Nodup) (member : (key, value) ∈ entries) :
    entries.lookup key = some value := by
  induction entries with
  | nil => exact absurd member List.not_mem_nil
  | cons first rest inductionHypothesis =>
      rw [List.map_cons, List.nodup_cons] at distinct
      rcases List.mem_cons.1 member with rfl | later
      · exact List.lookup_cons_self
      · have other : (key == first.1) = false := by
          refine beq_false_of_ne fun same => distinct.1 ?_
          rw [← same]
          exact List.mem_map_of_mem later
        rw [List.lookup_cons, other]
        exact inductionHypothesis distinct.2 later

theorem find_of_mem {tasks : List (HandlerTask τ)} {task : HandlerTask τ}
    (distinct : (tasks.map HandlerTask.number).Nodup) (member : task ∈ tasks) :
    (tasks.find? fun other => other.number == task.number) = some task := by
  induction tasks with
  | nil => exact absurd member List.not_mem_nil
  | cons first rest inductionHypothesis =>
      rw [List.map_cons, List.nodup_cons] at distinct
      rcases List.mem_cons.1 member with rfl | later
      · exact List.find?_cons_of_pos (beq_self_eq_true _)
      · have other : (first.number == task.number) = false := by
          refine beq_false_of_ne fun same => distinct.1 ?_
          rw [same]
          exact List.mem_map_of_mem later
        rw [List.find?_cons, other]
        exact inductionHypothesis distinct.2 later

/-- Where lists correspond, each item of the first has its counterpart in the second. -/
theorem exists_of_forall₂ {α β : Type} {related : α → β → Prop} {items : List α}
    {counterparts : List β} (correspond : List.Forall₂ related items counterparts) {item : α}
    (member : item ∈ items) : ∃ counterpart ∈ counterparts, related item counterpart := by
  induction correspond with
  | nil => exact absurd member List.not_mem_nil
  | cons first _ inductionHypothesis =>
      rcases List.mem_cons.1 member with rfl | later
      · exact ⟨_, List.mem_cons_self, first⟩
      · obtain ⟨counterpart, isLater, isSo⟩ := inductionHypothesis later
        exact ⟨counterpart, List.mem_cons_of_mem _ isLater, isSo⟩

namespace Connection

section Account

variable {handling : Handling η τ} {registry : Registry η} {seen : Dealings τ}
variable {taken left : List (Nat × ChannelOffer)} {replied : List Request}
variable {connection : Connection η τ}

theorem OpensInOrder.nodup {opened : List (Nat × ChannelOffer)}
    (inOrder : connection.OpensInOrder opened) : (opened.map Prod.fst).Nodup := by
  have numbered : (opened.map fun entry => some entry.1).Nodup :=
    (inOrder.sublist (List.sublist_append_left _ _)).nodup
  have same : (opened.map fun entry => some entry.1) = (opened.map Prod.fst).map some :=
    (List.map_map).symm
  rw [same] at numbered
  exact numbered.of_map some

theorem Books.nodup (books : Books handling registry seen taken left replied connection) :
    ((taken ++ left ++ connection.opens.items.toList).map Prod.fst).Nodup := by
  rw [← books.opened]
  exact books.opensInOrder.nodup

/-- Every open that was taken up for a handler has one task. -/
theorem Books.task_numbers (books : Books handling registry seen taken left replied connection) :
    connection.tasks.map HandlerTask.number = (taken.filter registry.serves).map Prod.fst := by
  rw [books.numbers]
  have handed := books.handed
  generalize taken.filter registry.serves = served at handed
  generalize seen.handed = tasks at handed
  induction handed with
  | nil => rfl
  | cons first _ inductionHypothesis =>
      obtain ⟨_, -, _, _, -, rfl⟩ := first
      rw [List.map_cons, List.map_cons, inductionHypothesis]

theorem Books.tasks_part (books : Books handling registry seen taken left replied connection) :
    (connection.tasks.map HandlerTask.number).Sublist ((taken ++ left).map Prod.fst) := by
  rw [books.task_numbers]
  exact (List.filter_sublist.trans (List.sublist_append_left taken left)).map Prod.fst

theorem Books.refused_part (books : Books handling registry seen taken left replied connection) :
    (connection.refused.map Prod.fst).Sublist ((taken ++ left).map Prod.fst) := by
  have refused : connection.refused.map Prod.fst =
      (taken.filter (fun entry => !registry.serves entry) ++ left).map Prod.fst := by
    rw [books.refused, List.map_append, List.map_append, Registry.refusalsOf, List.map_map,
      List.map_map]
    rfl
  rw [refused]
  exact (List.filter_sublist.append_right left).map Prod.fst

theorem Books.settled_nodup (books : Books handling registry seen taken left replied connection) :
    ((taken ++ left).map Prod.fst).Nodup :=
  books.nodup.sublist ((List.sublist_append_left _ _).map Prod.fst)

theorem Books.tasks_nodup (books : Books handling registry seen taken left replied connection) :
    (connection.tasks.map HandlerTask.number).Nodup :=
  books.settled_nodup.sublist books.tasks_part

theorem Books.refused_nodup (books : Books handling registry seen taken left replied connection) :
    (connection.refused.map Prod.fst).Nodup :=
  books.settled_nodup.sublist books.refused_part

/-! ### Decisions -/

/-- The transport hears of a refusal. -/
theorem Books.decision_of_refused
    (books : Books handling registry seen taken left replied connection) {number : Nat}
    {rejection : Rejection} (member : (number, rejection) ∈ connection.refused) :
    connection.decision? handling number = some (.error rejection) := by
  rw [Connection.decision?, lookup_of_mem books.refused_nodup member]

/-- An open of a type that nothing serves is refused with the text of its failure. -/
theorem Books.decision_of_unserved
    (books : Books handling registry seen taken left replied connection)
    {entry : Nat × ChannelOffer} (isTaken : entry ∈ taken)
    (unserved : registry.serves entry = false) :
    connection.decision? handling entry.1 =
      some (.error (.unsupported entry.2.channelType)) := by
  refine books.decision_of_refused ?_
  rw [books.refused]
  refine List.mem_append_left _ (List.mem_map.2 ⟨entry, List.mem_filter.2 ⟨isTaken, ?_⟩, rfl⟩)
  rw [unserved]
  rfl

/-- An open that was left at the end counts as abandoned. -/
theorem Books.decision_of_left
    (books : Books handling registry seen taken left replied connection)
    {entry : Nat × ChannelOffer} (isLeft : entry ∈ left) :
    connection.decision? handling entry.1 = some (.error .abandoned) := by
  refine books.decision_of_refused ?_
  rw [books.refused]
  exact List.mem_append_right _ (List.mem_map.2 ⟨entry, isLeft, rfl⟩)

theorem Books.mem_refused (books : Books handling registry seen taken left replied connection)
    {refusal : Nat × Rejection} (isRefused : refusal ∈ connection.refused) :
    (∃ entry ∈ taken, registry.serves entry = false ∧ entry.1 = refusal.1) ∨
      ∃ entry ∈ left, entry.1 = refusal.1 := by
  rw [books.refused] at isRefused
  rcases List.mem_append.1 isRefused with unserved | isLeft
  · obtain ⟨entry, member, rfl⟩ := List.mem_map.1 unserved
    obtain ⟨isTaken, notServed⟩ := List.mem_filter.1 member
    exact .inl ⟨entry, isTaken, Bool.not_eq_true' _ ▸ notServed, rfl⟩
  · obtain ⟨entry, member, rfl⟩ := List.mem_map.1 isLeft
    exact .inr ⟨entry, member, rfl⟩

/-- What was taken up for a handler was not refused. -/
theorem Books.unrefused (books : Books handling registry seen taken left replied connection)
    {entry : Nat × ChannelOffer} (isTaken : entry ∈ taken)
    (served : registry.serves entry = true) : connection.refused.lookup entry.1 = none := by
  have distinct := books.settled_nodup
  refine List.lookup_eq_none_iff.2 fun refusal isRefused => bne_iff_ne.2 fun same => ?_
  rcases books.mem_refused isRefused with
    ⟨other, otherTaken, unserved, isOther⟩ | ⟨other, isLeft, isOther⟩
  · obtain rfl : entry = other := List.inj_on_of_nodup_map distinct
      (List.mem_append_left _ isTaken) (List.mem_append_left _ otherTaken)
      (same.trans isOther.symm)
    exact Bool.noConfusion (served.symm.trans unserved)
  · rw [List.map_append, List.nodup_append] at distinct
    exact distinct.2.2 _ (List.mem_map_of_mem isTaken) _ (List.mem_map_of_mem isLeft)
      (same.trans isOther.symm)

/-- An open that was taken up for a handler has its task. -/
theorem Books.exists_task (books : Books handling registry seen taken left replied connection)
    {entry : Nat × ChannelOffer} (isTaken : entry ∈ taken)
    (served : registry.serves entry = true) :
    ∃ task ∈ connection.tasks, task.number = entry.1 := by
  have numbered : entry.1 ∈ connection.tasks.map HandlerTask.number := by
    rw [books.task_numbers]
    exact List.mem_map_of_mem (List.mem_filter.2 ⟨isTaken, served⟩)
  exact List.mem_map.1 numbered

/-- Of an open that has a handler the transport hears from the handler, and from nobody else. -/
theorem Books.decision_of_task
    (books : Books handling registry seen taken left replied connection)
    {task : HandlerTask τ} (member : task ∈ connection.tasks) :
    connection.decision? handling task.number = task.decision? handling := by
  have numbered : task.number ∈ connection.tasks.map HandlerTask.number :=
    List.mem_map_of_mem member
  rw [books.task_numbers] at numbered
  obtain ⟨entry, isServed, isNumber⟩ := List.mem_map.1 numbered
  obtain ⟨isTaken, served⟩ := List.mem_filter.1 isServed
  have unrefused := books.unrefused isTaken served
  rw [isNumber] at unrefused
  rw [Connection.decision?, unrefused, find_of_mem books.tasks_nodup member]
  rfl

/-- Of an open that waits the transport has heard nothing. -/
theorem Books.decision_of_waiting
    (books : Books handling registry seen taken left replied connection)
    {entry : Nat × ChannelOffer} (waits : entry ∈ connection.opens.items.toList) :
    connection.decision? handling entry.1 = none := by
  have distinct := books.nodup
  rw [List.map_append, List.nodup_append] at distinct
  have apart : ∀ number ∈ (taken ++ left).map Prod.fst, number ≠ entry.1 :=
    fun number member => distinct.2.2 number member _ (List.mem_map_of_mem waits)
  have unrefused : connection.refused.lookup entry.1 = none := by
    refine List.lookup_eq_none_iff.2 fun refusal isRefused => bne_iff_ne.2 fun same => ?_
    exact apart _ (books.refused_part.subset (List.mem_map_of_mem isRefused)) same.symm
  have noTask : (connection.tasks.find? fun task => task.number == entry.1) = none := by
    refine List.find?_eq_none.2 fun task member same => ?_
    exact apart _ (books.tasks_part.subset (List.mem_map_of_mem member)) (beq_iff_eq.1 same)
  rw [Connection.decision?, unrefused, noTask]
  rfl

/-! ### Decisions stay -/

variable (handling) in
/-- What comes later: refusals are added, and every task goes on. -/
structure Succeeds (before after : Connection η τ) : Prop where
  refused : ∃ more, after.refused = before.refused ++ more
  tasks : ∀ task ∈ before.tasks, ∃ next ∈ after.tasks, HandlerTask.GoesOn handling task next

theorem Succeeds.of_goesOn {before after : Connection η τ}
    (refused : ∃ more, after.refused = before.refused ++ more)
    (goesOn : List.Forall₂ (HandlerTask.GoesOn handling) before.tasks after.tasks) :
    Succeeds handling before after :=
  ⟨refused, fun _ member => exists_of_forall₂ goesOn member⟩

theorem Succeeds.of_same {before after : Connection η τ}
    (refused : ∃ more, after.refused = before.refused ++ more)
    (tasks : ∃ more, after.tasks = before.tasks ++ more) : Succeeds handling before after := by
  obtain ⟨more, longer⟩ := tasks
  refine ⟨refused, fun task member => ⟨task, ?_, .refl task⟩⟩
  rw [longer]
  exact List.mem_append_left _ member

theorem Succeeds.of_finish (lawful : handling.Lawful) (phase : ServePhase) :
    Succeeds handling connection (connection.finish handling phase) :=
  .of_goesOn ⟨_, rfl⟩ (goesOn_map fun task _ => task.cancel_goesOn lawful)

theorem Turn.succeeds {after : Connection η τ} {shown : Dealings τ} (lawful : handling.Lawful)
    (turn : Turn handling connection shown after) : Succeeds handling connection after := by
  have nothing : ∃ more, connection.refused = connection.refused ++ more :=
    ⟨[], (List.append_nil _).symm⟩
  have noTask : ∃ more, connection.tasks = connection.tasks ++ more :=
    ⟨[], (List.append_nil _).symm⟩
  cases turn with
  | link after reported effect =>
      refine .of_same ?_ ?_
      · rw [effect.refused]
        exact nothing
      · rw [effect.tasks]
        exact noTask
  | began | answered => exact .of_same nothing noTask
  | failed | ended => exact .of_finish lawful _
  | refused => exact .of_same ⟨_, rfl⟩ noTask
  | handed => exact .of_same nothing ⟨_, rfl⟩
  | went tasks log goesOn => exact .of_goesOn nothing goesOn

/-- Once the transport has heard the decision about an open, it stays. -/
theorem Books.decision_stays {before : Connection η τ}
    (books : Books handling registry seen taken left replied connection)
    (succeeds : Succeeds handling before connection) {number : Nat} {decision : Decision}
    (decided : before.decision? handling number = some decision) :
    connection.decision? handling number = some decision := by
  cases refused : before.refused.lookup number with
  | some rejection =>
      obtain ⟨more, longer⟩ := succeeds.refused
      rw [Connection.decision?, refused] at decided
      rw [Connection.decision?, longer, List.lookup_append, refused]
      exact decided
  | none =>
      rw [Connection.decision?, refused] at decided
      obtain ⟨task, found, own⟩ := Option.bind_eq_some_iff.1 decided
      have matched := List.find?_some found
      have isNumber : task.number = number := beq_iff_eq.1 matched
      obtain ⟨next, isNext, goesOn⟩ := succeeds.tasks task (List.mem_of_find?_eq_some found)
      have heard := books.decision_of_task isNext
      rw [goesOn.number, isNumber] at heard
      rw [heard]
      exact goesOn.decided decision own

/-- At the end of the serving every open that is undecided counts as abandoned. -/
theorem Books.decision_of_finish {after : Connection η τ} {later : Dealings τ}
    {takenLater leftLater : List (Nat × ChannelOffer)} {repliedLater : List Request}
    (books : Books handling registry seen taken [] replied connection)
    (lawful : handling.Lawful) {phase : ServePhase}
    (isEnd : after = connection.finish handling phase)
    (booksLater : Books handling registry later takenLater leftLater repliedLater after)
    {entry : Nat × ChannelOffer} (isOpen : entry ∈ seen.opened) :
    after.decision? handling entry.1 =
      some ((connection.decision? handling entry.1).getD (.error .abandoned)) := by
  subst isEnd
  have stays : ∀ {decision}, connection.decision? handling entry.1 = some decision →
      (connection.finish handling phase).decision? handling entry.1 = some decision :=
    booksLater.decision_stays (.of_finish lawful phase)
  rw [books.opened, List.append_nil] at isOpen
  rcases List.mem_append.1 isOpen with isTaken | waits
  · cases served : registry.serves entry with
    | false =>
        have refused := books.decision_of_unserved isTaken served
        rw [refused, stays refused]
        rfl
    | true =>
        obtain ⟨task, member, isNumber⟩ := books.exists_task isTaken served
        have before := books.decision_of_task member
        have stopped : task.cancel handling ∈ (connection.finish handling phase).tasks :=
          List.mem_map_of_mem member
        have heard := booksLater.decision_of_task stopped
        rw [task.number_cancel, isNumber] at heard
        rw [isNumber] at before
        rw [heard, before, task.decision_cancel lawful]
  · have isRefused : (entry.1, Rejection.abandoned) ∈
        (connection.finish handling phase).refused :=
      List.mem_append_right _ (List.mem_map.2 ⟨entry, waits, rfl⟩)
    rw [books.decision_of_waiting waits, booksLater.decision_of_refused isRefused]
    rfl

end Account

end Connection

end SshServer
