import SshServer.Proofs.Output.Delivery

/-!
Contract: places in a run, in its log and in the output.

Owns: the output at a place of a run, what the log of the run shows of the operation there, the
messages that had succeeded by then, and what an operation does to the line of messages under way.
Does not own: what the account of a log says of the output (`Proofs.Output.Delivery`).

A place is the number of the operations before it. What succeeds at a place comes next in the output,
behind all that had succeeded before, so two messages stand there in the order of their places.
-/

namespace SshServer.Outbox

/-! ### Places in a run -/

/-- The output at a place of a run, before the operation there. -/
def atPlace (box : Outbox) (acts : List OutputAct) (place : Nat) : Outbox :=
  box.run (acts.take place)

/-- From one place of a run to a later one there are the operations between. -/
theorem exists_run_atPlace (box : Outbox) (acts : List OutputAct) {place later : Nat}
    (order : place ≤ later) :
    ∃ between, box.atPlace acts later = (box.atPlace acts place).run between := by
  obtain ⟨between, split⟩ := List.take_prefix_take_left (l := acts) order
  exact ⟨between, by rw [atPlace, ← split, run_append, atPlace]⟩

theorem atPlace_succ (box : Outbox) {acts : List OutputAct} {place : Nat} {act : OutputAct}
    (here : acts[place]? = some act) :
    box.atPlace acts (place + 1) = (box.atPlace acts place).step act := by
  rw [atPlace, List.take_add_one, here, run_append]
  rfl

/-- The log of a run has each operation with the answer that it was given at its place. -/
theorem getElem?_transcript (box : Outbox) (acts : List OutputAct) (place : Nat) :
    (box.transcript acts)[place]? =
      acts[place]?.map fun act => (act, ((box.atPlace acts place).perform act).2) := by
  induction acts generalizing box place with
  | nil => rfl
  | cons act rest inductionHypothesis =>
      cases place with
      | zero => rfl
      | succ place => exact inductionHypothesis (box.step act) place

theorem take_transcript (box : Outbox) (acts : List OutputAct) (place : Nat) :
    (box.transcript acts).take place = box.transcript (acts.take place) := by
  induction acts generalizing box place with
  | nil => cases place <;> rfl
  | cons act rest inductionHypothesis =>
      cases place with
      | zero => rfl
      | succ place => exact congrArg (_ :: ·) (inductionHypothesis (box.step act) place)

/-- What the log shows at a place was done and answered there. -/
theorem answer_at {box : Outbox} {acts : List OutputAct} {place : Nat} {act : OutputAct}
    {answer : OutputAnswer} (shown : (box.transcript acts)[place]? = some (act, answer)) :
    acts[place]? = some act ∧ ((box.atPlace acts place).perform act).2 = answer := by
  rw [getElem?_transcript, Option.map_eq_some_iff] at shown
  obtain ⟨done, here, same⟩ := shown
  obtain ⟨rfl, answered⟩ := Prod.mk.inj same
  exact ⟨here, answered⟩

/-! ### Places in the output -/

theorem Account.succeeded_enter (account : Account) (entry : OutputAct × OutputAnswer) :
    account.succeeded <+: (account.enter entry).succeeded := by
  have concluded (account : Account) (message : Message) (result : Except Failure Unit) :
      account.succeeded <+: (account.conclude message result).succeeded := by
    cases result with
    | ok _ => exact List.prefix_append _ _
    | error _ => exact List.prefix_rfl
  unfold enter
  split
  · exact concluded _ _ _
  · exact List.prefix_rfl
  · split
    · exact List.prefix_rfl
    · exact concluded (account.forget _) _ _
  · exact List.prefix_rfl
  · exact concluded _ _ _
  · exact concluded _ _ _
  · split
    · exact List.prefix_rfl
    · exact List.prefix_append _ _
  · exact concluded _ _ _
  · exact concluded _ _ _
  · exact List.prefix_rfl
  · exact List.prefix_rfl

theorem Account.succeeded_foldl (account : Account) (log : List (OutputAct × OutputAnswer)) :
    account.succeeded <+: (log.foldl enter account).succeeded := by
  induction log generalizing account with
  | nil => exact List.prefix_rfl
  | cons entry rest inductionHypothesis =>
      exact (account.succeeded_enter entry).trans (inductionHypothesis (account.enter entry))

theorem Account.received_enter (account : Account) {act : OutputAct} (answer : OutputAnswer)
    (isOther : act ≠ .stream .take) :
    (account.enter (act, answer)).received = account.received := by
  have concluded (account : Account) (message : Message) (result : Except Failure Unit) :
      (account.conclude message result).received = account.received := by
    cases result <;> rfl
  unfold enter
  split
  · exact concluded _ _ _
  · rfl
  · split
    · rfl
    · exact concluded _ _ _
  · rfl
  · exact concluded _ _ _
  · exact concluded _ _ _
  · split
    · rfl
    · rfl
  · exact concluded _ _ _
  · exact concluded _ _ _
  next same => exact absurd (Prod.mk.inj same).1 isOther
  · rfl

/-- What the transport takes by an operation. -/
def takenBy (box : Outbox) : OutputAct → List Message
  | .stream .take => (box.take?.map Prod.fst).toList
  | _ => []

/-- The transport takes the first messages of the line, and what is queued comes behind the others. -/
theorem line_step (box : Outbox) (act : OutputAct) (attached : (box.step act).attached = true) :
    box.takenBy act ++ (box.step act).queue.toList.map Prod.fst =
      box.queue.toList.map Prod.fst ++ newMessages box (box.step act) := by
  by_cases takes : act = .stream .take
  · subst takes
    show (box.take?.map Prod.fst).toList ++ (box.performStream .take).1.queue.toList.map Prod.fst =
      box.queue.toList.map Prod.fst ++ newMessages box (box.performStream .take).1
    unfold performStream
    cases taken : box.take? with
    | none =>
        rw [newMessages_of_queue_eq rfl, List.append_nil]
        rfl
    | some pair =>
        simp only [take?, Option.map_eq_some_iff, Prod.exists] at taken
        obtain ⟨message, credit, queue, popped, rfl⟩ := taken
        have first := Fifo.toList_of_pop? popped
        rw [newMessages_of_length_le (by rw [first]; exact Nat.le_succ _), List.append_nil, first]
        rfl
  · -- To somebody who begins to keep the account now, what is queued has just succeeded.
    let account : Account :=
      { waiting := box.sends, succeeded := box.queue.toList.map Prod.fst }
    have agree : Account.Matches account box :=
      ⟨rfl, fun _ => List.nil_append _, List.prefix_rfl⟩
    have complete := (agree.perform act).complete attached
    rw [account.received_enter _ takes, List.nil_append] at complete
    obtain ⟨new, grown⟩ := account.succeeded_enter (act, (box.perform act).2)
    have behind : (box.step act).queue.toList.map Prod.fst =
        box.queue.toList.map Prod.fst ++ new := complete.trans grown.symm
    have before : (box.queue.toList.map Prod.fst).length = box.queue.toList.length :=
      List.length_map _
    have isNew : newMessages box (box.step act) = new := by
      rw [newMessages, List.map_drop, behind, ← Fifo.length_toList, ← before, List.drop_left]
    have nothing : box.takenBy act = [] := by
      unfold takenBy
      split
      · exact absurd rfl takes
      · rfl
    rw [nothing, isNew, List.nil_append]
    exact behind

/-- The messages that had succeeded before a place of a log. One that succeeds there comes next in
the output. -/
def succeededBefore (log : List (OutputAct × OutputAnswer)) (place : Nat) : List Message :=
  (Account.ofTranscript (log.take place)).succeeded

theorem succeededBefore_mono (log : List (OutputAct × OutputAnswer)) {place later : Nat}
    (order : place ≤ later) : succeededBefore log place <+: succeededBefore log later := by
  obtain ⟨between, split⟩ := List.take_prefix_take_left (l := log) order
  rw [succeededBefore, succeededBefore, ← split, Account.ofTranscript, Account.ofTranscript,
    List.foldl_append]
  exact Account.succeeded_foldl _ between

theorem succeededBefore_succ {log : List (OutputAct × OutputAnswer)} {place : Nat}
    {entry : OutputAct × OutputAnswer} (shown : log[place]? = some entry) :
    succeededBefore log (place + 1) =
      ((Account.ofTranscript (log.take place)).enter entry).succeeded := by
  rw [succeededBefore, List.take_add_one, shown, Account.ofTranscript, List.foldl_append]
  rfl

theorem succeededBefore_begins (log : List (OutputAct × OutputAnswer)) (place : Nat) :
    succeededBefore log place <+: (Account.ofTranscript log).succeeded := by
  have whole := succeededBefore_mono log (Nat.le_max_left place log.length)
  rw [succeededBefore, succeededBefore, List.take_of_length_le (Nat.le_max_right _ _)] at whole
  exact whole

end SshServer.Outbox
